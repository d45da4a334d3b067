import StaticHost.Settings

/-!
What the host logs, and the lines it is logged as.
-/

namespace StaticHost.Log

open Files (Path FileError)

inductive Level
  | error
  | warn
  | info
  | debug
  | trace
  deriving DecidableEq, Repr

def Level.rank : Level → Nat
  | error => 1
  | warn => 2
  | info => 3
  | debug => 4
  | trace => 5

/-- The name of a level, in five columns. -/
def Level.label : Level → String
  | error => "ERROR"
  | warn => " WARN"
  | info => " INFO"
  | debug => "DEBUG"
  | trace => "TRACE"

inductive Event
  | malformedSettings (path : Path) (reason : Json.Error)
  | unreadableSettings (path : Path) (reason : FileError)
  | unwrittenDefaults (path : Path) (reason : HostError)
  | wroteDefaults (path : Path)
  | loadedSettings (settings : Settings)
  | wroteFile (path : Path) (bytes : Nat)
  | builtSite (output : Path) (pages stylesheets : Nat)
  | done (output : Path)

namespace Event

def level : Event → Level
  | malformedSettings .. | unreadableSettings .. | unwrittenDefaults .. => .warn
  | builtSite .. | done _ => .info
  | wroteDefaults _ | loadedSettings _ | wroteFile .. => .debug

def target : Event → String
  | malformedSettings .. | unreadableSettings .. | unwrittenDefaults .. | wroteDefaults _ =>
    "microservices_frontend_host_lib::settings"
  | loadedSettings _ => "frontend_host"
  | wroteFile .. | builtSite .. => "microservices_frontend_host_lib::site"
  | done _ => "microservices_frontend_host_lib::cli"

def message : Event → String
  | malformedSettings .. => "malformed settings, using defaults"
  | unreadableSettings .. => "unreadable settings, using defaults"
  | unwrittenDefaults .. => "could not write default settings"
  | wroteDefaults _ => "wrote default settings"
  | loadedSettings _ => "loaded settings"
  | wroteFile .. => "wrote file"
  | builtSite .. => "site built"
  | done _ => "done"

def fields : Event → List (String × String)
  | malformedSettings path reason => [("path", Bytes.show path), ("error", reason.message)]
  | unreadableSettings path reason => [("path", Bytes.show path), ("error", reason.message)]
  | unwrittenDefaults path reason => [("path", Bytes.show path), ("error", reason.message)]
  | wroteDefaults path => [("path", Bytes.show path)]
  | loadedSettings settings => [("settings", settings.describe)]
  | wroteFile path bytes => [("path", Bytes.show path), ("bytes", toString bytes)]
  | builtSite output pages stylesheets =>
    [("output", Bytes.show output), ("pages", toString pages),
      ("stylesheets", toString stylesheets)]
  | done output => [("output", Bytes.show output)]

def fieldNames (e : Event) : List String :=
  "message" :: e.fields.map Prod.fst

/-- The event as text, without the time. -/
def line (e : Event) : String :=
  e.level.label ++ " " ++ e.target ++ ": " ++ e.message
    ++ String.join (e.fields.map fun (name, value) => " " ++ name ++ "=" ++ value)

end Event

end StaticHost.Log
