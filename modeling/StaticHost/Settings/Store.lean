import StaticHost.Job

/-!
Where settings are kept, how they are loaded and how they are saved.
-/

namespace StaticHost.Settings

open Files (Path)

structure Folders where
  home : Option Path := none
  configHome : Option Path := none

/-- The directory of configuration files: the one that is set, if it is absolute, or `.config` in
the home directory. -/
def Folders.config (f : Folders) : Path :=
  match f.configHome.filter Path.isAbsolute with
  | some dir => dir
  | none =>
    match f.home with
    | some home => home.join (.ofString ".config")
    | none => []

/-- The file that holds the settings, unless another one is named. -/
def Folders.settingsFile (f : Folders) : Path :=
  (f.config.join (.ofString "microservices_frontend")).join (.ofString "settings.json")

def save (p : Path) (s : Settings) : Job (Except HostError Unit) :=
  Job.saveText p s.toJson

/-- Loads the settings from a file. A file that is missing is written with the defaults; one that
cannot be read, or does not hold settings, is left alone, and the defaults are used. -/
def load (p : Path) : Job Settings := do
  match ← Job.readText p with
  | .ok text =>
    match ofJson text with
    | .ok s => return s
    | .error e => .log (.malformedSettings p e) (.done {})
  | .error .notFound =>
    match ← save p {} with
    | .ok () => .log (.wroteDefaults p) (.done {})
    | .error e => .log (.unwrittenDefaults p e) (.done {})
  | .error e => .log (.unreadableSettings p e) (.done {})

end StaticHost.Settings
