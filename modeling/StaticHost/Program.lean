import StaticHost.CommandLine.Parser
import StaticHost.Log.Filter
import StaticHost.Session
import StaticHost.Site

/-!
The program: from a command line, an environment and a clock to what is printed, logged and written.
-/

namespace StaticHost

open CommandLine

open Files (FileError)

/-- Why a command failed: what was attempted and what went wrong, or just how the output failed. -/
inductive Failure
  | command (context : String) (cause : HostError)
  | output (reason : FileError)
  deriving DecidableEq, Repr

namespace Failure

/-- All messages, outermost first. -/
def chain : Failure → List String
  | command context cause => context :: cause.chain
  | output reason => [reason.message]

/-- All messages on one line. -/
def message (f : Failure) : String :=
  ": ".intercalate f.chain

/-- Further lines of a message stand below its first. -/
def indent (margin : String) (s : String) : String :=
  String.ofList (s.toList.flatMap fun c => if c = '\n' then '\n' :: margin.toList else [c])

/-- The causes of a failure: they are numbered if there is more than one. -/
def reportCauses : List String → String
  | [] => ""
  | [cause] => "\n\nCaused by:\n    " ++ indent "    " cause
  | causes => "\n\nCaused by:" ++ String.join (causes.mapIdx fun i cause =>
      "\n    " ++ toString i ++ ": " ++ indent "       " cause)

def report (f : Failure) : String :=
  "Error: " ++ f.chain.headD "" ++ reportCauses f.chain.tail ++ "\n"

end Failure

/-- Prints a text as the last that a command does. -/
def Command.print (text : String) : Session (Except Failure Unit) :=
  .print (text ++ "\n") fun answer => .done (answer.mapError .output)

def Command.run (c : CommandLine.Command) (s : Settings) (now : Time.Instant) :
    Session (Except Failure Unit) :=
  match c with
  | .build => .work (Site.build s now) fun
    | .ok r => .work (.log (.done r.outputDirectory) (.done ())) fun () => .done (.ok ())
    | .error e => .done (.error (.command ("Failed to build site into " ++ s.outputDirectory) e))
  | .render route =>
    match s.validate with
    | .ok () => Command.print ((Page.ofRoute route).document (Stylesheet.hrefs s.basePath))
    | .error e => .done (.error (.command "Cannot render with current settings" e))
  | .metadata => Command.print Metadata.site.toJson

def Invocation.settings (i : CommandLine.Invocation) (folders : Settings.Folders) : Job Settings :=
  do return i.override (← Settings.load (i.config.getD folders.settingsFile))

/-- What a run of the program depends on besides its arguments and the disk. -/
structure Environment where
  folders : Settings.Folders
  /-- The text of the log filter, if one is set. -/
  logFilter : Option String
  now : Time.Instant

inductive Exit
  | refused (r : Refusal)
  | finished
  | failed (f : Failure)
  /-- Reading the log filter broke off. -/
  | broken
  deriving DecidableEq, Repr

namespace Exit

def code : Exit → UInt32
  | refused r => if r.isAnswer then 0 else 2
  | finished => 0
  | failed _ => 1
  | broken => 101

/-- What is printed on standard error, besides the log and the runtime's own words. -/
def complaint : Exit → String
  | refused r => if r.isAnswer then "" else r.printed ++ "\n"
  | finished | broken => ""
  | failed f => f.report

end Exit

namespace Environment

/-- The filter that is set, if it can be understood. -/
def filter? (env : Environment) : Option Log.Filter :=
  env.logFilter.bind fun text => (Log.Filter.ofText text).toOption

/-- Is there a filter that cannot be read to its end? -/
def breaksOff (env : Environment) : Bool :=
  env.logFilter.any fun text => Log.Filter.ofText text matches .error .splitCharacter

def loadFilter (env : Environment) (i : CommandLine.Invocation) : Log.Filter :=
  env.filter?.getD (.upTo (if i.verbose then .debug else .info))

/-- The filter once they are: without one in the environment, the settings can ask for more. -/
def runFilter (env : Environment) (i : CommandLine.Invocation) (s : Settings) : Log.Filter :=
  if s.debugLogs ∧ env.filter?.isNone then .upTo .debug else env.loadFilter i

end Environment

def Invocation.session (i : CommandLine.Invocation) (env : Environment) : Session Exit :=
  .work ((Invocation.settings i env.folders).keepEvents (env.loadFilter i).allows) fun s =>
    let body : Session (Except Failure Unit) :=
      .work (.log (.loadedSettings s) (.done ())) fun () => Command.run i.selected s env.now
    (body.keepEvents (env.runFilter i s).allows).bind fun
      | .ok () => .done .finished
      | .error f => .done (.failed f)

/-- Runs the program. Help is an answer that is printed, and nobody asks whether that went well. -/
def program (args : List Bytes) (env : Environment) : Session Exit :=
  match parse args with
  | .error r =>
    if r.isAnswer then .print r.message fun _ => .done (.refused r) else .done (.refused r)
  | .ok i => if env.breaksOff then .done .broken else Invocation.session i env

end StaticHost
