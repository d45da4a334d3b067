import StaticHost.CommandLine.Basic
import StaticHost.Text.Lines
import StaticHost.Text.Terminal

/-!
What the program says about itself, and the first line of what it says about a wrong command line.
-/

namespace StaticHost.CommandLine

def Subcommand.name : Subcommand → String
  | build => "build"
  | render => "render"
  | metadata => "metadata"

def Subcommand.about : Subcommand → String
  | build => "Render every page and write the static site (default)"
  | render => "Print one rendered page document to stdout"
  | metadata => "Print the page metadata as JSON"

def helpAbout : String :=
  "Print this message or the help of the given subcommand(s)"

def optionLines (s : Scope) : List String :=
  ["Options:",
    "  -c, --config <CONFIG>  Settings file path",
    "  -o, --out <OUT>        Output directory override",
    "  -v, --verbose          Enable verbose logging",
    "  -h, --help             Print help"]
  ++ if s = .top then ["  -V, --version          Print version"] else []

def Topic.lines : Topic → List String
  | .scope .top =>
    ["Static host for the microservices frontend",
      "",
      "Usage: frontend-host [OPTIONS] [COMMAND]",
      "",
      "Commands:",
      "  build     " ++ Subcommand.build.about,
      "  render    " ++ Subcommand.render.about,
      "  metadata  " ++ Subcommand.metadata.about,
      "  help      " ++ helpAbout,
      ""]
    ++ optionLines .top
  | .scope (.sub .render) =>
    [Subcommand.render.about,
      "",
      "Usage: frontend-host render [OPTIONS] <ROUTE>",
      "",
      "Arguments:",
      "  <ROUTE>  Route token, e.g. `home`; unknown routes render the not-found page",
      ""]
    ++ optionLines (.sub .render)
  | .scope (.sub s) =>
    [s.about, "", "Usage: frontend-host " ++ s.name ++ " [OPTIONS]", ""] ++ optionLines (.sub s)
  | .help =>
    [helpAbout,
      "",
      "Usage: frontend-host help [COMMAND]...",
      "",
      "Arguments:",
      "  [COMMAND]...  Print help for the subcommand(s)"]

def Topic.text (t : Topic) : String :=
  String.join (t.lines.map (· ++ "\n"))

def versionText : String := "frontend-host 0.1.0\n"

namespace Refusal

def isAnswer : Refusal → Bool
  | help _ | version => true
  | _ => false

/-- An answer, or what an error says before it explains itself. Parts of the command line are shown
by `plain`. -/
def textWith (plain : List Char → List Char) : Refusal → String
  | unknownArgument part => "error: unexpected argument '" ++ shown part ++ "' found"
  | unknownSubcommand part => "error: unrecognized subcommand '" ++ shown part ++ "'"
  | missingValue o => "error: a value is required for '" ++ o.label ++ "' but none was supplied"
  | repeatedOption o => "error: the argument '" ++ o.label ++ "' cannot be used multiple times"
  | repeatedVerbose => "error: the argument '--verbose' cannot be used multiple times"
  | unwantedValue part s =>
    "error: unexpected value '" ++ shown part ++ "' for '" ++ s.label
      ++ "' found; no more were expected"
  | missingRoute => "error: the following required arguments were not provided:"
  | routeNotText => "error: invalid UTF-8 was detected in one or more arguments"
  | help topic => topic.text
  | version => versionText
where
  shown (part : String) : String :=
    String.ofList (plain part.toList)

/-- An answer in full, or the first line of an error. -/
def message (r : Refusal) : String :=
  if r.isAnswer then r.textWith Text.Terminal.plain
  else Text.firstLine (r.textWith Text.Terminal.plain)

def printed (r : Refusal) : String :=
  Text.firstLine (r.textWith Text.Terminal.plainStream)

end Refusal

end StaticHost.CommandLine
