import StaticHost.Settings

/-!
What a command line means, and what can be wrong with one.
-/

namespace StaticHost.CommandLine

inductive Command
  | build
  | render (route : String)
  | metadata
  deriving DecidableEq, Repr

/-- A command line that was understood. -/
structure Invocation where
  config : Option Files.Path := none
  out : Option Files.Path := none
  verbose : Bool := false
  command : Option Command := none
  deriving DecidableEq, Repr

/-- The command to run; without one the site is built. -/
def Invocation.selected (i : Invocation) : Command :=
  i.command.getD .build

/-- Settings with the output directory of the command line, if it names one. -/
def Invocation.override (i : Invocation) (s : Settings) : Settings :=
  match i.out with
  | some dir => { s with outputDirectory := Bytes.show dir }
  | none => s

inductive Subcommand
  | build
  | render
  | metadata
  deriving DecidableEq, Repr

/-- Where an argument stands: before the command's name, or behind it. -/
inductive Scope
  | top
  | sub (s : Subcommand)
  deriving DecidableEq, Repr

inductive ValueOption
  | config
  | out
  deriving DecidableEq, Repr

inductive Switch
  | verbose
  | help
  | version
  deriving DecidableEq, Repr

inductive Topic
  | scope (s : Scope)
  | help
  deriving DecidableEq, Repr

/-- Why a command line is not run: it is wrong, or it asks about the program itself. -/
inductive Refusal
  | unknownArgument (part : String)
  | unknownSubcommand (part : String)
  | missingValue (o : ValueOption)
  | repeatedOption (o : ValueOption)
  | repeatedVerbose
  | unwantedValue (part : String) (s : Switch)
  | missingRoute
  | routeNotText
  | help (topic : Topic)
  | version
  deriving DecidableEq, Repr

def ValueOption.label : ValueOption → String
  | config => "--config <CONFIG>"
  | out => "--out <OUT>"

def Switch.label : Switch → String
  | verbose => "--verbose"
  | help => "--help"
  | version => "--version"

end StaticHost.CommandLine
