import StaticHost.CommandLine.Help

/-!
Understanding a command line.

Arguments are taken from left to right. An option that waits for its value, or has just been given
one, is pending; it is settled, and its faults are found, when the next option or positional
argument is accepted, or at the end. A command's name starts a second level with options of its
own; the options before it are settled last.
-/

namespace StaticHost.CommandLine

/-- The options that were settled at one level. -/
structure Settled where
  config : Option Files.Path := none
  out : Option Files.Path := none
  verbose : Bool := false
  route : Option String := none
  deriving DecidableEq, Repr

inductive Pending
  | none
  | option (o : ValueOption) (value : Option Bytes)
  | route (value : Bytes)
  deriving DecidableEq, Repr

/-- Where the parser stands between two arguments of a level. -/
structure State where
  settled : Settled := {}
  pending : Pending := .none
  /-- Are all further arguments positional? -/
  positionalOnly : Bool := false
  /-- Was a route given? -/
  hasRoute : Bool := false
  deriving DecidableEq, Repr

def Settled.get (s : Settled) : ValueOption → Option Files.Path
  | .config => s.config
  | .out => s.out

def Settled.set (s : Settled) (value : Files.Path) : ValueOption → Settled
  | .config => { s with config := some value }
  | .out => { s with out := some value }

/-- Gives an option its value: once, and not an empty one. -/
def Settled.give (s : Settled) (o : ValueOption) (value : Bytes) : Except Refusal Settled :=
  if (s.get o).isSome then .error (.repeatedOption o)
  else if value = [] then .error (.missingValue o)
  else .ok (s.set value o)

namespace State

def settle (s : State) : Except Refusal State :=
  match s.pending with
  | .none => .ok s
  | .option o .none => .error (.missingValue o)
  | .option o (some value) =>
    (s.settled.give o value).map fun settled => { s with settled, pending := .none }
  | .route value =>
    match Bytes.toString? value with
    | some route =>
      .ok { s with settled := { s.settled with route := some route }, pending := .none }
    | none => .error .routeNotText

def attach (s : State) (o : ValueOption) (value : Bytes) : Except Refusal State := do
  let s ← s.settle
  return { s with settled := ← s.settled.give o value }

/-- An option whose value is the next argument. -/
def await (s : State) (o : ValueOption) : Except Refusal State := do
  return { ← s.settle with pending := .option o .none }

def flip (s : State) (scope : Scope) (w : Switch) : Except Refusal State := do
  let s ← s.settle
  match w with
  | .verbose =>
    if s.settled.verbose then throw .repeatedVerbose
    return { s with settled := { s.settled with verbose := true } }
  | .help => throw (.help (.scope scope))
  | .version => throw .version

end State

def Subcommand.ofName? (arg : Bytes) : Option Subcommand :=
  [Subcommand.build, .render, .metadata].find? fun s => Bytes.ofString s.name = arg

def isHelp (arg : Bytes) : Bool :=
  arg = Bytes.ofString "help"

def longOption? (scope : Scope) (name : Bytes) : Option (ValueOption ⊕ Switch) :=
  if name = Bytes.ofString "config" then some (.inl .config)
  else if name = Bytes.ofString "out" then some (.inl .out)
  else if name = Bytes.ofString "verbose" then some (.inr .verbose)
  else if name = Bytes.ofString "help" then some (.inr .help)
  else if name = Bytes.ofString "version" ∧ scope = .top then some (.inr .version)
  else none

def shortOption? (scope : Scope) (letter : UInt8) : Option (ValueOption ⊕ Switch) :=
  if letter = 'c'.toUInt8 then some (.inl .config)
  else if letter = 'o'.toUInt8 then some (.inl .out)
  else if letter = 'v'.toUInt8 then some (.inr .verbose)
  else if letter = 'h'.toUInt8 then some (.inr .help)
  else if letter = 'V'.toUInt8 ∧ scope = .top then some (.inr .version)
  else none

/-- How a letter that is no option is shown: by itself, or with all that follows if it is no
character. -/
def unknownLetter (rest : Bytes) : String :=
  match (Utf8.pieces .ready rest).head? with
  | some (some c) => String.ofList ['-', c]
  | _ => "-" ++ Bytes.show rest

/-- Short options behind one dash. The first that takes a value takes the rest of the argument. -/
def takeCluster (scope : Scope) : State → Bytes → Except Refusal State
  | s, [] => .ok s
  | s, letter :: rest =>
    match shortOption? scope letter with
    | none => .error (.unknownArgument (unknownLetter (letter :: rest)))
    | some (.inr w) => (s.flip scope w).bind fun s => takeCluster scope s rest
    | some (.inl o) =>
      match rest with
      | [] => s.await o
      | first :: value => s.attach o (if first = '='.toUInt8 then value else rest)

def takeLong (scope : Scope) (s : State) (name : Bytes) (value : Option Bytes) :
    Except Refusal State :=
  match longOption? scope name, value with
  | none, _ => .error (.unknownArgument ("--" ++ Bytes.show name))
  | some (.inl o), some value => s.attach o value
  | some (.inl o), none => s.await o
  | some (.inr w), some value => .error (.unwantedValue (Bytes.show value) w)
  | some (.inr w), none => s.flip scope w

/-- A positional argument. Only `render` takes one. -/
def takePositional (scope : Scope) (s : State) (arg : Bytes) : Except Refusal State :=
  match scope with
  | .sub .render =>
    if s.hasRoute then .error (.unknownArgument (Bytes.show arg))
    else s.settle.map fun s => { s with pending := .route arg, hasRoute := true }
  | .sub _ => .error (.unknownArgument (Bytes.show arg))
  | .top =>
    if s.positionalOnly ∧ (isHelp arg ∨ (Subcommand.ofName? arg).isSome) then
      .error (.unknownArgument (Bytes.show arg))
    else .error (.unknownSubcommand (Bytes.show arg))

/-- The name and the value of a long option, from what follows the two dashes. -/
def splitLong (body : Bytes) : Bytes × Option Bytes :=
  let name := body.takeWhile (· != '='.toUInt8)
  if name.length < body.length then (name, some (body.drop (name.length + 1))) else (name, none)

/-- An argument that does not look like an option: the value of one that waits, or positional. -/
def takePlain (scope : Scope) (s : State) (arg : Bytes) : Except Refusal State :=
  match s.pending with
  | .option o .none => .ok { s with pending := .option o (some arg) }
  | _ => takePositional scope s arg

def take (scope : Scope) (s : State) (arg : Bytes) : Except Refusal State :=
  if s.positionalOnly then takePositional scope s arg
  else match arg with
    | [] => takePlain scope s arg
    | first :: rest =>
      if first ≠ '-'.toUInt8 then takePlain scope s arg
      else match rest with
        | [] => takePlain scope s arg
        | second :: body =>
          if second ≠ '-'.toUInt8 then takeCluster scope s rest
          else if body = [] then .ok { s with positionalOnly := true }
          else takeLong scope s (splitLong body).1 (splitLong body).2

/-- May the next argument be a command's name? Not where a value or a positional is due. -/
def State.admitsCommand (s : State) : Bool :=
  !s.positionalOnly && match s.pending with
    | .option _ .none => false
    | _ => true

def takeAll (scope : Scope) : State → List Bytes → Except Refusal State
  | s, [] => .ok s
  | s, arg :: rest => (take scope s arg).bind fun s => takeAll scope s rest

def parseSub (c : Subcommand) (args : List Bytes) : Except Refusal (Settled × Command) := do
  let s ← (← takeAll (.sub c) {} args).settle
  match c, s.settled.route with
  | .build, _ => return (s.settled, .build)
  | .metadata, _ => return (s.settled, .metadata)
  | .render, some route => return (s.settled, .render route)
  | .render, none => throw .missingRoute

/-- The answer to `help` and the names that follow it. -/
def helpFor : List Bytes → Refusal
  | [] => .help (.scope .top)
  | name :: rest =>
    let topic : Option Topic :=
      if isHelp name then some .help else (Subcommand.ofName? name).map fun s => .scope (.sub s)
    match topic, rest with
    | none, _ => .unknownSubcommand (Bytes.show name)
    | some topic, [] => .help topic
    | some _, next :: _ => .unknownSubcommand (Bytes.show next)

/-- Both levels together: an option behind the command's name wins over one before it. -/
def merge (top sub : Settled) (command : Option Command) : Invocation where
  config := sub.config <|> top.config
  out := sub.out <|> top.out
  verbose := top.verbose || sub.verbose
  command := command

/-- The whole command line, from state `s` of the level before the command's name. -/
def parseFrom : State → List Bytes → Except Refusal Invocation
  | s, [] => do return merge (← s.settle).settled {} none
  | s, arg :: rest =>
    if s.admitsCommand ∧ isHelp arg then .error (helpFor rest)
    else match (if s.admitsCommand then Subcommand.ofName? arg else none) with
      | some c => do
        let (sub, command) ← parseSub c rest
        return merge (← s.settle).settled sub (some command)
      | none => (take .top s arg).bind fun s => parseFrom s rest

def parse (args : List Bytes) : Except Refusal Invocation :=
  parseFrom {} args

end StaticHost.CommandLine
