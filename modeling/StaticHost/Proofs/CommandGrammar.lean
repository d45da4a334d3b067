import Mathlib.Tactic.Common
import StaticHost.CommandLine.Parser

/-!
The grammar of command lines, and what its sentences mean.

An argument is an option that is complete in itself, an option that needs the next argument for its
value, or plain. One level of a command line is a list of these, with the options and the positional
arguments they spell as its items; behind two dashes everything is positional. A sentence is one
level, or a command's name between two of them.
-/

namespace StaticHost.CommandLine

inductive Item
  | verbose
  | value (o : ValueOption) (v : Bytes)
  | positional (arg : Bytes)
  deriving DecidableEq

abbrev dash : UInt8 := '-'.toUInt8

abbrev equals : UInt8 := '='.toUInt8

/-- The argument behind which everything is positional. -/
def dashes : Bytes := [dash, dash]

def ValueOption.name : ValueOption → Bytes
  | config => Bytes.ofString "config"
  | out => Bytes.ofString "out"

def ValueOption.letter : ValueOption → UInt8
  | config => 'c'.toUInt8
  | out => 'o'.toUInt8

def ValueOption.word (o : ValueOption) : Bytes :=
  dash :: dash :: o.name

/-- The argument does not look like an option: it starts with no dash, or is just a dash. -/
def IsPlain (arg : Bytes) : Prop :=
  arg.head? = some dash → arg = [dash]

instance (arg : Bytes) : Decidable (IsPlain arg) :=
  inferInstanceAs (Decidable (_ → _))

/-- What may stand before the letter of an option in a cluster. -/
inductive Switches : Bytes → List Item → Prop
  | none : Switches [] []
  | verbose : Switches ['v'.toUInt8] [.verbose]

/-- The text behind the letter of an option gives it a value; one equals sign is no part of it. -/
def Attached (text v : Bytes) : Prop :=
  text = equals :: v ∨ text = v ∧ v.head? ≠ some equals

inductive Complete : Bytes → List Item → Prop
  | verbose : Complete (Bytes.ofString "--verbose") [.verbose]
  | long (o : ValueOption) {v : Bytes} (hv : v ≠ []) :
    Complete (o.word ++ equals :: v) [.value o v]
  | short : Complete [dash, 'v'.toUInt8] [.verbose]
  | cluster {letters : Bytes} {items : List Item} (hs : Switches letters items) (o : ValueOption)
    {text v : Bytes} (ht : Attached text v) (hv : v ≠ []) :
    Complete (dash :: (letters ++ o.letter :: text)) (items ++ [.value o v])

/-- Options the last of which has its value in the next argument. -/
inductive Open : Bytes → List Item → ValueOption → Prop
  | long (o : ValueOption) : Open o.word [] o
  | cluster {letters : Bytes} {items : List Item} (hs : Switches letters items) (o : ValueOption) :
    Open (dash :: (letters ++ [o.letter])) items o

/-- One level of a command line: options and positional arguments in any order, and perhaps two
dashes, behind which everything is positional. The flag says whether they are there. -/
inductive Level : List Bytes → List Item → Bool → Prop
  | nil : Level [] [] false
  | complete {word : Bytes} {args : List Bytes} {items rest : List Item} {closed : Bool}
    (hw : Complete word items) (h : Level args rest closed) :
    Level (word :: args) (items ++ rest) closed
  | valued {word v : Bytes} {args : List Bytes} {items rest : List Item} {o : ValueOption}
    {closed : Bool} (hw : Open word items o) (hp : IsPlain v) (hv : v ≠ [])
    (h : Level args rest closed) : Level (word :: v :: args) (items ++ .value o v :: rest) closed
  | plain {arg : Bytes} {args : List Bytes} {rest : List Item} {closed : Bool} (hp : IsPlain arg)
    (h : Level args rest closed) : Level (arg :: args) (.positional arg :: rest) closed
  | closed (behind : List Bytes) : Level (dashes :: behind) (behind.map .positional) true

def valuesOf (o : ValueOption) (items : List Item) : List Bytes :=
  items.filterMap fun
    | .value o' v => if o' = o then some v else none
    | _ => none

def positionals (items : List Item) : List Bytes :=
  items.filterMap fun
    | .positional arg => some arg
    | _ => none

def Once (items : List Item) : Prop :=
  items.count .verbose ≤ 1 ∧ ∀ o, (valuesOf o items).length ≤ 1

/-- The positional arguments of a command: only `render` has one, and that is a text. -/
inductive Takes : Subcommand → List Bytes → Command → Prop
  | build : Takes .build [] .build
  | metadata : Takes .metadata [] .metadata
  | render (route : String) : Takes .render [Bytes.ofString route] (.render route)

/-- What the items of the two levels mean: an option behind the command's name wins over the same
option before it. -/
def meaning (top sub : List Item) (command : Option Command) : Invocation where
  config := (valuesOf .config sub).head? <|> (valuesOf .config top).head?
  out := (valuesOf .out sub).head? <|> (valuesOf .out top).head?
  verbose := Item.verbose ∈ top ++ sub
  command := command

/-- **The command lines** that are understood, and what they mean. -/
inductive Sentence : List Bytes → Invocation → Prop
  | bare {args : List Bytes} {items : List Item} {closed : Bool} (h : Level args items closed)
    (hp : positionals items = []) (ho : Once items) : Sentence args (meaning items [] none)
  | command {front back : List Bytes} {top sub : List Item} {closed : Bool} {c : Subcommand}
    {command : Command} (htop : Level front top false) (hp : positionals top = []) (ho : Once top)
    (hsub : Level back sub closed) (ho' : Once sub) (ht : Takes c (positionals sub) command) :
    Sentence (front ++ Bytes.ofString c.name :: back) (meaning top sub (some command))

/-! ### Items, one after another -/

section Items

variable (o : ValueOption) (v arg : Bytes) (items more : List Item)

@[simp] lemma valuesOf_nil : valuesOf o [] = [] := rfl

@[simp] lemma valuesOf_verbose : valuesOf o (.verbose :: items) = valuesOf o items := rfl

@[simp] lemma valuesOf_positional :
    valuesOf o (.positional arg :: items) = valuesOf o items := rfl

@[simp] lemma valuesOf_value (o' : ValueOption) :
    valuesOf o (.value o' v :: items) =
      if o' = o then v :: valuesOf o items else valuesOf o items := by
  by_cases h : o' = o <;> simp [valuesOf, h]

lemma valuesOf_append : valuesOf o (items ++ more) = valuesOf o items ++ valuesOf o more :=
  List.filterMap_append

@[simp] lemma positionals_nil : positionals [] = [] := rfl

@[simp] lemma positionals_verbose : positionals (.verbose :: items) = positionals items := rfl

@[simp] lemma positionals_value : positionals (.value o v :: items) = positionals items := rfl

@[simp] lemma positionals_positional :
    positionals (.positional arg :: items) = arg :: positionals items := rfl

lemma positionals_append : positionals (items ++ more) = positionals items ++ positionals more :=
  List.filterMap_append

end Items

end StaticHost.CommandLine
