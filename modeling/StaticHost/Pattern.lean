import StaticHost.Pattern.Class
import StaticHost.Text.Alphanumeric

/-!
Regular expressions: which texts are patterns that values can be matched with.

A text is read once, from left to right, with the groups that are open. Groups have to be closed, a
repetition needs something to repeat, and flags, names, escapes and classes have to be in order and
available. Repetitions, groups, classes, and sequences and choices of several parts may enclose each
other, but not too deep. Braces do not occur in the texts that this is for, so a brace that opens is
never closed.
-/

namespace StaticHost.Pattern

/-- The parts of a sequence so far: how many, the depth of the deepest before the last, the depth of
the last, and whether that can be repeated. -/
structure Sequence where
  count : Nat := 0
  before : Nat := 0
  last : Nat := 0
  repeatable : Bool := false
  deriving DecidableEq, Repr

def Sequence.push (s : Sequence) (depth : Nat) (repeatable : Bool) : Sequence :=
  ⟨s.count + 1, max s.before s.last, depth, repeatable⟩

def Sequence.depth (s : Sequence) : Nat :=
  if s.count ≤ 1 then s.last else max s.before s.last + 1

/-- What a group holds so far: the last sequence, the depth of the deepest alternative before it, if
there is one, and the flags. -/
structure Group where
  sequence : Sequence := {}
  alternatives : Option Nat := none
  flags : Flags := {}
  deriving DecidableEq, Repr

def Group.push (g : Group) (depth : Nat) (repeatable : Bool) : Group :=
  { g with sequence := g.sequence.push depth repeatable }

def Group.branch (g : Group) : Group :=
  { g with
    sequence := {}
    alternatives := some (max (g.alternatives.getD 0) g.sequence.depth) }

def Group.depth (g : Group) : Nat :=
  match g.alternatives with
  | none => g.sequence.depth
  | some deepest => max deepest g.sequence.depth + 1

/-- Are these flags in order: known letters, each once, and at most one hyphen, with a letter behind
it? -/
def areFlags (flags : List Char) : Bool :=
  flags.all "imsUuRx-".toList.contains && flags.eraseDups.length == flags.length
    && flags.getLast? != some '-'

/-- Sets flags; those behind a hyphen are cleared. -/
def Flags.apply (on : Bool) : List Char → Flags → Flags
  | [], f => f
  | c :: rest, f =>
    if c = '-' then f.apply false rest
    else if c = 'i' then { f with caseless := on }.apply on rest
    else if c = 'u' then { f with unicode := on }.apply on rest
    else if c = 'x' then { f with spaced := on }.apply on rest
    else f.apply on rest

def isGroupName : List Char → Bool
  | [] => false
  | c :: rest =>
    (c == '_' || Text.isAlphabetic c)
      && rest.all fun c => "_.[]".toList.contains c || Text.isAlphanumeric c

inductive Opening
  | group (name : Option (List Char)) (flags : Flags)
  | flags (flags : Flags)
  deriving DecidableEq, Repr

def scanGroupName (f : Flags) (text : List Char) : Option (Opening × List Char) :=
  let name := text.takeWhile (· != '>')
  match text.dropWhile (· != '>') with
  | '>' :: rest => if isGroupName name then some (.group (some name) f, rest) else none
  | _ => none

def scanOpening (f : Flags) (text : List Char) : Option (Opening × List Char) :=
  match f.skip text with
  | '?' :: 'P' :: '<' :: rest => scanGroupName f rest
  | '?' :: '<' :: rest => scanGroupName f rest
  | '?' :: rest =>
    let isFlag (c : Char) : Bool := c != ':' && c != ')'
    let flags := rest.takeWhile isFlag
    if areFlags flags then
      match rest.dropWhile isFlag with
      | ':' :: rest => some (.group none (f.apply true flags), rest)
      | ')' :: rest => if flags = [] then none else some (.flags (f.apply true flags), rest)
      | _ => none
    else none
  | text => some (.group none f, text)

/-- The depth of a pattern, given what its innermost open group holds so far, the groups around that
one, the names of groups, and the rest of the text. The fuel bounds the number of parts. -/
def scan : Nat → Group → List Group → List (List Char) → List Char → Option Nat
  | 0, _, _, _, _ => none
  | fuel + 1, g, outer, names, text =>
    match g.flags.skip text with
    | [] => if outer.isEmpty then some g.depth else none
    | '(' :: rest =>
      match scanOpening g.flags rest with
      | none => none
      | some (.flags flags, rest) =>
        scan fuel { g.push 0 false with flags } outer names rest
      | some (.group none flags, rest) => scan fuel { flags } (g :: outer) names rest
      | some (.group (some name) flags, rest) =>
        if names.contains name then none
        else scan fuel { flags } (g :: outer) (name :: names) rest
    | ')' :: rest =>
      match outer with
      | [] => none
      | o :: outer => scan fuel (o.push (g.depth + 1) true) outer names rest
    | '|' :: rest => scan fuel g.branch outer names rest
    | '[' :: rest =>
      match openClass g.flags rest with
      | none => none
      | some (bracket, rest) =>
        match scanClass g.flags (rest.length + 1) bracket [] rest with
        | none => none
        | some (depth, rest) => scan fuel (g.push depth true) outer names rest
    | '\\' :: rest =>
      match scanEscape g.flags rest with
      | none => none
      | some (item, rest) =>
        if item.isAvailable g.flags then scan fuel (g.push 0 true) outer names rest else none
    | '\x7b' :: _ => none
    | '.' :: rest => if g.flags.unicode then scan fuel (g.push 0 true) outer names rest else none
    | c :: rest =>
      if c = '?' ∨ c = '*' ∨ c = '+' then
        let rest := match rest with
          | '?' :: rest => rest
          | rest => rest
        let s := g.sequence
        if s.repeatable then
          scan fuel { g with sequence := { s with last := s.last + 1 } } outer names rest
        else none
      else if c = '^' ∨ c = '$' ∨ (Item.char c false).isAvailable g.flags then
        scan fuel (g.push 0 true) outer names rest
      else none

def depthLimit : Nat := 250

/-- Is this text a pattern that values can be matched with? -/
def isPattern (text : List Char) : Bool :=
  (scan (text.length + 1) {} [] [] text).any (· ≤ depthLimit)

end StaticHost.Pattern
