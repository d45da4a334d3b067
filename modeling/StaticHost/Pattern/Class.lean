import StaticHost.Pattern.Item

/-!
Classes of characters in a regular expression: what stands between brackets.

A class is a row of items, ranges and classes, and rows can be combined by `&&`, `--` and `~~`, from
left to right. Its depth counts the brackets, the rows of several items and the combinations that
enclose each other.
-/

namespace StaticHost.Pattern

def namedClasses : List String :=
  ["alnum", "alpha", "ascii", "blank", "cntrl", "digit", "graph", "lower", "print", "punct",
    "space", "upper", "word", "xdigit"]

/-- A named class behind its `[`, if there is one: whether it is negated, and what follows. -/
def scanNamedClass : List Char → Option (Bool × List Char)
  | ':' :: rest =>
    let (negated, rest) := match rest with
      | '^' :: rest => (true, rest)
      | rest => (false, rest)
    match rest.dropWhile (· != ':') with
    | ':' :: ']' :: after =>
      if namedClasses.contains (String.ofList (rest.takeWhile (· != ':'))) then
        some (negated, after)
      else none
    | _ => none
  | _ => none

def isNamedAvailable (f : Flags) (negated : Bool) : Bool :=
  if f.unicode then !f.caseless else !negated

/-- The row of items read so far: how many, and the depth of the deepest. -/
structure Row where
  count : Nat := 0
  deepest : Nat := 0
  deriving DecidableEq, Repr

def Row.push (r : Row) (depth : Nat) : Row :=
  ⟨r.count + 1, max r.deepest depth⟩

def Row.depth (r : Row) : Nat :=
  if r.count ≤ 1 then r.deepest else r.deepest + 1

/-- An open bracket: its last row, and the depth of what that is combined with. -/
structure Bracket where
  row : Row := {}
  left : Option Nat := none
  deriving DecidableEq, Repr

def Bracket.push (b : Bracket) (depth : Nat) : Bracket :=
  { b with row := b.row.push depth }

def Bracket.depth (b : Bracket) : Nat :=
  match b.left with
  | none => b.row.depth
  | some left => max left b.row.depth + 1

def Bracket.combine (b : Bracket) : Bracket :=
  ⟨{}, some b.depth⟩

/-- Hyphens, which stand for themselves at the start of a class. The fuel bounds their number. -/
def scanHyphens (f : Flags) : Nat → Row → List Char → Row × List Char
  | fuel + 1, r, '-' :: rest => scanHyphens f fuel (r.push 0) (f.skip rest)
  | _, r, text => (r, text)

/-- The start of a class behind its `[`. It may be negated, and hyphens, or else a closing bracket,
stand for themselves there. -/
def openClass (f : Flags) (text : List Char) : Option (Bracket × List Char) :=
  let (negated, text) := match f.skip text with
    | '^' :: rest => (true, f.skip rest)
    | text => (false, text)
  let (row, text) := match scanHyphens f text.length {} text with
    | (⟨0, _⟩, ']' :: rest) => (Row.push {} 0, f.skip rest)
    | found => found
  if (negated ∧ ¬ f.unicode) ∨ (row.count ≠ 0 ∧ ¬ (Item.char '-' false).isAvailableInClass f) then
    none
  else some ({ row }, text)

def scanClassItem (f : Flags) : List Char → Option (Item × List Char)
  | [] => none
  | '\\' :: rest => scanEscape f rest
  | c :: rest => some (.char c false, rest)

/-- An item of a class, or a range of characters. -/
def scanRange (f : Flags) (text : List Char) : Option (List Char) := do
  let (low, rest) ← scanClassItem f text
  let single : Option (List Char) := if low.isAvailableInClass f then some (f.skip rest) else none
  match f.skip rest with
  | [] => none
  | '-' :: after =>
    if f.ahead after = some ']' ∨ f.ahead after = some '-' then single
    else
      let (high, rest) ← scanClassItem f (f.skip after)
      match low, high with
      | .char a _, .char b _ =>
        if a ≤ b ∧ low.isAvailableInClass f ∧ high.isAvailableInClass f then some rest else none
      | _, _ => none
  | _ => single

/-- What stands in a bracket, inside of other brackets, up to the bracket that closes them all:
the depth of the class, and what follows it. The fuel bounds the number of parts. -/
def scanClass (f : Flags) : Nat → Bracket → List Bracket → List Char → Option (Nat × List Char)
  | 0, _, _, _ => none
  | fuel + 1, b, outer, text =>
    match f.skip text with
    | [] => none
    | '[' :: rest =>
      match scanNamedClass rest with
      | some (negated, rest) =>
        if isNamedAvailable f negated then scanClass f fuel (b.push 0) outer rest else none
      | none =>
        (openClass f rest).bind fun (inner, rest) => scanClass f fuel inner (b :: outer) rest
    | ']' :: rest =>
      match outer with
      | [] => some (b.depth + 1, rest)
      | o :: outer => scanClass f fuel (o.push (b.depth + 1)) outer rest
    | '&' :: '&' :: rest => scanClass f fuel b.combine outer rest
    | '-' :: '-' :: rest => scanClass f fuel b.combine outer rest
    | '~' :: '~' :: rest => scanClass f fuel b.combine outer rest
    | text => (scanRange f text).bind (scanClass f fuel (b.push 0) outer)

end StaticHost.Pattern
