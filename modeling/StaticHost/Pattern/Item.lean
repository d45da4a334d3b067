import StaticHost.Text.Blank

/-!
The smallest parts of a regular expression: flags, white space, escapes and characters.

A pattern is matched against bytes that are known to be UTF-8, by an automaton without tables of
Unicode's classes, case mappings and words. So with the flag `u`, which is set at first, the classes
`\d`, `\s` and `\w`, the places next to words, and characters of either case are not available.
Without it, what could match a part of a character is not.
-/

namespace StaticHost.Pattern

structure Flags where
  /-- Characters stand for either case. -/
  caseless : Bool := false
  /-- Characters are matched, not bytes. -/
  unicode : Bool := true
  /-- White space and comments are left out. -/
  spaced : Bool := false
  deriving DecidableEq, Repr

/-- A text without the white space and the comments at its start. A comment reaches from `#` to the
end of the line. -/
def skipBlanks (comment : Bool) : List Char → List Char
  | [] => []
  | c :: rest =>
    if comment then skipBlanks (c != '\n') rest
    else if Text.isBlank c then skipBlanks false rest
    else if c = '#' then skipBlanks true rest
    else c :: rest

def Flags.skip (f : Flags) (text : List Char) : List Char :=
  if f.spaced then skipBlanks false text else text

/-- The first character that is neither white space nor the first `#`. -/
def firstSolid (marked : Bool) : List Char → Option Char
  | [] => none
  | c :: rest =>
    if Text.isBlank c then firstSolid marked rest
    else if c = '#' ∧ ¬ marked then firstSolid true rest
    else some c

def Flags.ahead (f : Flags) (text : List Char) : Option Char :=
  if f.spaced then (firstSolid false text).or text.head? else text.head?

inductive Item
  /-- A character, perhaps written as the number of a byte. -/
  | char (c : Char) (byte : Bool)
  /-- One of `\d`, `\s`, `\w`, or one of the others. -/
  | shorthand (negated : Bool)
  /-- A place between characters. -/
  | place
  deriving DecidableEq, Repr

def Item.isAvailable (f : Flags) : Item → Bool
  | .char c byte => if f.unicode then !f.caseless else !byte || c ≤ '\x7f'
  | .shorthand negated => !f.unicode && !negated
  | .place => true

def Item.isAvailableInClass (f : Flags) : Item → Bool
  | .char c byte => Item.isAvailable f (.char c byte) && (f.unicode || c ≤ '\x7f')
  | .shorthand negated => Item.isAvailable f (.shorthand negated)
  | .place => false

def hexDigit? (c : Char) : Option Nat :=
  if c.isDigit then some (c.toNat - '0'.toNat)
  else if 'a' ≤ c ∧ c ≤ 'f' then some (c.toNat - 'a'.toNat + 10)
  else if 'A' ≤ c ∧ c ≤ 'F' then some (c.toNat - 'A'.toNat + 10)
  else none

/-- The character whose number has so many more hexadecimal digits. -/
def scanCode (f : Flags) (byte : Bool) : Nat → Nat → List Char → Option (Item × List Char)
  | 0, n, rest =>
    if n.isValidChar then some (.char (Char.ofNat n) byte, f.skip rest) else none
  | digits + 1, n, rest =>
    match f.skip rest with
    | [] => none
    | c :: rest => (hexDigit? c).bind fun d => scanCode f byte digits (n * 16 + d) rest

/-- The control characters that have letters. -/
def controls : List (Char × Char) :=
  [('a', '\x07'), ('f', '\x0c'), ('t', '\t'), ('n', '\n'), ('r', '\r'), ('v', '\x0b')]

def scanEscape (f : Flags) : List Char → Option (Item × List Char)
  | [] => none
  | c :: rest =>
    if c = 'x' then scanCode f true 2 0 rest
    else if c = 'u' then scanCode f false 4 0 rest
    else if c = 'U' then scanCode f false 8 0 rest
    else if c = 'd' ∨ c = 's' ∨ c = 'w' then some (.shorthand false, rest)
    else if c = 'D' ∨ c = 'S' ∨ c = 'W' then some (.shorthand true, rest)
    else if c = 'A' ∨ c = 'z' then some (.place, rest)
    else if c = 'b' ∨ c = 'B' ∨ c = '<' ∨ c = '>' then
      if f.unicode then none else some (.place, rest)
    else match controls.lookup c with
      | some control => some (.char control false, rest)
      | none => if c.isAlphanum ∨ '\x7f' < c then none else some (.char c false, rest)

end StaticHost.Pattern
