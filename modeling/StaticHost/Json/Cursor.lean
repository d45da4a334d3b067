import StaticHost.Text.Quoted
import StaticHost.Decimal.Shortest

/-!
Reading JSON: where a reader stands in a text, and what can go wrong there.

A cursor holds the characters that are left and the number of bytes before them. Faults carry such
a byte offset; a fault about the character ahead points just behind its first byte. Lines and
columns are found at the end, from the whole text.
-/

namespace StaticHost.Json

/-- The kind of value that stood where another was expected. -/
inductive Found
  | null
  | boolean (b : Bool)
  | integer (n : Int)
  | floating (x : Float)
  | text (s : String)
  | sequence
  | map

inductive Problem
  | endInValue
  | endInList
  | endInObject
  | endInText
  | expectedColon
  | expectedListCommaOrEnd
  | expectedObjectCommaOrEnd
  | expectedIdent
  | expectedValue
  | invalidEscape
  | invalidNumber
  | numberOutOfRange
  | controlCharacter
  | keyMustBeText
  | loneSurrogate
  | unpairedSurrogate
  | trailingComma
  | trailingCharacters
  | wrongType (found : Found) (expected : String)
  | wrongLength (length : Nat) (expected : String)
  | missingField (name : String)
  | duplicateField (name : String)
  | unknownVariant (name : String) (known : List String)
  | refused (reason : String)

/-- The three classes of problems: the text is cut short, is not JSON, or is JSON for something
else. -/
inductive Category
  | eof
  | syntactic
  | data
  deriving DecidableEq, Repr

def Problem.category : Problem → Category
  | .endInValue | .endInList | .endInObject | .endInText => .eof
  | .wrongType .. | .wrongLength .. | .missingField _ | .duplicateField _ | .unknownVariant ..
  | .refused _ => .data
  | _ => .syntactic

/-- How floating-point numbers are written: positionally while the leading digit stands for
`10^(-5)` to `10^15`, otherwise with a signed exponent; always with a point or an exponent. -/
def floatText (x : Float) : String :=
  let sign := if x.toBits ≥ 0x8000000000000000 then "-" else ""
  if x == 0 then sign ++ "0.0"
  else
    let s := Decimal.shortest x.abs
    let digits := Nat.toDigits 10 s.digits
    let leading := s.exponent + digits.length - 1
    let body :=
      if -5 ≤ leading ∧ leading ≤ 15 then
        if 0 ≤ s.exponent then digits ++ List.replicate s.exponent.toNat '0' ++ ['.', '0']
        else if 0 ≤ leading then
          digits.take (leading + 1).toNat ++ '.' :: digits.drop (leading + 1).toNat
        else '0' :: '.' :: List.replicate (-leading - 1).toNat '0' ++ digits
      else
        let fraction := if digits.length = 1 then [] else '.' :: digits.drop 1
        let mark := if leading < 0 then ['e', '-'] else ['e', '+']
        digits.take 1 ++ fraction ++ mark ++ Nat.toDigits 10 leading.natAbs
    sign ++ String.ofList body

def Found.describe : Found → String
  | .null => "null"
  | .boolean b => "boolean `" ++ (if b then "true" else "false") ++ "`"
  | .integer n => "integer `" ++ toString n ++ "`"
  | .floating x => "floating point `" ++ floatText x ++ "`"
  | .text s => "string " ++ quoted s
  | .sequence => "sequence"
  | .map => "map"

/-- The names of the alternatives of a choice, as an expectation. -/
def alternatives (known : List String) : String :=
  let ticked := known.map fun name => "`" ++ name ++ "`"
  match ticked with
  | [] => "there are no variants"
  | [a] => "expected " ++ a
  | [a, b] => "expected " ++ a ++ " or " ++ b
  | _ => "expected one of " ++ ", ".intercalate ticked

def Problem.message : Problem → String
  | .endInValue => "EOF while parsing a value"
  | .endInList => "EOF while parsing a list"
  | .endInObject => "EOF while parsing an object"
  | .endInText => "EOF while parsing a string"
  | .expectedColon => "expected `:`"
  | .expectedListCommaOrEnd => "expected `,` or `]`"
  | .expectedObjectCommaOrEnd => "expected `,` or `\x7d`"
  | .expectedIdent => "expected ident"
  | .expectedValue => "expected value"
  | .invalidEscape => "invalid escape"
  | .invalidNumber => "invalid number"
  | .numberOutOfRange => "number out of range"
  | .controlCharacter => "control character (\\u0000-\\u001F) found while parsing a string"
  | .keyMustBeText => "key must be a string"
  | .loneSurrogate => "lone leading surrogate in hex escape"
  | .unpairedSurrogate => "unexpected end of hex escape"
  | .trailingComma => "trailing comma"
  | .trailingCharacters => "trailing characters"
  | .wrongType found expected =>
    "invalid type: " ++ found.describe ++ ", expected " ++ expected
  | .wrongLength length expected =>
    "invalid length " ++ toString length ++ ", expected " ++ expected
  | .missingField name => "missing field `" ++ name ++ "`"
  | .duplicateField name => "duplicate field `" ++ name ++ "`"
  | .unknownVariant name known => "unknown variant `" ++ name ++ "`, " ++ alternatives known
  | .refused reason => reason

/-- A problem, and the number of bytes read when it was found. -/
structure Fault where
  problem : Problem
  offset : Nat

/-- A problem with its place: the line counts from one, the column is the number of bytes read on
that line. -/
structure Error where
  problem : Problem
  line : Nat
  column : Nat

def Error.message (e : Error) : String :=
  e.problem.message ++ " at line " ++ toString e.line ++ " column " ++ toString e.column

/-- Line and column after the first `offset` bytes of a text, counting on from the given ones. -/
def placeAfter : List Char → (offset line column : Nat) → Nat × Nat
  | [], offset, line, column => (line, column + offset)
  | c :: rest, offset, line, column =>
    if offset < c.utf8Size then (line, column + offset)
    else if c = '\n' then placeAfter rest (offset - 1) (line + 1) 0
    else placeAfter rest (offset - c.utf8Size) line (column + c.utf8Size)

def Fault.locate (f : Fault) (text : List Char) : Error :=
  let (line, column) := placeAfter text f.offset 1 0
  ⟨f.problem, line, column⟩

/-- The characters still to be read, and how many bytes were read before them. -/
structure Cursor where
  rest : List Char
  offset : Nat

abbrev Reader (α : Type) := Cursor → Except Fault (α × Cursor)

namespace Cursor

def fault (c : Cursor) (p : Problem) : Fault :=
  ⟨p, c.offset⟩

def faultAhead (c : Cursor) (p : Problem) : Fault :=
  ⟨p, if c.rest.isEmpty then c.offset else c.offset + 1⟩

def isSpace (c : Char) : Bool :=
  c == ' ' || c == '\n' || c == '\t' || c == '\r'

def skipSpace (c : Cursor) : Cursor :=
  ⟨c.rest.dropWhile isSpace, c.offset + (c.rest.takeWhile isSpace).length⟩

end Cursor

end StaticHost.Json
