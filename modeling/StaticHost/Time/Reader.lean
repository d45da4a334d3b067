import StaticHost.Time.Instant
import StaticHost.Text.Blank

/-!
Reading a point in time that is written with an offset from UTC.

The form is that of RFC 3339, relaxed: numbers need no padding and may have white space before
them, as may the separators and the offset; date and time are divided by `T`, `t` or one blank; the
year may have a sign, and then any number of digits; digits of a second behind the ninth are
dropped; the offset is `Z`, `UTC` or a sign, two digits of hours and two of minutes.
-/

namespace StaticHost.Time

open Text

inductive ReadError
  | outOfRange
  | impossible
  | invalid
  | tooShort
  | tooLong
  deriving DecidableEq, Repr

def ReadError.message : ReadError → String
  | .outOfRange => "input is out of range"
  | .impossible => "no possible date and time matching input"
  | .invalid => "input contains invalid characters"
  | .tooShort => "premature end of input"
  | .tooLong => "trailing input"

/-- What a text spells: a local date and time, and the offset from UTC in minutes. -/
structure Reading where
  date : Date
  hour : Nat
  minute : Nat
  second : Nat
  nano : Nat
  offset : Int
  deriving DecidableEq, Repr

/-- The digits at the start of a text, at most `width` of them and at least one. -/
def scanDigits (width : Nat) (text : List Char) : Except ReadError (List Char × List Char) :=
  let digits := (text.take width).takeWhile Char.isDigit
  if text.isEmpty then .error .tooShort
  else if digits.isEmpty then .error .invalid
  else .ok (digits, text.drop digits.length)

/-- A number of at most `width` digits between `low` and `high`, with white space before it. -/
def scanNumber (width low high : Nat) (text : List Char) : Except ReadError (Nat × List Char) := do
  let (digits, rest) ← scanDigits width (trimStart text)
  let n := Nat.ofDigitChars 10 digits 0
  if low ≤ n ∧ n ≤ high then return (n, rest) else throw .outOfRange

/-- Is a year negative, how many digits may it have, and what follows its sign? -/
def splitSign : List Char → Bool × Nat × List Char
  | '-' :: rest => (true, rest.length, rest)
  | '+' :: rest => (false, rest.length, rest)
  | text => (false, 4, text)

/-- A year: four digits at most, or a sign and any number of digits. -/
def scanYear (text : List Char) : Except ReadError (Int × List Char) := do
  let (negative, width, digits) := splitSign (trimStart text)
  let (digits, rest) ← scanDigits width digits
  let n := Nat.ofDigitChars 10 digits 0
  let year : Int := if negative then -n else n
  if -0x80000000 ≤ year ∧ year < 0x80000000 then return (year, rest) else throw .outOfRange

def scanMark (mark : Char) (text : List Char) : Except ReadError (List Char) :=
  match trimStart text with
  | [] => .error .tooShort
  | c :: rest => if c = mark then .ok rest else .error .invalid

def scanDivider : List Char → Except ReadError (List Char)
  | [] => .error .tooShort
  | c :: rest => if c = 'T' ∨ c = 't' ∨ c = ' ' then .ok rest else .error .invalid

def scanFraction (text : List Char) : Except ReadError (Nat × List Char) :=
  match text with
  | '.' :: text => do
    let (digits, rest) ← scanDigits 9 text
    let nano := Nat.ofDigitChars 10 digits 0 * Nat.pow 10 (9 - digits.length)
    return (nano, rest.dropWhile Char.isDigit)
  | _ => .ok (0, text)

/-- Two digits, as the two characters. A text of less than two bytes is too short for them. -/
def scanPair : List Char → Except ReadError (Char × Char × List Char)
  | [] => .error .tooShort
  | [c] => .error (if c.utf8Size = 1 then .tooShort else .invalid)
  | a :: b :: rest => if a.isDigit ∧ b.isDigit then .ok (a, b, rest) else .error .invalid

def scanShift (text : List Char) : Except ReadError (Nat × List Char) := do
  let (h, h', rest) ← scanPair text
  let (m, m', rest) ← scanPair (rest.dropWhile fun c => c = ':' || isBlank c)
  if '5' < m then throw .outOfRange
  return (60 * Nat.ofDigitChars 10 [h, h'] 0 + Nat.ofDigitChars 10 [m, m'] 0, rest)

def scanOffset (text : List Char) : Except ReadError (Int × List Char) :=
  match text with
  | [] => .error .tooShort
  | c :: rest =>
    let isUtc := (text.take 3).map Char.toLower = ['u', 't', 'c']
    if isUtc then .ok (0, text.drop 3)
    else if c = 'Z' ∨ c = 'z' then .ok (0, rest)
    else if c = '+' then (scanShift rest).map fun (n, rest) => ((n : Int), rest)
    else if c = '-' ∨ c = '\u2212' then (scanShift rest).map fun (n, rest) => (-(n : Int), rest)
    else .error .invalid

/-- What a text spells, each number checked against its own bounds as it is read. -/
def Reading.ofText (text : List Char) : Except ReadError Reading := do
  let (year, text) ← scanYear text
  let text ← scanMark '-' text
  let (month, text) ← scanNumber 2 1 12 text
  let text ← scanMark '-' text
  let (day, text) ← scanNumber 2 1 31 text
  let text ← scanDivider text
  let (hour, text) ← scanNumber 2 0 23 text
  let text ← scanMark ':' text
  let (minute, text) ← scanNumber 2 0 59 text
  let text ← scanMark ':' text
  let (second, text) ← scanNumber 2 0 60 text
  let (nano, text) ← scanFraction text
  let (offset, text) ← scanOffset (trimStart text)
  if (trimStart text).isEmpty then
    return ⟨⟨year, month, day⟩, hour, minute, second, nano, offset⟩
  else throw .tooLong

/-- The minutes from day 0 to the local minute that was read, less the offset. -/
def Reading.utcMinutes (r : Reading) : Int :=
  r.date.dayNumber * 1440 + r.hour * 60 + r.minute - r.offset

def Reading.toInstant (r : Reading) : Except ReadError Instant :=
  if ¬ r.date.IsValid ∨ 1440 ≤ r.offset.natAbs then .error .outOfRange
  else
    let day := r.utcMinutes / 1440
    let minute := (r.utcMinutes % 1440).toNat
    if h : firstDay ≤ day ∧ day ≤ lastDay ∧ r.second ≤ 60 ∧ r.nano < 1000000000 then
      .ok
        { day, minute, second := r.second, nano := r.nano
          day_ge := h.1
          day_le := h.2.1
          minute_lt := by omega
          second_le := h.2.2.1
          nano_lt := h.2.2.2 }
    else .error .impossible

def Instant.ofString (s : String) : Except ReadError Instant :=
  (Reading.ofText s.toList).bind Reading.toInstant

end StaticHost.Time
