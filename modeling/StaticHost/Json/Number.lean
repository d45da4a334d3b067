import StaticHost.Json.Cursor

/-!
JSON numbers: their form, and the value a reader gives them.

An integer that fits in 64 bits, signed or not, keeps its value. Any other number becomes a double:
as many leading digits as fit in an unsigned 64-bit integer, times or divided by a power of ten.
-/

namespace StaticHost.Json

/-- The parts of a number behind its sign. -/
structure Numeral where
  whole : List Char
  fraction : List Char
  exponent : Option (Bool × List Char)
  deriving DecidableEq, Repr

def takeDigits (c : Cursor) : List Char × Cursor :=
  let digits := c.rest.takeWhile Char.isDigit
  (digits, ⟨c.rest.drop digits.length, c.offset + digits.length⟩)

def digitFault (atEnd : Problem) (c : Cursor) : Fault :=
  c.faultAhead (if c.rest.isEmpty then atEnd else .invalidNumber)

/-- An exponent, if one is ahead. It needs a digit. -/
def scanExponent (atEnd : Problem) (c : Cursor) :
    Except Fault (Option (Bool × List Char) × Cursor) :=
  match c.rest with
  | mark :: rest =>
    if mark = 'e' ∨ mark = 'E' then
      let (negative, c) : Bool × Cursor := match rest with
        | '+' :: rest => (false, ⟨rest, c.offset + 2⟩)
        | '-' :: rest => (true, ⟨rest, c.offset + 2⟩)
        | rest => (false, ⟨rest, c.offset + 1⟩)
      match takeDigits c with
      | ([], _) => .error (digitFault atEnd c)
      | (digits, c) => .ok (some (negative, digits), c)
    else .ok (none, c)
  | [] => .ok (none, c)

/-- A point and the digits behind it, if a point is ahead. It needs a digit. -/
def scanFraction (atEnd : Problem) (c : Cursor) : Except Fault (List Char × Cursor) :=
  match c.rest with
  | '.' :: rest =>
    let c : Cursor := ⟨rest, c.offset + 1⟩
    match takeDigits c with
    | ([], _) => .error (digitFault atEnd c)
    | (digits, c) => .ok (digits, c)
  | _ => .ok ([], c)

/-- The digits before the point: a lone zero, or digits that do not start with zero. -/
def scanWhole (atEnd : Problem) (c : Cursor) : Except Fault (List Char × Cursor) :=
  match takeDigits c with
  | ([], _) => .error (digitFault atEnd c)
  | ('0' :: _ :: _, _) => .error ⟨.invalidNumber, c.offset + 2⟩
  | (digits, c) => .ok (digits, c)

/-- A number without its sign. `atEnd` is the problem when the text ends where a digit should
stand. -/
def scanNumeral (atEnd : Problem) (c : Cursor) : Except Fault (Numeral × Cursor) := do
  let (whole, c) ← scanWhole atEnd c
  let (fraction, c) ← scanFraction atEnd c
  let (exponent, c) ← scanExponent atEnd c
  return (⟨whole, fraction, exponent⟩, c)

def digitValue (c : Char) : Nat :=
  c.toNat - '0'.toNat

/-- Appends digits to `n` while the result stays within `limit`; also the number of digits left
over. -/
def absorb (limit : Nat) : Nat → List Char → Nat × Nat
  | n, [] => (n, 0)
  | n, d :: rest =>
    let next := n * 10 + digitValue d
    if next ≤ limit then absorb limit next rest else (n, rest.length + 1)

/-- `x · 10^exponent` by way of the doubles for the powers of ten up to `10^308`; `none` when it
is too large. The fuel bounds the number of divisions by `10^308`. -/
def scaleByTen : Nat → Float → Int → Option Float
  | 0, x, _ => some x
  | fuel + 1, x, exponent =>
    if exponent.natAbs ≤ 308 then
      let power := Float.ofScientific 1 false exponent.natAbs
      if 0 ≤ exponent then
        let y := x * power
        if y.isInf then none else some y
      else some (x / power)
    else if x == 0 then some x
    else if 0 ≤ exponent then none
    else scaleByTen fuel (x / 1e308) (exponent + 308)

def toDouble? (negative : Bool) (significand : Nat) (exponent : Int) : Option Float :=
  (scaleByTen 8 significand.toUInt64.toFloat exponent).map fun x => if negative then -x else x

def Numeral.value (n : Numeral) (negative : Bool) (c : Cursor) : Except Fault Found :=
  let (whole, dropped) := absorb 0xFFFFFFFFFFFFFFFF 0 n.whole
  if n.fraction = [] ∧ n.exponent = none ∧ dropped = 0
      ∧ (negative → whole ≠ 0 ∧ whole ≤ 0x8000000000000000) then
    .ok (.integer (if negative then -whole else whole))
  else
    let (significand, unread) := absorb 0xFFFFFFFFFFFFFFFF whole n.fraction
    let shift : Int := (dropped : Int) + unread - n.fraction.length
    let double (exponent : Int) : Except Fault Found :=
      match toDouble? negative significand exponent with
      | some x => .ok (.floating x)
      | none => .error (c.fault .numberOutOfRange)
    match n.exponent with
    | none => double shift
    | some (down, digits) =>
      let (exponent, excess) := absorb 0x7FFFFFFF 0 digits
      if excess = 0 then double (if down then shift - exponent else shift + exponent)
      else if significand ≠ 0 ∧ ¬ down then
        .error ⟨.numberOutOfRange, c.offset - (excess - 1)⟩
      else .ok (.floating (if negative then -0.0 else 0.0))

end StaticHost.Json
