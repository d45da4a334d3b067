/-!
The shortest decimal that reads back as a given binary floating-point number.

A finite double is `m · 2^q`. The reals that round to it form an interval around it, whose ends
belong to it when `m` is even. Among the decimals in the interval the one with the fewest digits is
taken, and of two with equally few the nearer one, the even one at a tie. With `n` digits only the
two neighbours of the number on the grid of the `n`-digit decimals need to be tried.
-/

namespace StaticHost.Decimal

/-- The number `digits · 10^exponent`. -/
structure Scientific where
  digits : Nat
  exponent : Int
  deriving DecidableEq, Repr

/-- A positive number `mid / den` and the ends `low / den` and `high / den` of the interval that
rounds to it. -/
structure Interval where
  low : Nat
  mid : Nat
  high : Nat
  den : Nat
  closed : Bool
  deriving Repr

/-- The leading bit of a significand, which is not stored. -/
def leadingBit : Nat := 0x10000000000000

/-- The interval of the double with the given bits, which stand for a positive finite number. The
neighbour below a power of two is only half as far away as the one above. -/
def Interval.ofBits (bits : UInt64) : Interval :=
  let fraction : Nat := bits.toNat % leadingBit
  let power : Nat := bits.toNat / leadingBit % 0x800
  let m : Nat := if power = 0 then fraction else fraction + leadingBit
  let q : Int := (max power 1 : Nat) - 1075
  let below := if fraction = 0 ∧ 1 < power then 1 else 2
  let scale := Nat.pow 2 q.toNat
  { low := (4 * m - below) * scale
    mid := 4 * m * scale
    high := (4 * m + 2) * scale
    den := 4 * Nat.pow 2 (-q).toNat
    closed := m % 2 = 0 }

/-- How many places, from `places` on, move `num / den` to one or more. -/
def placesToOne (num den : Nat) : Nat → Nat → Nat
  | 0, places => places
  | fuel + 1, places =>
    if den ≤ num * Nat.pow 10 places then places else placesToOne num den fuel (places + 1)

/-- The exponent of the leading decimal digit of `num / den`. No double needs more than 324
places. -/
def leadingExponent (num den : Nat) : Int :=
  if den ≤ num then ((Nat.toDigits 10 (num / den)).length : Int) - 1
  else -(placesToOne num den 400 1 : Nat)

/-- The multiple of `10^k` in the interval that is nearest to its number, if there is one. -/
def Interval.nearest? (i : Interval) (k : Int) : Option Nat :=
  let scale := Nat.pow 10 (-k).toNat
  let unit := i.den * Nat.pow 10 k.toNat
  let below := i.mid * scale / unit
  let inside (d : Nat) : Bool :=
    if i.closed then i.low * scale ≤ d * unit && d * unit ≤ i.high * scale
    else i.low * scale < d * unit && d * unit < i.high * scale
  let toBelow := i.mid * scale - below * unit
  let toAbove := (below + 1) * unit - i.mid * scale
  match inside below, inside (below + 1) with
  | true, true =>
    if toBelow < toAbove then some below
    else if toAbove < toBelow then some (below + 1)
    else some (if below % 2 = 0 then below else below + 1)
  | true, false => some below
  | false, true => some (below + 1)
  | false, false => none

def Scientific.trim : Nat → Scientific → Scientific
  | 0, s => s
  | fuel + 1, s =>
    if s.digits ≠ 0 ∧ s.digits % 10 = 0 then Scientific.trim fuel ⟨s.digits / 10, s.exponent + 1⟩
    else s

/-- The shortest decimal in the interval. Seventeen digits always suffice for a double. -/
def Interval.shortest (i : Interval) : Scientific :=
  let top := leadingExponent i.mid i.den
  let grids : List Int := (List.range 17).map fun (n : Nat) => top - (n : Int)
  match grids.findSome? fun k => (i.nearest? k).map fun d => Scientific.mk d k with
  | some s => s.trim 20
  | none => ⟨0, 0⟩

/-- The shortest decimal that reads back as the positive finite number `x`. -/
def shortest (x : Float) : Scientific :=
  (Interval.ofBits x.toBits).shortest

end StaticHost.Decimal
