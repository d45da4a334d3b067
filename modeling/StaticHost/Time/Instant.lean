import StaticHost.Time.Calendar

/-!
Points in time, in UTC, to the nanosecond, and how they are written.

A minute may have a second 60, the leap second. The written form is date, `T`, time of day and `Z`,
with the fewest of 0, 3, 6 or 9 digits of a second that are exact. A year outside 0 to 9999 has a
sign, and at least four digits.
-/

namespace StaticHost.Time

/-- A representable point in time: a day, a minute of that day, a second of that minute and a
nanosecond of that second. -/
structure Instant where
  day : Int
  minute : Nat
  second : Nat
  nano : Nat
  day_ge : firstDay ≤ day
  day_le : day ≤ lastDay
  minute_lt : minute < 1440
  second_le : second ≤ 60
  nano_lt : nano < 1000000000
  deriving DecidableEq

/-- A number in decimal with at least `width` digits. -/
def padded (width n : Nat) : List Char :=
  let digits := Nat.toDigits 10 n
  List.replicate (width - digits.length) '0' ++ digits

def yearText (year : Int) : List Char :=
  if 0 ≤ year ∧ year ≤ 9999 then padded 4 year.toNat
  else (if year < 0 then '-' else '+') :: padded 4 year.natAbs

def fractionText (nano : Nat) : List Char :=
  if nano = 0 then []
  else if nano % 1000000 = 0 then '.' :: padded 3 (nano / 1000000)
  else if nano % 1000 = 0 then '.' :: padded 6 (nano / 1000)
  else '.' :: padded 9 nano

/-- Date and time of day, with the given fraction of a second. -/
def Instant.textWith (fraction : List Char) (t : Instant) : List Char :=
  let date := Date.ofDayNumber t.day
  yearText date.year ++ '-' :: padded 2 date.month ++ '-' :: padded 2 date.day
    ++ 'T' :: padded 2 (t.minute / 60) ++ ':' :: padded 2 (t.minute % 60)
    ++ ':' :: padded 2 t.second ++ fraction ++ ['Z']

def Instant.text (t : Instant) : List Char :=
  t.textWith (fractionText t.nano)

def Instant.toString (t : Instant) : String :=
  String.ofList t.text

/-- The time as lines of a log start with it: always to the microsecond. -/
def Instant.stamp (t : Instant) : String :=
  String.ofList (t.textWith ('.' :: padded 6 (t.nano / 1000)))

/-- The point in time so many nanoseconds after the start of 1970. -/
def Instant.ofUnixNanos? (nanos : Int) : Option Instant :=
  let seconds := nanos / 1000000000
  let day := seconds / 86400 + Date.dayNumber ⟨1970, 1, 1⟩
  if h : firstDay ≤ day ∧ day ≤ lastDay then
    some
      { day
        minute := (seconds % 86400 / 60).toNat
        second := (seconds % 60).toNat
        nano := (nanos % 1000000000).toNat
        day_ge := h.1
        day_le := h.2
        minute_lt := by omega
        second_le := by omega
        nano_lt := by omega }
  else none

end StaticHost.Time
