/-!
The proleptic Gregorian calendar: dates and their day numbers.

Day 0 is the first of January of year 1; year 0 is the year before year 1. A year's first day is
found by counting 365 days for each year before it and the leap days among them. Backwards, a day's
year is the quotient by the mean length of a year, or the year after that one.
-/

namespace StaticHost.Time

structure Date where
  year : Int
  month : Nat
  day : Nat
  deriving DecidableEq, Repr

def isLeap (year : Int) : Bool :=
  year % 4 == 0 && (year % 100 != 0 || year % 400 == 0)

def monthLengths (year : Int) : List Nat :=
  [31, if isLeap year then 29 else 28, 31, 30, 31, 30, 31, 31, 30, 31, 30, 31]

/-- The length of a month; zero if there is no such month. -/
def monthLength (year : Int) (month : Nat) : Nat :=
  if month = 0 then 0 else (monthLengths year).getD (month - 1) 0

def daysBeforeYear (year : Int) : Int :=
  365 * (year - 1) + (year - 1) / 4 - (year - 1) / 100 + (year - 1) / 400

def daysBeforeMonth (year : Int) (month : Nat) : Nat :=
  ((monthLengths year).take (month - 1)).foldr (· + ·) 0

/-- The years that can be represented. -/
def firstYear : Int := -262143
def lastYear : Int := 262142

/-- Does the calendar have this day, within the representable years? -/
def Date.IsValid (d : Date) : Prop :=
  firstYear ≤ d.year ∧ d.year ≤ lastYear ∧ 1 ≤ d.day ∧ d.day ≤ monthLength d.year d.month

instance (d : Date) : Decidable d.IsValid :=
  inferInstanceAs (Decidable (_ ∧ _ ∧ _ ∧ _))

def Date.dayNumber (d : Date) : Int :=
  daysBeforeYear d.year + daysBeforeMonth d.year d.month + d.day - 1

/-- The first and the last representable day. -/
def firstDay : Int := Date.dayNumber ⟨firstYear, 1, 1⟩
def lastDay : Int := Date.dayNumber ⟨lastYear, 12, 31⟩

def yearOfDay (n : Int) : Int :=
  let year := 400 * n / 146097 + 1
  if daysBeforeYear (year + 1) ≤ n then year + 1 else year

/-- The month and the day of the month, `day` days after the start of month `month`, where the
months from that one on have the given lengths. -/
def monthAndDay : List Nat → (month day : Nat) → Nat × Nat
  | [], month, day => (month, day + 1)
  | length :: rest, month, day =>
    if day < length then (month, day + 1) else monthAndDay rest (month + 1) (day - length)

def Date.ofDayNumber (n : Int) : Date :=
  let year := yearOfDay n
  let (month, day) := monthAndDay (monthLengths year) 1 (n - daysBeforeYear year).toNat
  ⟨year, month, day⟩

end StaticHost.Time
