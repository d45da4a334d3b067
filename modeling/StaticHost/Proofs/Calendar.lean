import Mathlib.Tactic.Common
import StaticHost.Time.Calendar

/-!
Every day number is that of a date: the year, the month and the day that are found for it count up
to it again, and within the representable days they are a date of the calendar. The other way, the
numbers count the days: the day after a day has the next number, and no two days share one.
-/

namespace StaticHost.Time

/-! ### Years -/

lemma daysBeforeYear_lt {y z : Int} (h : y < z) : daysBeforeYear y < daysBeforeYear z := by
  unfold daysBeforeYear
  omega

lemma daysBeforeYear_succ (y : Int) :
    daysBeforeYear (y + 1) = daysBeforeYear y + if isLeap y then 366 else 365 := by
  unfold daysBeforeYear isLeap
  split_ifs with h
  · simp only [Bool.and_eq_true, Bool.or_eq_true, beq_iff_eq, bne_iff_ne] at h
    omega
  · simp only [Bool.and_eq_true, Bool.or_eq_true, beq_iff_eq, bne_iff_ne] at h
    omega

/-- The quotient by the mean length of a year is off by one year at most. -/
lemma quotient_year (n : Int) :
    daysBeforeYear (400 * n / 146097 + 1) ≤ n ∧ n < daysBeforeYear (400 * n / 146097 + 3) := by
  obtain ⟨m, hm⟩ : ∃ m, m = 400 * n / 146097 := ⟨_, rfl⟩
  have h1 : 146097 * m ≤ 400 * n := by omega
  have h2 : 400 * n < 146097 * m + 146097 := by omega
  rw [← hm]
  clear hm
  unfold daysBeforeYear
  constructor <;> omega

/-- **The year of a day** starts no later than the day, and the next one starts after it. -/
theorem yearOfDay_bounds (n : Int) :
    daysBeforeYear (yearOfDay n) ≤ n ∧ n < daysBeforeYear (yearOfDay n + 1) := by
  obtain ⟨hlow, hhigh⟩ := quotient_year n
  unfold yearOfDay
  simp only
  split_ifs with h
  · refine ⟨h, ?_⟩
    rw [show 400 * n / 146097 + 1 + 1 + 1 = 400 * n / 146097 + 3 by omega]
    exact hhigh
  · exact ⟨hlow, by omega⟩

lemma yearOfDay_ge {n : Int} (h : firstDay ≤ n) : firstYear ≤ yearOfDay n := by
  by_contra hy
  have h1 := (yearOfDay_bounds n).2
  have h2 : yearOfDay n + 1 = firstYear ∨ yearOfDay n + 1 < firstYear := by omega
  have h3 : firstDay = daysBeforeYear firstYear := by decide
  rcases h2 with h2 | h2
  · rw [h2] at h1; omega
  · have := daysBeforeYear_lt h2; omega

lemma yearOfDay_le {n : Int} (h : n ≤ lastDay) : yearOfDay n ≤ lastYear := by
  by_contra hy
  have h1 := (yearOfDay_bounds n).1
  have h2 : yearOfDay n = lastYear + 1 ∨ lastYear + 1 < yearOfDay n := by omega
  have h3 : lastDay < daysBeforeYear (lastYear + 1) := by decide
  rcases h2 with h2 | h2
  · rw [h2] at h1; omega
  · have := daysBeforeYear_lt h2; omega

/-! ### Months -/

/-- The month that is found has the day, and the months before it and the day add up. -/
lemma monthAndDay_spec (lengths : List Nat) (month day : Nat)
    (h : day < lengths.foldr (· + ·) 0) :
    ∃ k < lengths.length, monthAndDay lengths month day = (month + k,
        day - (lengths.take k).foldr (· + ·) 0 + 1) ∧
      (lengths.take k).foldr (· + ·) 0 ≤ day ∧
      day - (lengths.take k).foldr (· + ·) 0 < lengths.getD k 0 := by
  induction lengths generalizing month day with
  | nil => simp at h
  | cons length lengths ih =>
    rw [monthAndDay]
    split_ifs with hd
    · exact ⟨0, by simp, by simp, by simp, by simpa using hd⟩
    · rw [List.foldr_cons] at h
      obtain ⟨k, hk, hm, hle, hlt⟩ := ih (month + 1) (day - length) (by omega)
      refine ⟨k + 1, by simpa using hk, ?_⟩
      rw [List.take_succ_cons, List.foldr_cons, List.getD_cons_succ, hm]
      exact ⟨by congr 1 <;> omega, by omega, by omega⟩

lemma sum_monthLengths (year : Int) :
    (monthLengths year).foldr (· + ·) 0 = if isLeap year then 366 else 365 := by
  unfold monthLengths
  cases isLeap year <;> rfl

/-! ### Dates -/

/-- **The date of a day**: a month and a day of its year, which count up to the day again. -/
theorem ofDayNumber_spec (n : Int) :
    (Date.ofDayNumber n).year = yearOfDay n ∧ 1 ≤ (Date.ofDayNumber n).month ∧
      (Date.ofDayNumber n).month ≤ 12 ∧ 1 ≤ (Date.ofDayNumber n).day ∧
      (Date.ofDayNumber n).day ≤ monthLength (yearOfDay n) (Date.ofDayNumber n).month ∧
      (Date.ofDayNumber n).dayNumber = n := by
  obtain ⟨hlow, hhigh⟩ := yearOfDay_bounds n
  rw [daysBeforeYear_succ] at hhigh
  have hday : (n - daysBeforeYear (yearOfDay n)).toNat <
      (monthLengths (yearOfDay n)).foldr (· + ·) 0 := by
    rw [sum_monthLengths]
    split_ifs at hhigh ⊢ <;> omega
  obtain ⟨k, hk, hm, hle, hlt⟩ := monthAndDay_spec _ 1 _ hday
  have hk' : k < 12 := hk
  unfold Date.ofDayNumber Date.dayNumber monthLength daysBeforeMonth
  simp only [hm]
  rw [if_neg (by omega), show 1 + k - 1 = k by omega]
  exact ⟨trivial, by omega, by omega, by omega, by omega, by omega⟩

lemma dayNumber_ofDayNumber (n : Int) : (Date.ofDayNumber n).dayNumber = n :=
  (ofDayNumber_spec n).2.2.2.2.2

lemma ofDayNumber_isValid {n : Int} (h1 : firstDay ≤ n) (h2 : n ≤ lastDay) :
    (Date.ofDayNumber n).IsValid := by
  obtain ⟨hy, -, -, hd1, hd2, -⟩ := ofDayNumber_spec n
  unfold Date.IsValid
  rw [hy]
  exact ⟨yearOfDay_ge h1, yearOfDay_le h2, hd1, hd2⟩

lemma monthLength_le (year : Int) (month : Nat) : monthLength year month ≤ 31 := by
  unfold monthLength monthLengths
  split_ifs with h0 hl
  · omega
  · rcases month with _ | _ | _ | _ | _ | _ | _ | _ | _ | _ | _ | _ | _ | k <;> simp
  · rcases month with _ | _ | _ | _ | _ | _ | _ | _ | _ | _ | _ | _ | _ | k <;> simp

/-! ### Day after day -/

/-- Does the calendar have this day, in whatever year? -/
def Date.IsDay (d : Date) : Prop :=
  1 ≤ d.day ∧ d.day ≤ monthLength d.year d.month

def Date.next (d : Date) : Date :=
  if d.day < monthLength d.year d.month then { d with day := d.day + 1 }
  else if d.month < 12 then ⟨d.year, d.month + 1, 1⟩
  else ⟨d.year + 1, 1, 1⟩

lemma Date.IsDay.month_bounds {d : Date} (h : d.IsDay) : 1 ≤ d.month ∧ d.month ≤ 12 := by
  obtain ⟨h1, h2⟩ := h
  unfold monthLength at h2
  split_ifs at h2 with hm
  · omega
  · refine ⟨by omega, ?_⟩
    by_contra hlt
    have hlength : (monthLengths d.year).length = 12 := rfl
    rw [List.getD_eq_getElem?_getD, List.getElem?_eq_none (by omega), Option.getD_none] at h2
    omega

lemma monthLength_pos (year : Int) {m : Nat} (h1 : 1 ≤ m) (h2 : m ≤ 12) :
    1 ≤ monthLength year m := by
  have hlength : (monthLengths year).length = 12 := rfl
  have hpos : ∀ n ∈ monthLengths year, 1 ≤ n := by
    unfold monthLengths
    cases isLeap year <;> decide
  unfold monthLength
  rw [if_neg (by omega), List.getD_eq_getElem?_getD, List.getElem?_eq_getElem (by omega)]
  exact hpos _ (List.getElem_mem _)

lemma sum_take_succ (ns : List Nat) (k : Nat) :
    (ns.take (k + 1)).foldr (· + ·) 0 = (ns.take k).foldr (· + ·) 0 + ns.getD k 0 := by
  induction ns generalizing k with
  | nil => simp
  | cons n ns ih =>
    cases k with
    | zero => simp
    | succ k =>
      simp only [List.take_succ_cons, List.foldr_cons, List.getD_cons_succ, ih, Nat.add_assoc]

lemma daysBeforeMonth_succ (year : Int) {month : Nat} (h : 1 ≤ month) :
    daysBeforeMonth year (month + 1) = daysBeforeMonth year month + monthLength year month := by
  obtain ⟨k, rfl⟩ : ∃ k, month = k + 1 := ⟨month - 1, by omega⟩
  have hsum := sum_take_succ (monthLengths year) k
  unfold daysBeforeMonth monthLength
  rw [if_neg (by omega)]
  simpa using hsum

/-- Behind the last month stands the whole year. -/
lemma daysBeforeMonth_thirteen (year : Int) :
    daysBeforeYear year + daysBeforeMonth year 13 = daysBeforeYear (year + 1) := by
  have hall : (monthLengths year).take (13 - 1) = monthLengths year := rfl
  rw [daysBeforeMonth, hall, sum_monthLengths, daysBeforeYear_succ]
  split_ifs <;> rfl

lemma daysBeforeMonth_mono (year : Int) {m n : Nat} (hm : 1 ≤ m) (h : m ≤ n) :
    daysBeforeMonth year m ≤ daysBeforeMonth year n := by
  induction h with
  | refl => exact Nat.le_refl _
  | step hn ih =>
    rw [daysBeforeMonth_succ year (Nat.le_trans hm hn)]
    omega

/-- **The day after a day** is a day of the calendar, and its number is the next one. -/
theorem Date.IsDay.next {d : Date} (h : d.IsDay) :
    d.next.IsDay ∧ d.next.dayNumber = d.dayNumber + 1 := by
  obtain ⟨hm1, hm2⟩ := h.month_bounds
  obtain ⟨hd1, hd2⟩ := h
  have hlast := daysBeforeMonth_thirteen d.year
  have hsucc := daysBeforeMonth_succ d.year hm1
  unfold Date.next
  split_ifs with hday hmonth
  · refine ⟨⟨by simp, hday⟩, ?_⟩
    simp only [dayNumber]
    omega
  · -- the first of the next month, which has a day at least
    have hlength := monthLength_pos d.year (m := d.month + 1) (by omega) (by omega)
    refine ⟨⟨Nat.le_refl 1, hlength⟩, ?_⟩
    simp only [dayNumber]
    omega
  · have hmonth : d.month = 12 := by omega
    refine ⟨⟨Nat.le_refl 1, by simp [monthLength, monthLengths]⟩, ?_⟩
    have hfirst : daysBeforeMonth (d.year + 1) 1 = 0 := rfl
    simp only [dayNumber, hfirst]
    rw [hmonth] at hsucc hd2 hday ⊢
    simp only [Nat.reduceAdd] at hsucc
    omega

/-- A day lies in its month. -/
lemma Date.IsDay.bounds {d : Date} (h : d.IsDay) :
    daysBeforeYear d.year + daysBeforeMonth d.year d.month ≤ d.dayNumber ∧
      d.dayNumber < daysBeforeYear d.year + daysBeforeMonth d.year (d.month + 1) := by
  have hsucc := daysBeforeMonth_succ d.year h.month_bounds.1
  obtain ⟨h1, h2⟩ := h
  unfold dayNumber
  omega

lemma Date.IsDay.lt_of_year_lt {d d' : Date} (h : d.IsDay) (h' : d'.IsDay) (hy : d.year < d'.year) :
    d.dayNumber < d'.dayNumber := by
  have hlast := daysBeforeMonth_thirteen d.year
  have hmono := daysBeforeMonth_mono d.year (m := d.month + 1) (n := 13) (by omega)
    (by have := h.month_bounds; omega)
  have hyear : daysBeforeYear (d.year + 1) ≤ daysBeforeYear d'.year := by
    obtain heq | hlt := Int.le_iff_eq_or_lt.mp (show d.year + 1 ≤ d'.year from hy)
    · exact Int.le_of_eq (congrArg daysBeforeYear heq)
    · exact Int.le_of_lt (daysBeforeYear_lt hlt)
  have hb := h.bounds.2
  have hb' := h'.bounds.1
  omega

lemma Date.IsDay.lt_of_month_lt {d d' : Date} (h : d.IsDay) (h' : d'.IsDay)
    (hy : d.year = d'.year) (hm : d.month < d'.month) : d.dayNumber < d'.dayNumber := by
  have hmono := daysBeforeMonth_mono d.year (m := d.month + 1) (n := d'.month) (by omega) hm
  have hb := h.bounds.2
  have hb' := h'.bounds.1
  rw [← hy] at hb'
  omega

/-- **A day number is that of one date**. -/
theorem Date.IsDay.eq_of_dayNumber_eq {d d' : Date} (h : d.IsDay) (h' : d'.IsDay)
    (heq : d.dayNumber = d'.dayNumber) : d = d' := by
  have hy : d.year = d'.year := by
    obtain hlt | hy | hlt := Int.lt_trichotomy d.year d'.year
    · have := h.lt_of_year_lt h' hlt; omega
    · exact hy
    · have := h'.lt_of_year_lt h hlt; omega
  have hm : d.month = d'.month := by
    obtain hlt | hm | hlt := Nat.lt_trichotomy d.month d'.month
    · have := h.lt_of_month_lt h' hy hlt; omega
    · exact hm
    · have := h'.lt_of_month_lt h hy.symm hlt; omega
  obtain ⟨y, m, n⟩ := d
  obtain ⟨y', m', n'⟩ := d'
  simp only at hy hm
  subst hy hm
  simp only [dayNumber] at heq
  congr 1
  omega

end StaticHost.Time
