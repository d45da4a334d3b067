import Mathlib.Algebra.Ring.Nat
import Mathlib.Tactic.Common
import StaticHost.Time.Reader
import StaticHost.Proofs.Calendar
import StaticHost.Proofs.Results

/-!
Which texts are points in time, and which points they are.

`Spells` is the grammar of the texts, with the reading that each one has: the numbers, and the
offset in minutes. It says nothing about how far a year may go. `Denotes` is what a reading means:
the local minute, counted from day 0, less the offset. The reader takes the texts of readings with
a date of the calendar and an offset of less than a day, if the point that is meant can be
represented.
-/

namespace StaticHost.Time

open Text

/-! ### The grammar -/

def Blanks (ws : List Char) : Prop := ∀ c ∈ ws, isBlank c = true

/-- Decimal digits, one at least, and the number they stand for. -/
structure Numeral (ds : List Char) (n : Nat) : Prop where
  ne_nil : ds ≠ []
  isDigit : ∀ c ∈ ds, c.isDigit = true
  value : Nat.ofDigitChars 10 ds 0 = n

/-- A year: four digits at most, or a sign and any number of digits. -/
inductive YearOf : List Char → Int → Prop
  | plain {ws ds : List Char} {n : Nat} (hw : Blanks ws) (hd : Numeral ds n)
      (hlength : ds.length ≤ 4) : YearOf (ws ++ ds) n
  | plus {ws ds : List Char} {n : Nat} (hw : Blanks ws) (hd : Numeral ds n) :
      YearOf (ws ++ '+' :: ds) n
  | minus {ws ds : List Char} {n : Nat} (hw : Blanks ws) (hd : Numeral ds n) :
      YearOf (ws ++ '-' :: ds) (-n)

/-- A number of one or two digits within bounds. -/
inductive NumberOf (low high : Nat) : List Char → Nat → Prop
  | mk {ws ds : List Char} {n : Nat} (hw : Blanks ws) (hd : Numeral ds n) (hlength : ds.length ≤ 2)
      (hlow : low ≤ n) (hhigh : n ≤ high) : NumberOf low high (ws ++ ds) n

inductive MarkOf (mark : Char) : List Char → Prop
  | mk {ws : List Char} (hw : Blanks ws) : MarkOf mark (ws ++ [mark])

/-- A fraction of a second, or none, in nanoseconds: what lies beyond the ninth digit is cut. -/
inductive FractionOf : List Char → Nat → Prop
  | none : FractionOf [] 0
  | digits {ds : List Char} {n : Nat} (hd : Numeral ds n) :
      FractionOf ('.' :: ds) (n * 10 ^ 9 / 10 ^ ds.length)

inductive ShiftOf : List Char → Nat → Prop
  | mk {h h' m m' : Char} {hours minutes : Nat} {gap : List Char} (hh : Numeral [h, h'] hours)
      (hg : ∀ c ∈ gap, c = ':' ∨ isBlank c = true) (hm : Numeral [m, m'] minutes)
      (hlt : minutes < 60) : ShiftOf ([h, h'] ++ (gap ++ [m, m'])) (60 * hours + minutes)

inductive OffsetOf : List Char → Int → Prop
  | zulu {c : Char} (hc : c = 'Z' ∨ c = 'z') : OffsetOf [c] 0
  | utc {text : List Char} (h : text.map Char.toLower = ['u', 't', 'c']) : OffsetOf text 0
  | east {text : List Char} {n : Nat} (h : ShiftOf text n) : OffsetOf ('+' :: text) n
  | west {c : Char} {text : List Char} {n : Nat} (hc : c = '-' ∨ c = '\u2212')
      (h : ShiftOf text n) : OffsetOf (c :: text) (-n)

/-- The text of a local date and time with an offset, and its reading. -/
inductive Spells : List Char → Reading → Prop
  | mk {year month day hour minute second fraction offset : List Char}
      {dash₁ dash₂ colon₁ colon₂ ws ws' : List Char} {divider : Char} {r : Reading}
      (hyear : YearOf year r.date.year) (hdash₁ : MarkOf '-' dash₁)
      (hmonth : NumberOf 1 12 month r.date.month) (hdash₂ : MarkOf '-' dash₂)
      (hday : NumberOf 1 31 day r.date.day)
      (hdivider : divider = 'T' ∨ divider = 't' ∨ divider = ' ')
      (hhour : NumberOf 0 23 hour r.hour) (hcolon₁ : MarkOf ':' colon₁)
      (hminute : NumberOf 0 59 minute r.minute) (hcolon₂ : MarkOf ':' colon₂)
      (hsecond : NumberOf 0 60 second r.second) (hfraction : FractionOf fraction r.nano)
      (hw : Blanks ws) (hoffset : OffsetOf offset r.offset) (hw' : Blanks ws') :
      Spells (year ++ (dash₁ ++ (month ++ (dash₂ ++ (day ++ divider :: (hour ++ (colon₁ ++
        (minute ++ (colon₂ ++ (second ++ (fraction ++ (ws ++ (offset ++ ws')))))))))))) ) r

/-! ### White space and digits -/

variable {text rest taken : List Char}

lemma trimStart_spec (text : List Char) : ∃ ws, Blanks ws ∧ text = ws ++ trimStart text := by
  have hall : (text.takeWhile isBlank).all isBlank = true := List.all_takeWhile
  exact ⟨_, List.all_eq_true.mp hall, List.takeWhile_append_dropWhile.symm⟩

lemma trimStart_blanks {ws : List Char} (hw : Blanks ws)
    (hr : ∀ c ∈ rest.head?, isBlank c = false) :
    trimStart (ws ++ rest) = rest := by
  rw [trimStart, List.dropWhile_append_of_pos hw]
  cases rest with
  | nil => rfl
  | cons c rest => exact List.dropWhile_cons_of_neg (by simp [hr c rfl])

lemma trimStart_eq_nil {ws : List Char} (hw : Blanks ws) : trimStart ws = [] := by
  rw [← List.append_nil ws]
  exact trimStart_blanks hw (by simp)

lemma isBlank_of_isDigit {c : Char} (h : c.isDigit = true) : isBlank c = false := by
  rw [Char.isDigit_iff_toNat] at h
  have h0 : '0'.toNat = 48 := rfl
  have h9 : '9'.toNat = 57 := rfl
  rw [h0, h9] at h
  unfold isBlank
  simp only [Bool.or_eq_false_iff, Bool.and_eq_false_iff, decide_eq_false_iff_not,
    beq_eq_false_iff_ne]
  omega

lemma isDigit_of_isBlank {c : Char} (h : isBlank c = true) : c.isDigit = false := by
  by_contra hd
  rw [Bool.not_eq_false] at hd
  rw [isBlank_of_isDigit hd] at h
  cases h

def NoDigit (text : List Char) : Prop := ∀ c ∈ text.head?, c.isDigit = false

lemma noDigit_cons {c : Char} (h : c.isDigit = false) (rest : List Char) : NoDigit (c :: rest) := by
  simpa [NoDigit] using h

lemma takeWhile_of_noDigit {text : List Char} (h : NoDigit text) (n : Nat) :
    (text.take n).takeWhile Char.isDigit = [] := by
  rcases text with _ | ⟨c, text⟩
  · simp
  · rcases n with _ | n
    · simp
    · rw [List.take_succ_cons, List.takeWhile_cons_of_neg (by simp [h c rfl])]

lemma scanDigits_append {width : Nat} {digits rest : List Char}
    (hd : ∀ c ∈ digits, c.isDigit = true) (hne : digits ≠ []) (hw : digits.length ≤ width)
    (hr : digits.length = width ∨ NoDigit rest) :
    scanDigits width (digits ++ rest) = .ok (digits, rest) := by
  have ht : ((digits ++ rest).take width).takeWhile Char.isDigit = digits := by
    rw [List.take_append, List.take_of_length_le hw, List.takeWhile_append_of_pos hd]
    rcases hr with hr | hr
    · simp [hr]
    · rw [takeWhile_of_noDigit hr, List.append_nil]
  unfold scanDigits
  simp only [ht]
  simp [hne]

/-- White space and what follows it, if that is no digit, is no digit. -/
lemma noDigit_blanks {ws : List Char} (hw : Blanks ws) (hr : NoDigit rest) :
    NoDigit (ws ++ rest) := by
  cases ws with
  | nil => exact hr
  | cons c ws => exact noDigit_cons (isDigit_of_isBlank (hw c (by simp))) _

lemma Numeral.head_not_blank {ds : List Char} {n : Nat} (h : Numeral ds n) (rest : List Char) :
    ∀ c ∈ (ds ++ rest).head?, isBlank c = false := by
  obtain ⟨d, ds, rfl⟩ := List.exists_cons_of_ne_nil h.ne_nil
  simpa using isBlank_of_isDigit (h.isDigit d (by simp))

/-- The digits that are taken are all there are, or as many as may be. -/
lemma takeWhile_take_stops (width : Nat) (text : List Char) :
    ((text.take width).takeWhile Char.isDigit).length = width ∨
      NoDigit (text.drop ((text.take width).takeWhile Char.isDigit).length) := by
  induction text generalizing width with
  | nil => exact .inr (by simp [NoDigit])
  | cons c text ih =>
    cases width with
    | zero => exact .inl (by simp)
    | succ width =>
      rw [List.take_succ_cons]
      cases hc : c.isDigit with
      | false => exact .inr (by simpa [hc] using noDigit_cons hc text)
      | true => simpa [hc] using ih width

lemma scanDigits_sound {width : Nat} {ds : List Char}
    (h : scanDigits width text = .ok (ds, rest)) :
    Numeral ds (Nat.ofDigitChars 10 ds 0) ∧ ds.length ≤ width ∧ text = ds ++ rest ∧
      (ds.length = width ∨ NoDigit rest) := by
  unfold scanDigits at h
  simp only at h
  split_ifs at h with hempty hnone
  cases h
  have hall : ((text.take width).takeWhile Char.isDigit).all Char.isDigit = true :=
    List.all_takeWhile
  have hprefix := (List.takeWhile_prefix (l := text.take width) Char.isDigit).trans
    (List.take_prefix width text)
  have hlength := (List.takeWhile_prefix (l := text.take width) Char.isDigit).length_le
  refine ⟨⟨by simpa using hnone, List.all_eq_true.mp hall, rfl⟩, ?_,
    (List.prefix_iff_eq_append.mp hprefix).symm, takeWhile_take_stops width text⟩
  rw [List.length_take] at hlength
  omega

lemma ofDigitChars_lt {ds : List Char} (h : ∀ c ∈ ds, c.isDigit = true) :
    Nat.ofDigitChars 10 ds 0 < 10 ^ ds.length := by
  induction ds with
  | nil => simp
  | cons d ds ih =>
    obtain ⟨hd, hds⟩ := List.forall_mem_cons.mp h
    have hlt := ih hds
    rw [Char.isDigit_iff_toNat] at hd
    have h0 : '0'.toNat = 48 := rfl
    have h9 : '9'.toNat = 57 := rfl
    rw [Nat.ofDigitChars_cons, Nat.ofDigitChars_eq_ofDigitChars_zero, List.length_cons,
      Nat.pow_succ]
    have hle : d.toNat - '0'.toNat ≤ 9 := by omega
    have hmul := Nat.mul_le_mul_left (10 ^ ds.length) hle
    simp only [Nat.mul_zero, Nat.zero_add]
    omega

/-- The first nine digits, filled up with zeros, are the fraction cut to nanoseconds. -/
lemma nano_of_digits {ds : List Char} (h : ∀ c ∈ ds, c.isDigit = true) :
    Nat.ofDigitChars 10 (ds.take 9) 0 * 10 ^ (9 - (ds.take 9).length) =
      Nat.ofDigitChars 10 ds 0 * 10 ^ 9 / 10 ^ ds.length := by
  obtain hle | hlt := Nat.lt_or_ge 9 ds.length |>.symm
  · have hpow : 10 ^ 9 = 10 ^ (9 - ds.length) * 10 ^ ds.length := by
      rw [← Nat.pow_add]
      congr 1
      omega
    rw [List.take_of_length_le hle, hpow, ← Nat.mul_assoc,
      Nat.mul_div_cancel _ (Nat.pow_pos (by decide))]
  · have hsplit : Nat.ofDigitChars 10 ds 0 = 10 ^ (ds.drop 9).length *
        Nat.ofDigitChars 10 (ds.take 9) 0 + Nat.ofDigitChars 10 (ds.drop 9) 0 := by
      rw [← Nat.ofDigitChars_eq_ofDigitChars_zero, ← Nat.ofDigitChars_append,
        List.take_append_drop]
    have hmore : Nat.ofDigitChars 10 (ds.drop 9) 0 < 10 ^ (ds.drop 9).length :=
      ofDigitChars_lt fun c hc => h c (List.mem_of_mem_drop hc)
    have hlength : (ds.take 9).length = 9 := by
      rw [List.length_take]
      omega
    have hpow : 10 ^ ds.length = 10 ^ (ds.drop 9).length * 10 ^ 9 := by
      rw [← Nat.pow_add, List.length_drop]
      congr 1
      omega
    rw [hlength, hsplit, hpow, Nat.mul_div_mul_right _ _ (by decide),
      Nat.mul_add_div (Nat.pow_pos (by decide)), Nat.div_eq_of_lt hmore]
    simp

/-! ### The scanners -/

lemma scanNumber_sound {low high n : Nat} (h : scanNumber 2 low high text = .ok (n, rest)) :
    ∃ taken, NumberOf low high taken n ∧ text = taken ++ rest := by
  obtain ⟨ws, hw, htext⟩ := trimStart_spec text
  obtain ⟨⟨ds, rest'⟩, hdigits, h⟩ := bind_eq_ok_iff.mp h
  obtain ⟨hnumeral, hlength, htrimmed, -⟩ := scanDigits_sound hdigits
  simp only at h
  split_ifs at h with hbounds
  cases h
  exact ⟨ws ++ ds, .mk hw hnumeral hlength hbounds.1 hbounds.2, by simp [← htrimmed, ← htext]⟩

lemma NumberOf.scan {low high n : Nat} (h : NumberOf low high taken n) (hr : NoDigit rest) :
    scanNumber 2 low high (taken ++ rest) = .ok (n, rest) := by
  obtain ⟨hw, hd, hlength, hlow, hhigh⟩ := h
  rw [scanNumber, List.append_assoc, trimStart_blanks hw (hd.head_not_blank rest),
    scanDigits_append hd.isDigit hd.ne_nil hlength (.inr hr)]
  simp only [bind, Except.bind, hd.value, hlow, hhigh, and_self, if_true]
  rfl

lemma scanMark_sound {mark : Char} (h : scanMark mark text = .ok rest) :
    ∃ taken, MarkOf mark taken ∧ text = taken ++ rest := by
  obtain ⟨ws, hw, htext⟩ := trimStart_spec text
  unfold scanMark at h
  split at h
  next => cases h
  next c rest' htrimmed =>
    split_ifs at h with hc
    cases h
    exact ⟨ws ++ [mark], .mk hw, by rw [htext, htrimmed, hc]; simp⟩

lemma MarkOf.scan {mark : Char} (h : MarkOf mark taken) (hm : isBlank mark = false)
    (rest : List Char) : scanMark mark (taken ++ rest) = .ok rest := by
  obtain ⟨hw⟩ := h
  rw [scanMark, List.append_assoc, trimStart_blanks hw (by simpa using hm)]
  simp

lemma MarkOf.noDigit {mark : Char} (h : MarkOf mark taken) (hm : mark.isDigit = false)
    (rest : List Char) : NoDigit (taken ++ rest) := by
  obtain ⟨hw⟩ := h
  rw [List.append_assoc]
  exact noDigit_blanks hw (noDigit_cons hm rest)

lemma scanDivider_sound (h : scanDivider text = .ok rest) :
    ∃ c, (c = 'T' ∨ c = 't' ∨ c = ' ') ∧ text = c :: rest := by
  unfold scanDivider at h
  split at h
  next => cases h
  next c rest' =>
    split_ifs at h with hc
    cases h
    exact ⟨c, hc, rfl⟩

/-! ### Years -/

/-- A year is checked against bounds of its own, far beyond those of the calendar. -/
def checkedYear (year : Int) (rest : List Char) : Except ReadError (Int × List Char) :=
  if -0x80000000 ≤ year ∧ year < 0x80000000 then .ok (year, rest) else .error .outOfRange

lemma eq_of_checkedYear {year year' : Int} {rest' : List Char}
    (h : checkedYear year rest = .ok (year', rest')) : year' = year ∧ rest' = rest := by
  unfold checkedYear at h
  split_ifs at h
  cases h
  exact ⟨rfl, rfl⟩

lemma scanYear_eq {negative : Bool} {width : Nat} {digits : List Char}
    (h : splitSign (trimStart text) = (negative, width, digits)) :
    scanYear text = (scanDigits width digits).bind fun (ds, rest) =>
      checkedYear (if negative then -(Nat.ofDigitChars 10 ds 0 : Int) else Nat.ofDigitChars 10 ds 0)
        rest := by
  unfold scanYear
  rw [h]
  rfl

lemma splitSign_digits {digits : List Char} (hd : ∀ c ∈ digits, c.isDigit = true)
    (hne : digits ≠ []) (rest : List Char) :
    splitSign (digits ++ rest) = (false, 4, digits ++ rest) := by
  obtain ⟨c, digits, rfl⟩ := List.exists_cons_of_ne_nil hne
  have hc := hd c (by simp)
  have hm : c ≠ '-' := by rintro rfl; exact absurd hc (by decide)
  have hp : c ≠ '+' := by rintro rfl; exact absurd hc (by decide)
  rw [List.cons_append, splitSign]
  · simp_all
  · simp_all

lemma splitSign_cases (text : List Char) :
    (∃ rest, text = '-' :: rest ∧ splitSign text = (true, rest.length, rest)) ∨
      (∃ rest, text = '+' :: rest ∧ splitSign text = (false, rest.length, rest)) ∨
      splitSign text = (false, 4, text) := by
  unfold splitSign
  split
  next rest => exact .inl ⟨rest, rfl, rfl⟩
  next rest => exact .inr (.inl ⟨rest, rfl, rfl⟩)
  next => exact .inr (.inr rfl)

lemma scanYear_sound {year : Int} (h : scanYear text = .ok (year, rest)) :
    ∃ taken, YearOf taken year ∧ text = taken ++ rest := by
  obtain ⟨ws, hw, htext⟩ := trimStart_spec text
  have hdigits {negative : Bool} {width : Nat} {digits : List Char}
      (hs : splitSign (trimStart text) = (negative, width, digits)) :
      ∃ ds n, Numeral ds n ∧ ds.length ≤ width ∧ digits = ds ++ rest ∧
        year = if negative then -(n : Int) else n := by
    rw [scanYear_eq hs] at h
    obtain ⟨⟨ds, rest'⟩, hd, h⟩ := bind_eq_ok_iff.mp h
    obtain ⟨hnumeral, hlength, hdigits, -⟩ := scanDigits_sound hd
    obtain ⟨hyear, rfl⟩ := eq_of_checkedYear h
    exact ⟨ds, _, hnumeral, hlength, hdigits, hyear⟩
  obtain ⟨digits, ht, hs⟩ | ⟨digits, ht, hs⟩ | hs := splitSign_cases (trimStart text)
  · obtain ⟨ds, n, hnumeral, -, rfl, rfl⟩ := hdigits hs
    exact ⟨_, .minus hw hnumeral, by rw [htext, ht]; simp⟩
  · obtain ⟨ds, n, hnumeral, -, rfl, rfl⟩ := hdigits hs
    exact ⟨_, .plus hw hnumeral, by rw [htext, ht]; simp⟩
  · obtain ⟨ds, n, hnumeral, hlength, ht, rfl⟩ := hdigits hs
    exact ⟨_, .plain hw hnumeral hlength, by rw [htext, ht]; simp⟩

lemma YearOf.scan {year : Int} (h : YearOf taken year) (hr : NoDigit rest) :
    scanYear (taken ++ rest) = checkedYear year rest := by
  have hscan (negative : Bool) {width n : Nat} {ds : List Char}
      (hs : splitSign (trimStart (taken ++ rest)) = (negative, width, ds ++ rest))
      (hd : Numeral ds n) (hlength : ds.length ≤ width) :
      scanYear (taken ++ rest) = checkedYear (if negative then -(n : Int) else n) rest := by
    rw [scanYear_eq hs, scanDigits_append hd.isDigit hd.ne_nil hlength (.inr hr), ← hd.value]
    rfl
  cases h with
  | plain hw hd hlength =>
    refine hscan false ?_ hd hlength
    rw [List.append_assoc, trimStart_blanks hw (hd.head_not_blank rest)]
    exact splitSign_digits hd.isDigit hd.ne_nil rest
  | plus hw hd =>
    refine hscan false ?_ hd (List.length_append ▸ Nat.le_add_right _ rest.length)
    rw [List.append_assoc, trimStart_blanks hw (by simp +decide)]
    rfl
  | minus hw hd =>
    refine hscan true ?_ hd (List.length_append ▸ Nat.le_add_right _ rest.length)
    rw [List.append_assoc, trimStart_blanks hw (by simp +decide)]
    rfl

/-! ### Fractions -/

lemma dropWhile_digits {ds : List Char} (hd : ∀ c ∈ ds, c.isDigit = true) (hr : NoDigit rest) :
    (ds ++ rest).dropWhile Char.isDigit = rest := by
  rw [List.dropWhile_append_of_pos hd]
  cases rest with
  | nil => rfl
  | cons c rest => exact List.dropWhile_cons_of_neg (by simp [hr c rfl])

lemma scanFraction_sound {nano : Nat} (h : scanFraction text = .ok (nano, rest)) :
    ∃ taken, FractionOf taken nano ∧ text = taken ++ rest := by
  unfold scanFraction at h
  split at h
  next text =>
    obtain ⟨⟨ds, rest'⟩, hdigits, h⟩ := bind_eq_ok_iff.mp h
    cases h
    obtain ⟨⟨hne, hd, -⟩, hlength, rfl, hstop⟩ := scanDigits_sound hdigits
    obtain ⟨more, hmore⟩ : ∃ more, more = rest'.takeWhile Char.isDigit := ⟨_, rfl⟩
    have hall : ∀ c ∈ more, c.isDigit = true := by
      rw [hmore]
      exact List.all_eq_true.mp List.all_takeWhile
    -- nine digits are taken, or all that there are
    have hfirst : (ds ++ more).take 9 = ds := by
      obtain hnine | hstop := hstop
      · rw [← hnine, List.take_left]
      · have hnil : more = [] := by
          cases rest' with
          | nil => exact hmore
          | cons c rest' => rw [hmore, List.takeWhile_cons_of_neg (by simp [hstop c rfl])]
        rw [hnil, List.append_nil, List.take_of_length_le hlength]
    have hdigits : ∀ c ∈ ds ++ more, c.isDigit = true := List.forall_mem_append.mpr ⟨hd, hall⟩
    have hnano := nano_of_digits hdigits
    rw [hfirst] at hnano
    refine ⟨'.' :: (ds ++ more), ?_, ?_⟩
    · have hform := FractionOf.digits ⟨by simp [hne], hdigits, rfl⟩
      rw [← hnano] at hform
      exact hform
    · simp [hmore]
  next =>
    cases h
    exact ⟨[], .none, rfl⟩

/-- A text behind a second or its fraction: no digit and no point. -/
def EndsSecond (text : List Char) : Prop := NoDigit text ∧ text.head? ≠ some '.'

lemma FractionOf.scan {nano : Nat} (h : FractionOf taken nano) (hr : EndsSecond rest) :
    scanFraction (taken ++ rest) = .ok (nano, rest) := by
  obtain ⟨hr, hpoint⟩ := hr
  cases h with
  | none =>
    unfold scanFraction
    split
    next heq =>
      rw [List.nil_append] at heq
      simp [heq] at hpoint
    next => rfl
  | @digits ds n hd =>
    -- the first nine digits count, and the others are passed over
    have hdigits : scanDigits 9 (ds ++ rest) = .ok (ds.take 9, ds.drop 9 ++ rest) := by
      conv_lhs => rw [← List.take_append_drop 9 ds, List.append_assoc]
      refine scanDigits_append (fun c hc => hd.isDigit c (List.mem_of_mem_take hc)) ?_ ?_ ?_
      · simp [hd.ne_nil]
      · exact List.length_take_le 9 ds
      · by_cases hlength : 9 ≤ ds.length
        · exact .inl (by simp [hlength])
        · rw [List.drop_eq_nil_of_le (by omega)]
          exact .inr hr
    have hrest : (ds.drop 9 ++ rest).dropWhile Char.isDigit = rest :=
      dropWhile_digits (fun c hc => hd.isDigit c (List.mem_of_mem_drop hc)) hr
    simp only [List.cons_append, scanFraction, hdigits, bind, Except.bind, hrest]
    rw [← hd.value, ← nano_of_digits hd.isDigit]
    rfl

/-! ### Offsets -/

lemma scanPair_sound {a b : Char} (h : scanPair text = .ok (a, b, rest)) :
    (a.isDigit = true ∧ b.isDigit = true) ∧ text = a :: b :: rest := by
  unfold scanPair at h
  split at h
  next => cases h
  next => cases h
  next =>
    split_ifs at h with hdigits
    cases h
    exact ⟨hdigits, rfl⟩

lemma Numeral.scanPair {a b : Char} {n : Nat} (h : Numeral [a, b] n) (rest : List Char) :
    scanPair (a :: b :: rest) = .ok (a, b, rest) := by
  have ha := h.isDigit a (by simp)
  have hb := h.isDigit b (by simp)
  simp [Time.scanPair, ha, hb]

lemma numeral_pair {a b : Char} (ha : a.isDigit = true) (hb : b.isDigit = true) :
    Numeral [a, b] (Nat.ofDigitChars 10 [a, b] 0) :=
  ⟨by simp, by simp [ha, hb], rfl⟩

/-- Minutes below sixty begin with a digit up to five. -/
lemma Numeral.lt_sixty_iff {a b : Char} {n : Nat} (h : Numeral [a, b] n) :
    n < 60 ↔ ¬ '5' < a := by
  have ha := h.isDigit a (by simp)
  have hb := h.isDigit b (by simp)
  rw [Char.isDigit_iff_toNat] at ha hb
  have h0 : '0'.toNat = 48 := rfl
  have h5 : '5'.toNat = 53 := rfl
  have h9 : '9'.toNat = 57 := rfl
  have hlt : '5' < a ↔ '5'.toNat < a.toNat := Iff.rfl
  rw [hlt, ← h.value]
  simp only [Nat.ofDigitChars_cons, Nat.ofDigitChars_nil]
  omega

lemma scanShift_sound {n : Nat} (h : scanShift text = .ok (n, rest)) :
    ∃ taken, ShiftOf taken n ∧ text = taken ++ rest := by
  obtain ⟨⟨a, b, rest₁⟩, hhours, h⟩ := bind_eq_ok_iff.mp h
  obtain ⟨⟨c, d, rest₂⟩, hminutes, h⟩ := bind_eq_ok_iff.mp h
  simp only at h
  split_ifs at h with hfive
  · cases h
  cases h
  obtain ⟨⟨ha, hb⟩, rfl⟩ := scanPair_sound hhours
  obtain ⟨⟨hc, hd⟩, hrest⟩ := scanPair_sound hminutes
  have hall : (rest₁.takeWhile fun c => c = ':' || isBlank c).all (fun c => c = ':' || isBlank c) =
      true := List.all_takeWhile
  have hgap : ∀ x ∈ rest₁.takeWhile fun c => c = ':' || isBlank c, x = ':' ∨ isBlank x = true :=
    fun x hx => by simpa using List.all_eq_true.mp hall x hx
  have hsplit := List.takeWhile_append_dropWhile (p := fun c => c = ':' || isBlank c) (l := rest₁)
  rw [hrest] at hsplit
  have hlt := (numeral_pair hc hd).lt_sixty_iff.mpr hfive
  exact ⟨_, .mk (numeral_pair ha hb) hgap (numeral_pair hc hd) hlt, by simpa using hsplit.symm⟩

lemma ShiftOf.scan {n : Nat} (h : ShiftOf taken n) (rest : List Char) :
    scanShift (taken ++ rest) = .ok (n, rest) := by
  obtain @⟨a, b, c, d, hours, minutes, gap, hh, hg, hm, hlt⟩ := h
  have hc : (c = ':' || isBlank c) = false := by
    have hdigit := hm.isDigit c (by simp)
    have hcolon : c ≠ ':' := by rintro rfl; exact absurd hdigit (by decide)
    simp [hcolon, isBlank_of_isDigit hdigit]
  have hgap : (gap ++ c :: d :: rest).dropWhile (fun c => c = ':' || isBlank c) =
      c :: d :: rest := by
    rw [List.dropWhile_append_of_pos (by simpa using hg), List.dropWhile_cons_of_neg (by simp [hc])]
  have hfive := hm.lt_sixty_iff.mp hlt
  simp only [scanShift, List.cons_append, List.append_assoc, List.nil_append, hh.scanPair, bind,
    Except.bind, hgap, hm.scanPair, hfive, if_false, hh.value, hm.value]
  rfl

lemma scanOffset_sound {n : Int} (h : scanOffset text = .ok (n, rest)) :
    ∃ taken, OffsetOf taken n ∧ text = taken ++ rest := by
  unfold scanOffset at h
  split at h
  next => cases h
  next c more =>
    simp only at h
    split_ifs at h with hutc hz hplus hminus
    · cases h
      exact ⟨_, .utc hutc, (List.take_append_drop 3 (c :: more)).symm⟩
    · cases h
      exact ⟨[c], .zulu hz, rfl⟩
    · obtain ⟨⟨m, rest'⟩, hshift, h⟩ := map_eq_ok h
      cases h
      obtain ⟨taken, hform, rfl⟩ := scanShift_sound hshift
      exact ⟨'+' :: taken, .east hform, by simp [hplus]⟩
    · obtain ⟨⟨m, rest'⟩, hshift, h⟩ := map_eq_ok h
      cases h
      obtain ⟨taken, hform, rfl⟩ := scanShift_sound hshift
      exact ⟨c :: taken, .west hminus hform, rfl⟩

lemma eq_of_toLower_eq_u {c : Char} (h : c.toLower = 'u') : c = 'u' ∨ c = 'U' := by
  unfold Char.toLower at h
  split at h
  next =>
    have hval : c.val + 32 = 85 + 32 := congrArg Char.val h
    exact .inr (Char.ext ((UInt32.add_left_inj 32).mp hval))
  next => exact .inl h

/-- An offset begins with neither white space nor a digit nor a point. -/
lemma OffsetOf.head {n : Int} (h : OffsetOf taken n) :
    ∃ c more, taken = c :: more ∧ isBlank c = false ∧ c.isDigit = false ∧ c ≠ '.' := by
  cases h with
  | zulu hc => exact ⟨_, _, rfl, by obtain rfl | rfl := hc <;> decide⟩
  | utc h =>
    obtain ⟨c, more, rfl, hc, -⟩ := List.map_eq_cons_iff.mp h
    exact ⟨c, more, rfl, by obtain rfl | rfl := eq_of_toLower_eq_u hc <;> decide⟩
  | east h => exact ⟨_, _, rfl, by decide⟩
  | west hc h => exact ⟨_, _, rfl, by obtain rfl | rfl := hc <;> decide⟩

lemma OffsetOf.scan {n : Int} (h : OffsetOf taken n) (rest : List Char) :
    scanOffset (taken ++ rest) = .ok (n, rest) := by
  cases h with
  | zulu hc => obtain rfl | rfl := hc <;> simp [scanOffset]
  | utc h =>
    have hlength : taken.length = 3 := by simpa using congrArg List.length h
    obtain ⟨c, more, rfl, -⟩ := List.map_eq_cons_iff.mp h
    have htake : ((c :: more) ++ rest).take 3 = c :: more := by rw [← hlength, List.take_left]
    have hdrop : ((c :: more) ++ rest).drop 3 = rest := by rw [← hlength, List.drop_left]
    rw [List.cons_append] at htake hdrop ⊢
    simp only [scanOffset, htake, h, hdrop, if_true]
  | east h =>
    have hshift := h.scan rest
    simp [scanOffset, hshift, Except.map]
  | west hc h =>
    have hshift := h.scan rest
    obtain rfl | rfl := hc <;> simp [scanOffset, hshift, Except.map]

lemma OffsetOf.endsSecond {n : Int} (h : OffsetOf taken n) {ws : List Char} (hw : Blanks ws)
    (rest : List Char) : EndsSecond (ws ++ (taken ++ rest)) := by
  obtain ⟨c, more, rfl, -, hdigit, hpoint⟩ := h.head
  refine ⟨noDigit_blanks hw (noDigit_cons hdigit _), ?_⟩
  cases ws with
  | nil => simpa using hpoint
  | cons x ws =>
    have hx := hw x (by simp)
    rintro heq
    obtain rfl : x = '.' := by simpa using heq
    exact absurd hx (by decide)

lemma OffsetOf.trimStart {n : Int} (h : OffsetOf taken n) {ws : List Char} (hw : Blanks ws)
    (rest : List Char) : Text.trimStart (ws ++ (taken ++ rest)) = taken ++ rest := by
  obtain ⟨c, more, rfl, hblank, -⟩ := h.head
  exact trimStart_blanks hw (by simpa using hblank)

lemma FractionOf.noDigit {nano : Nat} (h : FractionOf taken nano) (hr : EndsSecond rest) :
    NoDigit (taken ++ rest) := by
  cases h with
  | none => exact hr.1
  | digits hd => exact noDigit_cons (by decide) _

/-! ### Whole texts -/

/-- **What is read is spelled** by the text. -/
theorem spells_of_ofText {r : Reading} (h : Reading.ofText text = .ok r) : Spells text r := by
  obtain ⟨⟨year, text₁⟩, hyear, h⟩ := bind_eq_ok_iff.mp h
  obtain ⟨text₂, hdash₁, h⟩ := bind_eq_ok_iff.mp h
  obtain ⟨⟨month, text₃⟩, hmonth, h⟩ := bind_eq_ok_iff.mp h
  obtain ⟨text₄, hdash₂, h⟩ := bind_eq_ok_iff.mp h
  obtain ⟨⟨day, text₅⟩, hday, h⟩ := bind_eq_ok_iff.mp h
  obtain ⟨text₆, hdivider, h⟩ := bind_eq_ok_iff.mp h
  obtain ⟨⟨hour, text₇⟩, hhour, h⟩ := bind_eq_ok_iff.mp h
  obtain ⟨text₈, hcolon₁, h⟩ := bind_eq_ok_iff.mp h
  obtain ⟨⟨minute, text₉⟩, hminute, h⟩ := bind_eq_ok_iff.mp h
  obtain ⟨text₁₀, hcolon₂, h⟩ := bind_eq_ok_iff.mp h
  obtain ⟨⟨second, text₁₁⟩, hsecond, h⟩ := bind_eq_ok_iff.mp h
  obtain ⟨⟨nano, text₁₂⟩, hfraction, h⟩ := bind_eq_ok_iff.mp h
  obtain ⟨⟨offset, text₁₃⟩, hoffset, h⟩ := bind_eq_ok_iff.mp h
  simp only at *
  split_ifs at h with hend
  cases h
  -- The texts are joined again from what each scanner took.
  obtain ⟨ws', hw', h₁₃⟩ := trimStart_spec text₁₃
  rw [List.isEmpty_iff.mp hend, List.append_nil] at h₁₃
  obtain ⟨ws, hw, h₁₂⟩ := trimStart_spec text₁₂
  obtain ⟨_, yearOf, h₀⟩ := scanYear_sound hyear
  obtain ⟨_, dashOf₁, h₁⟩ := scanMark_sound hdash₁
  obtain ⟨_, monthOf, h₂⟩ := scanNumber_sound hmonth
  obtain ⟨_, dashOf₂, h₃⟩ := scanMark_sound hdash₂
  obtain ⟨_, dayOf, h₄⟩ := scanNumber_sound hday
  obtain ⟨_, hdivider, h₅⟩ := scanDivider_sound hdivider
  obtain ⟨_, hourOf, h₆⟩ := scanNumber_sound hhour
  obtain ⟨_, colonOf₁, h₇⟩ := scanMark_sound hcolon₁
  obtain ⟨_, minuteOf, h₈⟩ := scanNumber_sound hminute
  obtain ⟨_, colonOf₂, h₉⟩ := scanMark_sound hcolon₂
  obtain ⟨_, secondOf, h₁₀⟩ := scanNumber_sound hsecond
  obtain ⟨_, fractionOf, h₁₁⟩ := scanFraction_sound hfraction
  obtain ⟨_, offsetOf, hrest⟩ := scanOffset_sound hoffset
  rw [h₀, h₁, h₂, h₃, h₄, h₅, h₆, h₇, h₈, h₉, h₁₀, h₁₁, h₁₂, hrest, h₁₃]
  exact .mk yearOf dashOf₁ monthOf dashOf₂ dayOf hdivider hourOf colonOf₁ minuteOf colonOf₂ secondOf
    fractionOf hw offsetOf hw'

/-- **What is spelled is read**, unless the year is refused. -/
theorem Spells.ofText {r : Reading} (h : Spells text r) :
    Reading.ofText text = (checkedYear r.date.year []).map fun _ => r := by
  obtain @⟨_, _, _, _, _, _, _, _, _, _, _, _, ws, ws', divider, r, yearOf, dashOf₁, monthOf,
    dashOf₂, dayOf, hdivider, hourOf, colonOf₁, minuteOf, colonOf₂, secondOf, fractionOf, hw,
    offsetOf, hw'⟩ := h
  have hends := offsetOf.endsSecond hw
  have hdivide : ∀ rest, scanDivider (divider :: rest) = .ok rest := by simp [scanDivider, hdivider]
  have hletter : divider.isDigit = false := by obtain rfl | rfl | rfl := hdivider <;> decide
  have hend : Text.trimStart ws' = [] := trimStart_eq_nil hw'
  have hdash : isBlank '-' = false := by decide
  have hcolon : isBlank ':' = false := by decide
  have hyear (rest) := yearOf.scan (dashOf₁.noDigit (by decide) rest)
  have hmonth (rest) := monthOf.scan (dashOf₂.noDigit (by decide) rest)
  have hday (rest) := dayOf.scan (noDigit_cons hletter rest)
  have hhour (rest) := hourOf.scan (colonOf₁.noDigit (by decide) rest)
  have hminute (rest) := minuteOf.scan (colonOf₂.noDigit (by decide) rest)
  have hsecond (rest) := secondOf.scan (fractionOf.noDigit (hends rest))
  have hfraction (rest) := fractionOf.scan (hends rest)
  unfold Reading.ofText
  rw [hyear]
  unfold checkedYear
  split_ifs with hrange
  · simp only [bind, Except.bind, dashOf₁.scan hdash, hmonth, dashOf₂.scan hdash, hday, hdivide,
      hhour, colonOf₁.scan hcolon, hminute, colonOf₂.scan hcolon, hsecond, hfraction,
      offsetOf.trimStart hw, offsetOf.scan, hend]
    rfl
  · rfl

/-! ### The point that is meant -/

/-- The point in time that a reading means: its minute is the local minute less the offset, counted
from day 0; its second, which may be 60, and its nanosecond are those of the reading. -/
structure Reading.Denotes (r : Reading) (t : Instant) : Prop where
  minutes : t.day * 1440 + t.minute =
    r.date.dayNumber * 1440 + (r.hour * 60 + r.minute) - r.offset
  second : t.second = r.second
  nano : t.nano = r.nano

/-- Two readings mean the same point, whatever their offsets. -/
structure Reading.SamePoint (r r' : Reading) : Prop where
  minutes : r.date.dayNumber * 1440 + (r.hour * 60 + r.minute) - r.offset =
    r'.date.dayNumber * 1440 + (r'.hour * 60 + r'.minute) - r'.offset
  second : r.second = r'.second
  nano : r.nano = r'.nano

variable {r r' : Reading} {t t' : Instant}

lemma Instant.ext {t t' : Instant} (hday : t.day = t'.day) (hminute : t.minute = t'.minute)
    (hsecond : t.second = t'.second) (hnano : t.nano = t'.nano) : t = t' := by
  cases t
  cases t'
  simp only at hday hminute hsecond hnano
  subst hday hminute hsecond hnano
  rfl

/-- Day and minute are found from the minutes since day 0. -/
lemma Reading.Denotes.eq (h : r.Denotes t) (h' : r'.Denotes t') (hsame : r.SamePoint r') :
    t = t' := by
  have hminutes := h.minutes.trans (hsame.minutes.trans h'.minutes.symm)
  have := t.minute_lt
  have := t'.minute_lt
  refine Instant.ext (by omega) (by omega) ?_ ?_
  · rw [h.second, hsame.second, h'.second]
  · rw [h.nano, hsame.nano, h'.nano]

/-- **The readings of a point**: a date of the calendar, an offset of less than a day, and the point
as it is meant. -/
theorem Reading.toInstant_eq_ok_iff :
    r.toInstant = .ok t ↔ r.date.IsValid ∧ r.offset.natAbs < 1440 ∧ r.Denotes t := by
  unfold toInstant utcMinutes
  constructor
  · intro h
    simp only at h
    split_ifs at h with hrefused hbounds
    cases h
    refine ⟨by_contra fun hv => hrefused (.inl hv), by omega, ⟨?_, rfl, rfl⟩⟩
    simp only
    omega
  · rintro ⟨hvalid, hoffset, hminutes, hsecond, hnano⟩
    have h1 := t.day_ge
    have h2 := t.day_le
    have h3 := t.minute_lt
    have h4 := t.second_le
    have h5 := t.nano_lt
    rw [if_neg (by simp [hvalid]; omega), dif_pos ⟨by omega, by omega, by omega, by omega⟩]
    exact congrArg Except.ok (Instant.ext (by simp only; omega) (by simp only; omega) hsecond.symm
      hnano.symm)

lemma Spells.toInstant {s : String} (hs : Spells s.toList r) (h : Instant.ofString s = .ok t) :
    r.toInstant = .ok t := by
  rw [Instant.ofString, hs.ofText] at h
  unfold checkedYear at h
  split_ifs at h
  · exact h
  · cases h

lemma Spells.ofString {s : String} (hs : Spells s.toList r) (hvalid : r.date.IsValid) :
    Instant.ofString s = r.toInstant := by
  have h1 : -262143 ≤ r.date.year := hvalid.1
  have h2 : r.date.year ≤ 262142 := hvalid.2.1
  rw [Instant.ofString, hs.ofText, checkedYear, if_pos ⟨by omega, by omega⟩]
  rfl

/-- **A text that is read** has a reading, with a date of the calendar and an offset of less than a
day, and whatever reading it has means the point that is read. -/
theorem ofString_denotes {s : String} (h : Instant.ofString s = .ok t) :
    (∃ r, Spells s.toList r) ∧
      ∀ r, Spells s.toList r → r.date.IsValid ∧ r.offset.natAbs < 1440 ∧ r.Denotes t := by
  refine ⟨?_, fun r hs => Reading.toInstant_eq_ok_iff.mp (hs.toInstant h)⟩
  cases hr : Reading.ofText s.toList with
  | error e =>
    rw [Instant.ofString, hr] at h
    cases h
  | ok r => exact ⟨r, spells_of_ofText hr⟩

/-- An hour east of the leap second of a leap day, up to the next month. -/
example : (Instant.ofString "2024-02-29 23:30:60.5 -01:00").map Instant.toString =
    .ok "2024-03-01T00:30:60.500Z" := by rfl

end StaticHost.Time
