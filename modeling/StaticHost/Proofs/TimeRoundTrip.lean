import StaticHost.Proofs.TimeText

/-!
The written form of a point in time is read back as that point.

The text spells the date of the day and the time of day, in UTC. Each number stands in a form that
its reader takes: padded to two digits, or the year to four of them, with a sign if it has more.
-/

namespace StaticHost.Time

/-! ### Numbers -/

lemma numeral_padded (width n : Nat) : Numeral (padded width n) n where
  ne_nil := by simp [padded]
  isDigit := by
    intro c hc
    obtain hc | hc := List.mem_append.mp hc
    · rw [List.eq_of_mem_replicate hc]
      rfl
    · exact Nat.isDigit_of_mem_toDigits (by decide) (by decide) hc
  value := by simp [padded, Nat.ofDigitChars_append]

lemma length_padded {width n : Nat} (hw : 0 < width) (hn : n < 10 ^ width) :
    (padded width n).length = width := by
  have h := (Nat.length_toDigits_le_iff (b := 10) (by decide) hw).mpr hn
  simp only [padded, List.length_append, List.length_replicate]
  omega

lemma blanks_nil : Blanks [] := by simp [Blanks]

lemma numberOf_padded {n low high : Nat} (hl : low ≤ n) (hh : n ≤ high) (hn : n < 100) :
    NumberOf low high (padded 2 n) n := by
  have hlength : (padded 2 n).length = 2 := length_padded (by decide) hn
  exact @NumberOf.mk low high [] _ n blanks_nil (numeral_padded 2 n) (Nat.le_of_eq hlength) hl hh

lemma markOf_self (mark : Char) : MarkOf mark [mark] := .mk blanks_nil

lemma yearOf_yearText (year : Int) : YearOf (yearText year) year := by
  unfold yearText
  split_ifs with hfour hminus
  · have hlength : (padded 4 year.toNat).length = 4 := length_padded (by decide) (by omega)
    have hplain := YearOf.plain blanks_nil (numeral_padded 4 year.toNat) (Nat.le_of_eq hlength)
    rwa [Int.toNat_of_nonneg hfour.1] at hplain
  · have hsigned := YearOf.minus blanks_nil (numeral_padded 4 year.natAbs)
    rwa [show -(year.natAbs : Int) = year by omega] at hsigned
  · have hsigned := YearOf.plus blanks_nil (numeral_padded 4 year.natAbs)
    rwa [show (year.natAbs : Int) = year by omega] at hsigned

/-! ### The fraction of a second -/

lemma fractionOf_padded (width n : Nat) (hw : 0 < width) (hn : n < 10 ^ width) :
    FractionOf ('.' :: padded width n) (n * 10 ^ 9 / 10 ^ width) := by
  have hform := FractionOf.digits (numeral_padded width n)
  rwa [length_padded hw hn] at hform

lemma fractionOf_fractionText {nano : Nat} (h : nano < 1000000000) :
    FractionOf (fractionText nano) nano := by
  unfold fractionText
  split_ifs with h0 h3 h6
  · rw [h0]
    exact .none
  · have hform := fractionOf_padded 3 (nano / 1000000) (by decide) (by omega)
    rwa [show nano / 1000000 * 10 ^ 9 / 10 ^ 3 = nano by omega] at hform
  · have hform := fractionOf_padded 6 (nano / 1000) (by decide) (by omega)
    rwa [show nano / 1000 * 10 ^ 9 / 10 ^ 6 = nano by omega] at hform
  · have hform := fractionOf_padded 9 nano (by decide) (by omega)
    rwa [show nano * 10 ^ 9 / 10 ^ 9 = nano by omega] at hform

/-! ### The whole text -/

def Instant.reading (t : Instant) : Reading :=
  ⟨Date.ofDayNumber t.day, t.minute / 60, t.minute % 60, t.second, t.nano, 0⟩

/-- **A written time spells its date and its time of day**, with no offset. -/
theorem spells_text (t : Instant) : Spells t.text t.reading := by
  obtain ⟨-, hm1, hm2, hd1, hd2, -⟩ := ofDayNumber_spec t.day
  have hm := monthLength_le (yearOfDay t.day) (Date.ofDayNumber t.day).month
  have := t.minute_lt
  have := t.second_le
  have hmonth := numberOf_padded hm1 hm2 (by omega)
  have hday : NumberOf 1 31 _ (Date.ofDayNumber t.day).day :=
    numberOf_padded hd1 (by omega) (by omega)
  have hhour : NumberOf 0 23 _ (t.minute / 60) :=
    numberOf_padded (by omega) (by omega) (by omega)
  have hminute : NumberOf 0 59 _ (t.minute % 60) :=
    numberOf_padded (by omega) (by omega) (by omega)
  have hsecond : NumberOf 0 60 _ t.second := numberOf_padded (by omega) (by omega) (by omega)
  have hspells := Spells.mk (r := t.reading) (yearOf_yearText _) (markOf_self '-') hmonth
    (markOf_self '-') hday (.inl rfl) hhour (markOf_self ':') hminute (markOf_self ':') hsecond
    (fractionOf_fractionText t.nano_lt) blanks_nil (.zulu (.inl rfl)) blanks_nil
  simpa [Instant.text, Instant.textWith, Instant.reading] using hspells

lemma spells_toString (t : Instant) : Spells t.toString.toList t.reading := by
  rw [Instant.toString, String.toList_ofList]
  exact spells_text t

lemma denotes_reading (t : Instant) : t.reading.Denotes t where
  minutes := by
    simp only [Instant.reading, dayNumber_ofDayNumber]
    omega
  second := rfl
  nano := rfl

/-- **A written time reads back** as the same point in time. -/
theorem ofString_toString (t : Instant) : Instant.ofString t.toString = .ok t := by
  have hvalid := ofDayNumber_isValid t.day_ge t.day_le
  rw [(spells_toString t).ofString hvalid]
  exact Reading.toInstant_eq_ok_iff.mpr ⟨hvalid, by simp [Instant.reading], denotes_reading t⟩

end StaticHost.Time
