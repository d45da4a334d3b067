import Mathlib.Data.List.TakeWhile
import Mathlib.Tactic.IntervalCases
import StaticHost.Proofs.JsonGrammar
import StaticHost.Proofs.Utf8
import StaticHost.Proofs.Results

/-!
What the readers of strings, words and numbers take is what the grammar says.

Each reader has two lemmas. By the first, what it has taken follows a rule; by the second, it takes
whatever follows the rule, up to its end. Only a number needs something behind it that ends it.
-/

namespace StaticHost.Json

variable {α β : Type} {c c' : Cursor} {text rest cs : List Char} {offset : Nat}

/-! ### Escapes -/

lemma shortEscape?_eq_some_iff {e x : Char} :
    shortEscape? e = some x ↔ (e, x) ∈ shortEscapes := by
  unfold shortEscape? shortEscapes
  split_ifs <;> simp_all [eq_comm]

instance (c : Char) (n : Nat) : Decidable (HexDigit c n) :=
  inferInstanceAs (Decidable (_ ∧ _))

/-- A character between two others is so many places behind the first. -/
lemma exists_ofNat_of_le {low high x : Char} (hl : low ≤ x) (hh : x ≤ high) :
    ∃ k ≤ high.toNat - low.toNat, x = Char.ofNat (low.toNat + k) := by
  have hl' : low.toNat ≤ x.toNat := hl
  have hh' : x.toNat ≤ high.toNat := hh
  refine ⟨x.toNat - low.toNat, by omega, ?_⟩
  rw [Nat.add_sub_cancel' hl', Char.ofNat_toNat]

lemma hexDigit?_eq_some_iff {x : Char} {n : Nat} : hexDigit? x = some n ↔ HexDigit x n := by
  constructor
  · intro h
    unfold hexDigit? at h
    split_ifs at h with hdigit hlower hupper
    · obtain ⟨k, hk, rfl⟩ := exists_ofNat_of_le hdigit.1 hdigit.2
      change k ≤ 9 at hk
      cases h
      interval_cases k <;> decide
    · obtain ⟨k, hk, rfl⟩ := exists_ofNat_of_le hlower.1 hlower.2
      change k ≤ 5 at hk
      cases h
      interval_cases k <;> decide
    · obtain ⟨k, hk, rfl⟩ := exists_ofNat_of_le hupper.1 hupper.2
      change k ≤ 5 at hk
      cases h
      interval_cases k <;> decide
  · rintro ⟨hn, h⟩
    interval_cases n <;> rcases h with rfl | rfl <;> decide

lemma hexQuad?_eq_some_iff {w x y z : Char} {n : Nat} :
    hexQuad? w x y z = some n ↔ HexQuad [w, x, y, z] n := by
  constructor
  · intro h
    unfold hexQuad? at h
    split at h
    next i j k l hi hj hk hl =>
      have hn : n = i * 0x1000 + j * 0x100 + k * 0x10 + l := by
        have := Option.some.inj h
        omega
      rw [hexDigit?_eq_some_iff] at hi hj hk hl
      rw [hn]
      exact .mk hi hj hk hl
    next => cases h
  · rintro ⟨hi, hj, hk, hl⟩
    rw [← hexDigit?_eq_some_iff] at hi hj hk hl
    simp only [hexQuad?, hi, hj, hk, hl]
    congr 1
    omega

lemma HexQuad.lt {quad : List Char} {n : Nat} (h : HexQuad quad n) : n < 0x10000 := by
  obtain ⟨hi, hj, hk, hl⟩ := h
  have := hi.1
  have := hj.1
  have := hk.1
  have := hl.1
  omega

lemma HexQuad.exists_eq {quad : List Char} {n : Nat} (h : HexQuad quad n) :
    ∃ w x y z, quad = [w, x, y, z] ∧ hexQuad? w x y z = some n := by
  obtain ⟨hi, hj, hk, hl⟩ := id h
  exact ⟨_, _, _, _, rfl, hexQuad?_eq_some_iff.mpr h⟩

/-! ### Strings -/

/-- Where no string ends and no escape starts, a character may stand for itself. -/
lemma ne_backslash {x : Char} {rest : List Char} (hnil : x = '\\' → rest = [] → False)
    (hcons : ∀ (e : Char) (more : List Char), x = '\\' → rest = e :: more → False) : x ≠ '\\' := by
  intro hx
  cases rest with
  | nil => exact hnil hx rfl
  | cons e more => exact hcons e more hx rfl

/-- **A string that was read** is spelled by what was taken. -/
theorem scanText_sound (h : scanText text offset = .ok (cs, c)) :
    ∃ body, Spells body cs ∧ text = body ++ '"' :: c.rest := by
  -- of the cases of reading, all but five end in an error
  fun_induction scanText text offset generalizing cs with
  | case2 rest offset =>
    cases h
    exact ⟨[], .nil, rfl⟩
  | case6 w x y z offset high hhigh htrail hlead w' x' y' z' rest low hlow hlow' ih =>
    -- two escapes that make up one character
    obtain ⟨⟨cs, c⟩, hs, h⟩ := map_eq_ok h
    cases h
    obtain ⟨body, hbody, rfl⟩ := ih hs
    simp only [isTrailingSurrogate, isLeadingSurrogate, Bool.and_eq_true, decide_eq_true_eq]
      at hlead hlow'
    have hm : HexQuad [w, x, y, z] (0xD800 + (high - 0xD800)) := by
      rw [Nat.add_sub_cancel' hlead.1]
      exact hexQuad?_eq_some_iff.mp hhigh
    have hn : HexQuad [w', x', y', z'] (0xDC00 + (low - 0xDC00)) := by
      rw [Nat.add_sub_cancel' hlow'.1]
      exact hexQuad?_eq_some_iff.mp hlow
    have hc : (joinSurrogates high low).toNat =
        0x10000 + (high - 0xD800) * 0x400 + (low - 0xDC00) := by
      refine (Utf8.toNat_ofNat_of_scalar ?_).trans (by omega)
      omega
    exact ⟨_, .pair hm hn (by omega) (by omega) hc hbody, by simp⟩
  | case9 w x y z rest offset n hn htrail hlead ih =>
    -- an escape on its own, which is no half of a character
    obtain ⟨⟨cs, c⟩, hs, h⟩ := map_eq_ok h
    cases h
    obtain ⟨body, hbody, rfl⟩ := ih hs
    have hq := hexQuad?_eq_some_iff.mp hn
    have hlt := hq.lt
    simp only [isTrailingSurrogate, isLeadingSurrogate, Bool.and_eq_true, decide_eq_true_eq]
      at htrail hlead
    have hc : (Char.ofNat n).toNat = n := Utf8.toNat_ofNat_of_scalar (by omega)
    rw [← hc] at hq
    exact ⟨_, .unit hq hbody, by simp⟩
  | case12 e rest offset _ _ x hx ih =>
    -- a short escape
    obtain ⟨⟨cs, c⟩, hs, h⟩ := map_eq_ok h
    cases h
    obtain ⟨body, hbody, rfl⟩ := ih hs
    exact ⟨_, .short (shortEscape?_eq_some_iff.mp hx) hbody, rfl⟩
  | case15 x rest offset hquote _ _ hcons hnil hcontrol ih =>
    -- a character that stands for itself
    have hb := ne_backslash hnil hcons
    obtain ⟨⟨cs, c⟩, hs, h⟩ := map_eq_ok h
    cases h
    obtain ⟨body, hbody, rfl⟩ := ih hs
    exact ⟨_, .plain ⟨hquote, hb, by omega⟩ hbody, rfl⟩
  | _ => cases h

lemma shortEscape_ne_u {e x : Char} (h : (e, x) ∈ shortEscapes) : e ≠ 'u' := by
  rintro rfl
  simp [shortEscapes] at h

/-- **A spelled string is read**, up to its closing quote. -/
theorem scanText_complete {body : List Char} (h : Spells body cs) (rest : List Char)
    (offset : Nat) :
    ∃ offset', scanText (body ++ '"' :: rest) offset = .ok (cs, ⟨rest, offset'⟩) := by
  induction h generalizing offset with
  | nil => exact ⟨offset + 1, by rw [List.nil_append, scanText]⟩
  | @plain x text cs hx h ih =>
    obtain ⟨o, ho⟩ := ih (offset + x.utf8Size)
    exact ⟨o, by rw [List.cons_append, scanText_plain hx.1 hx.2.1 hx.2.2, ho]; rfl⟩
  | @short e x text cs he h ih =>
    obtain ⟨o, ho⟩ := ih (offset + 2)
    refine ⟨o, ?_⟩
    rw [List.cons_append, List.cons_append,
      scanText_short (shortEscape_ne_u he) (shortEscape?_eq_some_iff.mpr he), ho]
    rfl
  | @unit x quad text cs hq h ih =>
    obtain ⟨o, ho⟩ := ih (offset + 6)
    obtain ⟨i, j, k, l, rfl, hvalue⟩ := hq.exists_eq
    have hscalar := Utf8.scalar x
    have ht : isTrailingSurrogate x.toNat = false := by
      simp [isTrailingSurrogate]; omega
    have hl : isLeadingSurrogate x.toNat = false := by
      simp [isLeadingSurrogate]; omega
    refine ⟨o, ?_⟩
    simp only [List.cons_append, List.nil_append]
    rw [scanText]
    simp only [hvalue, ht, hl, ho, Char.ofNat_toNat, Bool.false_eq_true, if_false]
    rfl
  | @pair x high low text cs m n hm hn hml hnl hx h ih =>
    obtain ⟨o, ho⟩ := ih (offset + 12)
    obtain ⟨i, j, k, l, rfl, hhigh⟩ := hm.exists_eq
    obtain ⟨i', j', k', l', rfl, hlow⟩ := hn.exists_eq
    have ht : isTrailingSurrogate (0xD800 + m) = false := by
      simp [isTrailingSurrogate]; omega
    have hl : isLeadingSurrogate (0xD800 + m) = true := by
      simp [isLeadingSurrogate]; omega
    have ht' : isTrailingSurrogate (0xDC00 + n) = true := by
      simp [isTrailingSurrogate]; omega
    have hjoin : joinSurrogates (0xD800 + m) (0xDC00 + n) = x := by
      have hsum : (0xD800 + m - 0xD800) * 0x400 + (0xDC00 + n - 0xDC00) + 0x10000 = x.toNat := by
        omega
      rw [joinSurrogates, hsum, Char.ofNat_toNat]
    refine ⟨o, ?_⟩
    simp only [List.cons_append, List.nil_append]
    rw [scanText]
    simp only [hhigh, ht, hl, hlow, ht', ho, hjoin, Bool.false_eq_true, if_false, if_true]
    rfl

lemma Spells.isText {body : List Char} (h : Spells body cs) : IsText body := by
  induction h with
  | nil => exact .nil
  | plain hc _ ih => exact .plain hc ih
  | short he _ ih => exact .short he ih
  | unit hq _ ih => exact .unit hq ih
  | pair hm hn _ _ _ _ ih => exact .unit hm (.unit hn ih)

lemma passText_sound (h : passText text offset = .ok c) :
    ∃ body, IsText body ∧ text = body ++ '"' :: c.rest := by
  fun_induction passText text offset with
  | case2 rest offset =>
    cases h
    exact ⟨[], .nil, rfl⟩
  | case4 w x y z rest offset n hn ih =>
    obtain ⟨body, hbody, rfl⟩ := ih h
    exact ⟨_, .unit (hexQuad?_eq_some_iff.mp hn) hbody, rfl⟩
  | case7 e rest offset _ _ x hx ih =>
    obtain ⟨body, hbody, rfl⟩ := ih h
    exact ⟨_, .short (shortEscape?_eq_some_iff.mp hx) hbody, rfl⟩
  | case10 x rest offset hquote _ _ hcons hnil hcontrol ih =>
    have hb := ne_backslash hnil hcons
    obtain ⟨body, hbody, rfl⟩ := ih h
    exact ⟨_, .plain ⟨hquote, hb, by omega⟩ hbody, rfl⟩
  | _ => cases h

lemma passText_complete {body : List Char} (h : IsText body) (rest : List Char) (offset : Nat) :
    ∃ offset', passText (body ++ '"' :: rest) offset = .ok ⟨rest, offset'⟩ := by
  induction h generalizing offset with
  | nil => exact ⟨offset + 1, by rw [List.nil_append, passText]⟩
  | @plain x text hx h ih =>
    obtain ⟨o, ho⟩ := ih (offset + x.utf8Size)
    obtain ⟨hq, hb, hcontrol⟩ := hx
    refine ⟨o, ?_⟩
    rw [List.cons_append, passText, if_neg (by omega), ho]
    all_goals simp_all
  | @short e x text he h ih =>
    obtain ⟨o, ho⟩ := ih (offset + 2)
    have hu := shortEscape_ne_u he
    rw [← shortEscape?_eq_some_iff] at he
    refine ⟨o, ?_⟩
    rw [List.cons_append, List.cons_append, passText]
    · simp only [he, ho]
    all_goals simp_all
  | @unit quad text n hq h ih =>
    obtain ⟨o, ho⟩ := ih (offset + 6)
    obtain ⟨i, j, k, l, rfl, hvalue⟩ := hq.exists_eq
    refine ⟨o, ?_⟩
    simp only [List.cons_append, List.nil_append]
    rw [passText]
    simp only [hvalue, ho]

/-! ### White space and words -/

lemma skipSpace_spec (c : Cursor) : ∃ ws, Blank ws ∧ c.rest = ws ++ c.skipSpace.rest :=
  ⟨c.rest.takeWhile Cursor.isSpace, fun _ hx => List.mem_takeWhile_imp hx,
    List.takeWhile_append_dropWhile.symm⟩

lemma passLetters_sound {letters : List Char} (h : passLetters letters ⟨text, offset⟩ = .ok c) :
    text = letters ++ c.rest := by
  induction letters generalizing text offset with
  | nil =>
    cases h
    rfl
  | cons letter letters ih =>
    rw [passLetters] at h
    split at h
    next => cases h
    next x rest hrest =>
      split_ifs at h with hx
      rw [show text = x :: rest from hrest, hx, List.cons_append, ← ih h]

/-! ### Numbers -/

variable {atEnd : Problem} {ds : List Char}

def NoDigit (rest : List Char) : Prop :=
  ∀ x, rest.head? = some x → x.isDigit = false

/-- What comes next can stand behind a value in a list or in an object. -/
def Ends (rest : List Char) : Prop :=
  ∀ x, rest.head? = some x → Cursor.isSpace x = true ∨ x = ',' ∨ x = ']' ∨ x = '\x7d'

lemma Ends.spec {x : Char} (h : Ends rest) (hx : rest.head? = some x) :
    x.isDigit = false ∧ x ≠ '.' ∧ x ≠ 'e' ∧ x ≠ 'E' := by
  have hx := h x hx
  simp only [Cursor.isSpace, Bool.or_eq_true, beq_iff_eq] at hx
  rcases hx with (((rfl | rfl) | rfl) | rfl) | rfl | rfl | rfl <;> decide

lemma takeDigits_spec (c : Cursor) :
    (∀ d ∈ (takeDigits c).1, d.isDigit = true) ∧
      c.rest = (takeDigits c).1 ++ (takeDigits c).2.rest :=
  ⟨fun _ hd => List.mem_takeWhile_imp hd,
    (List.prefix_iff_eq_append.mp (List.takeWhile_prefix _)).symm⟩

lemma takeDigits_append (hd : ∀ d ∈ ds, d.isDigit = true) (hr : NoDigit rest) (offset : Nat) :
    takeDigits ⟨ds ++ rest, offset⟩ = (ds, ⟨rest, offset + ds.length⟩) := by
  have hnone : rest.takeWhile Char.isDigit = [] := by
    cases rest with
    | nil => rfl
    | cons x rest => rw [List.takeWhile_cons_of_neg (by simp [hr x rfl])]
  have ht : (ds ++ rest).takeWhile Char.isDigit = ds := by
    rw [List.takeWhile_append_of_pos hd, hnone, List.append_nil]
  simp only [takeDigits, ht, List.drop_left]

/-- The digits that are taken are none, or they are what the text starts with. -/
lemma takeDigits_cases (c : Cursor) :
    (takeDigits c).1 = [] ∨ ∃ d ds next, takeDigits c = (d :: ds, next) ∧ Digits (d :: ds) ∧
      c.rest = d :: ds ++ next.rest := by
  obtain ⟨hdigits, hrest⟩ := takeDigits_spec c
  rcases htake : takeDigits c with ⟨digits, next⟩
  rw [htake] at hdigits hrest
  cases digits with
  | nil => exact .inl rfl
  | cons d ds => exact .inr ⟨d, ds, next, rfl, ⟨by simp, hdigits⟩, hrest⟩

lemma scanWhole_sound (h : scanWhole atEnd c = .ok (ds, c')) :
    IsWhole ds ∧ c.rest = ds ++ c'.rest := by
  unfold scanWhole at h
  rcases takeDigits_cases c with hnil | ⟨d, digits, next, htake, hdigits, hrest⟩
  · rw [← Prod.eta (takeDigits c), hnil] at h
    cases h
  · rw [htake] at h
    split at h
    next hd => cases hd
    next hd => cases h
    next hnil hzero hd =>
      cases hd
      cases h
      refine ⟨⟨hdigits, fun hhead => ?_⟩, hrest⟩
      obtain rfl := Option.some.inj hhead
      cases digits with
      | nil => rfl
      | cons x more => exact (hzero x more rfl).elim

lemma scanFraction_sound (h : scanFraction atEnd c = .ok (ds, c')) :
    ∃ text, IsFraction text ∧ c.rest = text ++ c'.rest := by
  unfold scanFraction at h
  split at h
  next rest hc =>
    simp only at h
    rcases takeDigits_cases ⟨rest, c.offset + 1⟩ with
      hnil | ⟨d, digits, next, htake, hdigits, hrest⟩
    · rw [← Prod.eta (takeDigits _), hnil] at h
      cases h
    · rw [htake] at h
      cases h
      exact ⟨_, .inr ⟨_, hdigits, rfl⟩, by rw [hc]; exact congrArg _ hrest⟩
  next =>
    cases h
    exact ⟨[], .inl rfl, rfl⟩

lemma scanExponent_sound {x : Option (Bool × List Char)}
    (h : scanExponent atEnd c = .ok (x, c')) :
    ∃ text, IsExponent text ∧ c.rest = text ++ c'.rest := by
  unfold scanExponent at h
  split at h
  next mark rest hc =>
    split_ifs at h with hmark
    · split at h
      next negative c₁ hnext =>
      obtain ⟨sign, hsign, hrest⟩ : ∃ sign, (sign = [] ∨ sign = ['+'] ∨ sign = ['-']) ∧
          rest = sign ++ c₁.rest := by
        split at hnext <;> cases hnext
        · exact ⟨['+'], by simp⟩
        · exact ⟨['-'], by simp⟩
        · exact ⟨[], by simp⟩
      rcases takeDigits_cases c₁ with hnil | ⟨d, digits, next, htake, hdigits, hdrest⟩
      · rw [← Prod.eta (takeDigits _), hnil] at h
        cases h
      · rw [htake] at h
        cases h
        refine ⟨mark :: (sign ++ d :: digits), .inr ⟨_, _, _, hmark, hsign, hdigits, rfl⟩, ?_⟩
        simp [hc, hrest, hdrest]
    · cases h
      exact ⟨[], .inl rfl, rfl⟩
  next =>
    cases h
    exact ⟨[], .inl rfl, rfl⟩

lemma scanNumeral_sound {n : Numeral} (h : scanNumeral atEnd c = .ok (n, c')) :
    ∃ text, IsNumeral text ∧ c.rest = text ++ c'.rest := by
  unfold scanNumeral at h
  obtain ⟨⟨whole, c₁⟩, hwhole, h⟩ := bind_eq_ok_iff.mp h
  obtain ⟨⟨fraction, c₂⟩, hfraction, h⟩ := bind_eq_ok_iff.mp h
  obtain ⟨⟨exponent, c₃⟩, hexponent, h⟩ := bind_eq_ok_iff.mp h
  cases h
  obtain ⟨hw, hrest₁⟩ := scanWhole_sound hwhole
  obtain ⟨f, hf, hrest₂⟩ := scanFraction_sound hfraction
  obtain ⟨e, he, hrest₃⟩ := scanExponent_sound hexponent
  refine ⟨_, .mk hw hf he, ?_⟩
  simp only [hrest₁, hrest₂, hrest₃, List.append_assoc]

lemma scanExponent_complete {text : List Char} (he : IsExponent text) (hr : Ends rest)
    (atEnd : Problem) (offset : Nat) :
    ∃ x offset', scanExponent atEnd ⟨text ++ rest, offset⟩ = .ok (x, ⟨rest, offset'⟩) := by
  have hdigit : NoDigit rest := fun x hx => (hr.spec hx).1
  rcases he with rfl | ⟨mark, sign, ds, hmark, hsign, hds, rfl⟩
  · refine ⟨none, offset, ?_⟩
    unfold scanExponent
    cases rest with
    | nil => rfl
    | cons x rest =>
      obtain ⟨-, -, he, hE⟩ := hr.spec rfl
      simp [he, hE]
  · obtain ⟨d, ds, rfl⟩ := List.exists_cons_of_ne_nil hds.1
    have hd := hds.2 d (by simp)
    have htake := takeDigits_append hds.2 hdigit
    simp only [List.cons_append] at htake
    rcases hsign with rfl | rfl | rfl
    · have hplus : d ≠ '+' := by rintro rfl; cases hd
      have hminus : d ≠ '-' := by rintro rfl; cases hd
      refine ⟨some (false, d :: ds), offset + 1 + (d :: ds).length, ?_⟩
      simp [scanExponent, hmark, hplus, hminus, htake]
    · refine ⟨some (false, d :: ds), offset + 2 + (d :: ds).length, ?_⟩
      simp only [scanExponent, List.cons_append, List.nil_append, if_pos hmark, htake]
    · refine ⟨some (true, d :: ds), offset + 2 + (d :: ds).length, ?_⟩
      simp only [scanExponent, List.cons_append, List.nil_append, if_pos hmark, htake]

/-- What follows the digits before the point is no digit. -/
lemma noDigit_exponent {text : List Char} (he : IsExponent text) (hr : Ends rest) :
    NoDigit (text ++ rest) ∧ (text ++ rest).head? ≠ some '.' := by
  rcases he with rfl | ⟨mark, sign, ds, rfl | rfl, -, -, rfl⟩
  · exact ⟨fun x hx => (hr.spec hx).1, fun hx => (hr.spec hx).2.1 rfl⟩
  · exact ⟨fun x hx => Option.some.inj hx ▸ rfl, by simp⟩
  · exact ⟨fun x hx => Option.some.inj hx ▸ rfl, by simp⟩

lemma noDigit_fraction {text : List Char} (hf : IsFraction text) (hr : NoDigit rest) :
    NoDigit (text ++ rest) := by
  rcases hf with rfl | ⟨ds, -, rfl⟩
  · exact hr
  · exact fun x hx => Option.some.inj hx ▸ rfl

lemma scanFraction_complete {text : List Char} (hf : IsFraction text) (hr : NoDigit rest)
    (hpoint : rest.head? ≠ some '.') (atEnd : Problem) (offset : Nat) :
    ∃ ds offset', scanFraction atEnd ⟨text ++ rest, offset⟩ = .ok (ds, ⟨rest, offset'⟩) := by
  rcases hf with rfl | ⟨ds, hds, rfl⟩
  · refine ⟨[], offset, ?_⟩
    unfold scanFraction
    split
    next more hrest => exact absurd (congrArg List.head? hrest) hpoint
    next => rfl
  · obtain ⟨d, ds, rfl⟩ := List.exists_cons_of_ne_nil hds.1
    have htake := takeDigits_append hds.2 hr (offset + 1)
    exact ⟨d :: ds, offset + 1 + (d :: ds).length, by
      simp only [scanFraction, List.cons_append] at htake ⊢; rw [htake]⟩

lemma scanWhole_complete (hw : IsWhole ds) (hr : NoDigit rest) (atEnd : Problem) (offset : Nat) :
    ∃ offset', scanWhole atEnd ⟨ds ++ rest, offset⟩ = .ok (ds, ⟨rest, offset'⟩) := by
  obtain ⟨hds, hzero⟩ := hw
  refine ⟨offset + ds.length, ?_⟩
  rw [scanWhole, takeDigits_append hds.2 hr offset]
  split
  next hnil => exact absurd (congrArg Prod.fst hnil) hds.1
  next x more _ hmore =>
    cases hmore
    simp at hzero
  next h =>
    cases h
    rfl

/-- **A number is scanned** up to what ends it. -/
theorem scanNumeral_complete {text : List Char} (h : IsNumeral text) (hr : Ends rest)
    (atEnd : Problem) (offset : Nat) :
    ∃ n offset', scanNumeral atEnd ⟨text ++ rest, offset⟩ = .ok (n, ⟨rest, offset'⟩) := by
  obtain @⟨whole, _, _, hw, hf, he⟩ := h
  obtain ⟨hdigit, hpoint⟩ := noDigit_exponent he hr
  obtain ⟨o₁, hwhole⟩ := scanWhole_complete hw (noDigit_fraction hf hdigit) atEnd offset
  obtain ⟨fraction, o₂, hfraction⟩ := scanFraction_complete hf hdigit hpoint atEnd o₁
  obtain ⟨exponent, o₃, hexponent⟩ := scanExponent_complete he hr atEnd o₂
  refine ⟨⟨whole, fraction, exponent⟩, o₃, ?_⟩
  simp only [scanNumeral, List.append_assoc, hwhole, hfraction, hexponent, bind, Except.bind, pure,
    Except.pure]

end StaticHost.Json
