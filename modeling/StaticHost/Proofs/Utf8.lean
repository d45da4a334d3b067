import Mathlib.Tactic.Common
import StaticHost.Text.Utf8

/-!
Decoding undoes encoding: the bytes of a text are well-formed, and decode to the same text. And
encoding undoes decoding: bytes that decode are the bytes of their text, and of no other.

The decoder is followed through the one to four bytes of a character. After the first of them it
is in a state whose range admits the second, whatever the character; the bytes after that one may
be any tail. For the way back the ranges say that the value has no shorter form and is a character.
-/

namespace StaticHost.Utf8

/-- A character is no surrogate and lies below the last plane's end. -/
lemma scalar (c : Char) : c.toNat < 0xD800 ∨ 0xE000 ≤ c.toNat ∧ c.toNat < 0x110000 := by
  have h := c.valid
  have e : c.toNat = c.val.toNat := rfl
  simp only [UInt32.isValidChar, Nat.isValidChar] at h
  omega

lemma ofNat_lt_iff {n : Nat} (h : n < 256) (b : UInt8) : UInt8.ofNat n < b ↔ n < b.toNat := by
  rw [UInt8.lt_iff_toNat_lt, UInt8.toNat_ofNat_of_lt' h]

lemma ofNat_eq_iff {n : Nat} (h : n < 256) (b : UInt8) : UInt8.ofNat n = b ↔ n = b.toNat := by
  rw [← UInt8.toNat_inj, UInt8.toNat_ofNat_of_lt' h]

/-- The start of a sequence, by the number of its byte. -/
lemma lead_ofNat {n : Nat} (h : n < 256) :
    lead (UInt8.ofNat n) =
      if n < 0x80 then ([some (Char.ofNat n)], .ready)
      else if n < 0xC2 then ([none], .ready)
      else if n < 0xE0 then ([], .within (n - 0xC0) 0x80 0xBF 0)
      else if n = 0xE0 then ([], .within 0 0xA0 0xBF 1)
      else if n = 0xED then ([], .within 0xD 0x80 0x9F 1)
      else if n < 0xF0 then ([], .within (n - 0xE0) 0x80 0xBF 1)
      else if n = 0xF0 then ([], .within 0 0x90 0xBF 2)
      else if n < 0xF4 then ([], .within (n - 0xF0) 0x80 0xBF 2)
      else if n = 0xF4 then ([], .within 4 0x80 0x8F 2)
      else ([none], .ready) := by
  simp only [lead, ofNat_lt_iff h, ofNat_eq_iff h, UInt8.toNat_ofNat_of_lt' h]
  rfl

lemma pieces_ready (b : UInt8) (rest : Bytes) :
    pieces .ready (b :: rest) = (lead b).1 ++ pieces (lead b).2 rest := rfl

/-- A byte in the range that the state asks for goes into the value. -/
lemma pieces_within {low high b : UInt8} (hl : low ≤ b) (hh : b ≤ high) (value more : Nat)
    (rest : Bytes) :
    pieces (.within value low high more) (b :: rest) =
      match more with
      | 0 => some (Char.ofNat (value * 64 + b.toNat % 64)) :: pieces .ready rest
      | more + 1 => pieces (.within (value * 64 + b.toNat % 64) 0x80 0xBF more) rest := by
  cases more <;> simp [pieces, feed, hl, hh]

lemma toNat_tail (n : Nat) : (UInt8.ofNat (n % 0x40 + 0x80)).toNat = n % 64 + 128 :=
  UInt8.toNat_ofNat_of_lt' (by change _ < 256; omega)

lemma pieces_tail {low high : UInt8} {n : Nat} (hl : low.toNat ≤ n % 64 + 128)
    (hh : n % 64 + 128 ≤ high.toNat) (value more : Nat) (rest : Bytes) :
    pieces (.within value low high more) (UInt8.ofNat (n % 0x40 + 0x80) :: rest) =
      match more with
      | 0 => some (Char.ofNat (value * 64 + n % 64)) :: pieces .ready rest
      | more + 1 => pieces (.within (value * 64 + n % 64) 0x80 0xBF more) rest := by
  have hm : (n % 64 + 128) % 64 = n % 64 := by omega
  rw [pieces_within (by rw [UInt8.le_iff_toNat_le, toNat_tail]; exact hl)
    (by rw [UInt8.le_iff_toNat_le, toNat_tail]; exact hh), toNat_tail, hm]

lemma pieces_anyTail (n value more : Nat) (rest : Bytes) :
    pieces (.within value 0x80 0xBF more) (UInt8.ofNat (n % 0x40 + 0x80) :: rest) =
      match more with
      | 0 => some (Char.ofNat (value * 64 + n % 64)) :: pieces .ready rest
      | more + 1 => pieces (.within (value * 64 + n % 64) 0x80 0xBF more) rest :=
  pieces_tail (by change 128 ≤ _; omega) (by change _ ≤ 191; omega) value more rest

lemma pieces_two {n : Nat} (h1 : 0x7F < n) (h2 : n ≤ 0x7FF) (rest : Bytes) :
    pieces .ready (UInt8.ofNat (n / 64 % 0x20 + 0xC0) :: UInt8.ofNat (n % 0x40 + 0x80) :: rest) =
      some (Char.ofNat n) :: pieces .ready rest := by
  have hb : n / 64 % 0x20 + 0xC0 = n / 64 + 0xC0 := by omega
  have hn : n / 64 * 64 + n % 64 = n := by omega
  rw [pieces_ready, hb, lead_ofNat (by omega), if_neg (by omega), if_neg (by omega),
    if_pos (by omega)]
  simp only [List.nil_append, pieces_anyTail, Nat.add_sub_cancel, hn]

lemma pieces_three {n : Nat} (h1 : 0x7FF < n) (h2 : n ≤ 0xFFFF) (hs : n < 0xD800 ∨ 0xE000 ≤ n)
    (rest : Bytes) :
    pieces .ready (UInt8.ofNat (n / 4096 % 0x10 + 0xE0) :: UInt8.ofNat (n / 64 % 0x40 + 0x80)
        :: UInt8.ofNat (n % 0x40 + 0x80) :: rest) =
      some (Char.ofNat n) :: pieces .ready rest := by
  have hb : n / 4096 % 0x10 + 0xE0 = n / 4096 + 0xE0 := by omega
  have hm : n / 4096 * 64 + n / 64 % 64 = n / 64 := by omega
  have hn : n / 64 * 64 + n % 64 = n := by omega
  rw [pieces_ready, hb, lead_ofNat (by omega), if_neg (by omega), if_neg (by omega),
    if_neg (by omega)]
  -- the ranges after `E0` and `ED` keep out overlong forms and surrogates
  have hcases : n / 4096 = 0 ∨ n / 4096 = 0xD ∨ n / 4096 ≠ 0 ∧ n / 4096 ≠ 0xD := by omega
  rcases hcases with h | h | ⟨h, h'⟩
  · rw [h] at hm ⊢
    simp only [if_true, List.nil_append]
    rw [pieces_tail (by change 160 ≤ _; omega) (by change _ ≤ 191; omega)]
    simp only [hm, pieces_anyTail, hn]
  · rw [h] at hm ⊢
    rw [if_neg (by omega), if_pos (by omega), List.nil_append,
      pieces_tail (by change 128 ≤ _; omega) (by change _ ≤ 159; omega)]
    simp only [hm, pieces_anyTail, hn]
  · rw [if_neg (by omega), if_neg (by omega), if_pos (by omega)]
    simp only [List.nil_append, pieces_anyTail, Nat.add_sub_cancel, hm, hn]

lemma pieces_four {n : Nat} (h1 : 0xFFFF < n) (h2 : n < 0x110000) (rest : Bytes) :
    pieces .ready (UInt8.ofNat (n / 262144 % 0x08 + 0xF0) :: UInt8.ofNat (n / 4096 % 0x40 + 0x80)
        :: UInt8.ofNat (n / 64 % 0x40 + 0x80) :: UInt8.ofNat (n % 0x40 + 0x80) :: rest) =
      some (Char.ofNat n) :: pieces .ready rest := by
  have hb : n / 262144 % 0x08 + 0xF0 = n / 262144 + 0xF0 := by omega
  have hk : n / 262144 * 64 + n / 4096 % 64 = n / 4096 := by omega
  have hm : n / 4096 * 64 + n / 64 % 64 = n / 64 := by omega
  have hn : n / 64 * 64 + n % 64 = n := by omega
  rw [pieces_ready, hb, lead_ofNat (by omega), if_neg (by omega), if_neg (by omega),
    if_neg (by omega), if_neg (by omega), if_neg (by omega), if_neg (by omega)]
  -- the ranges after `F0` and `F4` keep out overlong forms and what is above the last plane
  have hcases : n / 262144 = 0 ∨ n / 262144 = 4 ∨ n / 262144 ≠ 0 ∧ n / 262144 < 4 := by omega
  rcases hcases with h | h | ⟨h, h'⟩
  · rw [h] at hk ⊢
    simp only [if_true, List.nil_append]
    rw [pieces_tail (by change 144 ≤ _; omega) (by change _ ≤ 191; omega)]
    simp only [hk, pieces_anyTail, hm, hn]
  · rw [h] at hk ⊢
    rw [if_neg (by omega), if_neg (by omega), if_pos (by omega), List.nil_append,
      pieces_tail (by change 128 ≤ _; omega) (by change _ ≤ 143; omega)]
    simp only [hk, pieces_anyTail, hm, hn]
  · rw [if_neg (by omega), if_pos (by omega)]
    simp only [List.nil_append, pieces_anyTail, Nat.add_sub_cancel, hk, hm, hn]

/-- **One character**: its bytes are one piece, and the decoder is ready again behind them. -/
theorem pieces_encodeChar (c : Char) (rest : Bytes) :
    pieces .ready (String.utf8EncodeChar c ++ rest) = some c :: pieces .ready rest := by
  have hc := scalar c
  have hv : c.val.toNat = c.toNat := rfl
  have hof : some c = some (Char.ofNat c.toNat) := by rw [Char.ofNat_toNat]
  unfold String.utf8EncodeChar
  rw [hof]
  simp only [hv]
  split_ifs with h1 h2 h3
  · rw [List.singleton_append, pieces_ready, lead_ofNat (by omega), if_pos (by omega)]
    rfl
  · exact pieces_two (by omega) h2 rest
  · exact pieces_three (by omega) h3 (by omega) rest
  · exact pieces_four (by omega) (by omega) rest

lemma pieces_encode (text : List Char) : pieces .ready (encode text) = text.map some := by
  induction text with
  | nil => rfl
  | cons c text ih =>
    have : encode (c :: text) = String.utf8EncodeChar c ++ encode text := rfl
    rw [this, pieces_encodeChar, ih, List.map_cons]

lemma mapM_id_map_some (text : List Char) : (text.map some).mapM id = some text := by
  induction text with
  | nil => rfl
  | cons c text ih =>
    rw [List.map_cons, List.mapM_cons, ih]
    rfl

theorem decode?_encode (text : List Char) : decode? (encode text) = some text := by
  rw [decode?, pieces_encode, mapM_id_map_some]

/-! ### Back to the bytes -/

lemma toNat_ofNat_of_scalar {n : Nat} (h : n < 0xD800 ∨ 0xE000 ≤ n ∧ n < 0x110000) :
    (Char.ofNat n).val.toNat = n := by
  have hv : n.isValidChar := h.imp id fun h => ⟨by omega, h.2⟩
  rw [Char.ofNat, dif_pos hv]
  rfl

lemma encodeChar_ofNat {n : Nat} (h : n < 0xD800 ∨ 0xE000 ≤ n ∧ n < 0x110000) :
    String.utf8EncodeChar (Char.ofNat n) =
      if n ≤ 0x7F then [UInt8.ofNat n]
      else if n ≤ 0x7FF then [UInt8.ofNat (n / 64 % 0x20 + 0xC0), UInt8.ofNat (n % 0x40 + 0x80)]
      else if n ≤ 0xFFFF then [UInt8.ofNat (n / 4096 % 0x10 + 0xE0),
        UInt8.ofNat (n / 64 % 0x40 + 0x80), UInt8.ofNat (n % 0x40 + 0x80)]
      else [UInt8.ofNat (n / 262144 % 0x08 + 0xF0), UInt8.ofNat (n / 4096 % 0x40 + 0x80),
        UInt8.ofNat (n / 64 % 0x40 + 0x80), UInt8.ofNat (n % 0x40 + 0x80)] := by
  unfold String.utf8EncodeChar
  simp only [toNat_ofNat_of_scalar h]

/-- What follows the start of a character has to begin with a byte in the range. -/
lemma exists_of_pieces_within {value more : Nat} {low high : UInt8} {bytes : Bytes}
    {text : List Char} (h : pieces (.within value low high more) bytes = text.map some) :
    ∃ b rest, bytes = b :: rest ∧ low ≤ b ∧ b ≤ high := by
  have hnone : none ∉ pieces (.within value low high more) bytes := by simp [h]
  cases bytes with
  | nil => exact absurd (by simp [pieces, State.flush]) hnone
  | cons b rest =>
    by_cases hb : low ≤ b ∧ b ≤ high
    · exact ⟨b, rest, rfl, hb⟩
    · exact absurd (by simp [pieces, feed, hb]) hnone

/-- What the first byte of a character of several bytes says: the start of its value, how many
bytes follow, and a range for the next of them that keeps out what is no character. -/
inductive Leads (b : UInt8) : Nat → UInt8 → UInt8 → Nat → Prop
  | two {value : Nat} (hb : b.toNat = value + 0xC0) (hv : 2 ≤ value ∧ value < 32) :
    Leads b value 0x80 0xBF 0
  | three {value : Nat} {low high : UInt8} (hb : b.toNat = value + 0xE0) (hv : value < 16)
    (hr : 0x80 ≤ low.toNat ∧ high.toNat ≤ 0xBF) (h₀ : value = 0 → 0xA0 ≤ low.toNat)
    (h₁ : value = 0xD → high.toNat ≤ 0x9F) : Leads b value low high 1
  | four {value : Nat} {low high : UInt8} (hb : b.toNat = value + 0xF0) (hv : value ≤ 4)
    (hr : 0x80 ≤ low.toNat ∧ high.toNat ≤ 0xBF) (h₀ : value = 0 → 0x90 ≤ low.toNat)
    (h₁ : value = 4 → high.toNat ≤ 0x8F) : Leads b value low high 2

lemma lead_cases (b : UInt8) :
    (b.toNat < 0x80 ∧ lead b = ([some (Char.ofNat b.toNat)], .ready)) ∨ lead b = ([none], .ready) ∨
      ∃ value low high more, lead b = ([], .within value low high more) ∧
        Leads b value low high more := by
  have hb : b.toNat < 256 := b.toNat_lt
  have hlead := lead_ofNat hb
  rw [UInt8.ofNat_toNat] at hlead
  by_cases h₁ : b.toNat < 0x80
  · exact .inl ⟨h₁, by rw [hlead, if_pos h₁]⟩
  rw [if_neg h₁] at hlead
  by_cases h₂ : b.toNat < 0xC2
  · exact .inr (.inl (by rw [hlead, if_pos h₂]))
  rw [if_neg h₂] at hlead
  by_cases h₃ : b.toNat < 0xE0
  · rw [if_pos h₃] at hlead
    exact .inr (.inr ⟨_, _, _, _, hlead, .two (by omega) (by omega)⟩)
  rw [if_neg h₃] at hlead
  by_cases h₄ : b.toNat = 0xE0
  · rw [if_pos h₄] at hlead
    exact .inr (.inr ⟨_, _, _, _, hlead,
      .three (by omega) (by omega) (by decide) (by decide) (by decide)⟩)
  rw [if_neg h₄] at hlead
  by_cases h₅ : b.toNat = 0xED
  · rw [if_pos h₅] at hlead
    exact .inr (.inr ⟨_, _, _, _, hlead,
      .three (by omega) (by omega) (by decide) (by decide) (by decide)⟩)
  rw [if_neg h₅] at hlead
  by_cases h₆ : b.toNat < 0xF0
  · rw [if_pos h₆] at hlead
    exact .inr (.inr ⟨_, _, _, _, hlead,
      .three (by omega) (by omega) (by decide) (by omega) (by omega)⟩)
  rw [if_neg h₆] at hlead
  by_cases h₇ : b.toNat = 0xF0
  · rw [if_pos h₇] at hlead
    exact .inr (.inr ⟨_, _, _, _, hlead,
      .four (by omega) (by omega) (by decide) (by decide) (by decide)⟩)
  rw [if_neg h₇] at hlead
  by_cases h₈ : b.toNat < 0xF4
  · rw [if_pos h₈] at hlead
    exact .inr (.inr ⟨_, _, _, _, hlead,
      .four (by omega) (by omega) (by decide) (by omega) (by omega)⟩)
  rw [if_neg h₈] at hlead
  by_cases h₉ : b.toNat = 0xF4
  · rw [if_pos h₉] at hlead
    exact .inr (.inr ⟨_, _, _, _, hlead,
      .four (by omega) (by omega) (by decide) (by decide) (by decide)⟩)
  rw [if_neg h₉] at hlead
  exact .inr (.inl hlead)

lemma ofNat_eq_of {n : Nat} {b : UInt8} (h : n = b.toNat) : UInt8.ofNat n = b := by
  rw [h, UInt8.ofNat_toNat]

/-- The bytes of a character's several come back from the character. -/
lemma exists_of_leads {b : UInt8} {value more : Nat} {low high : UInt8} {bytes : Bytes}
    {text : List Char} (hlead : Leads b value low high more)
    (h : pieces (.within value low high more) bytes = text.map some) :
    ∃ c rest, b :: bytes = String.utf8EncodeChar c ++ rest ∧
      text.map some = some c :: pieces .ready rest := by
  cases hlead with
  | two hb hv =>
    obtain ⟨t, rest, rfl, ht, ht'⟩ := exists_of_pieces_within h
    simp only [pieces_within ht ht'] at h
    simp only [UInt8.le_iff_toNat_le, UInt8.reduceToNat] at ht ht'
    refine ⟨_, rest, ?_, h.symm⟩
    rw [encodeChar_ofNat (by omega), if_neg (by omega), if_pos (by omega),
      ofNat_eq_of (b := b) (by omega), ofNat_eq_of (b := t) (by omega)]
    rfl
  | three hb hv hr h₀ h₁ =>
    obtain ⟨t, bytes, rfl, ht, ht'⟩ := exists_of_pieces_within h
    simp only [pieces_within ht ht'] at h
    obtain ⟨u, rest, rfl, hu, hu'⟩ := exists_of_pieces_within h
    simp only [pieces_within hu hu'] at h
    simp only [UInt8.le_iff_toNat_le, UInt8.reduceToNat] at ht ht' hu hu'
    refine ⟨_, rest, ?_, h.symm⟩
    rw [encodeChar_ofNat (by omega), if_neg (by omega), if_neg (by omega), if_pos (by omega),
      ofNat_eq_of (b := b) (by omega), ofNat_eq_of (b := t) (by omega),
      ofNat_eq_of (b := u) (by omega)]
    rfl
  | four hb hv hr h₀ h₁ =>
    obtain ⟨t, bytes, rfl, ht, ht'⟩ := exists_of_pieces_within h
    simp only [pieces_within ht ht'] at h
    obtain ⟨u, bytes, rfl, hu, hu'⟩ := exists_of_pieces_within h
    simp only [pieces_within hu hu'] at h
    obtain ⟨w, rest, rfl, hw, hw'⟩ := exists_of_pieces_within h
    simp only [pieces_within hw hw'] at h
    simp only [UInt8.le_iff_toNat_le, UInt8.reduceToNat] at ht ht' hu hu' hw hw'
    refine ⟨_, rest, ?_, h.symm⟩
    rw [encodeChar_ofNat (by omega), if_neg (by omega), if_neg (by omega), if_neg (by omega),
      ofNat_eq_of (b := b) (by omega), ofNat_eq_of (b := t) (by omega),
      ofNat_eq_of (b := u) (by omega), ofNat_eq_of (b := w) (by omega)]
    rfl

lemma eq_map_some_of_mapM_id {pieces : List (Option Char)} {text : List Char}
    (h : pieces.mapM id = some text) : pieces = text.map some := by
  induction pieces generalizing text with
  | nil =>
    cases h
    rfl
  | cons piece rest ih =>
    rw [List.mapM_cons] at h
    obtain ⟨c, hc, h⟩ := Option.bind_eq_some_iff.mp h
    obtain ⟨text', htext', h⟩ := Option.bind_eq_some_iff.mp h
    cases h
    rw [show piece = some c from hc, ih htext', List.map_cons]

/-- **Bytes that decode** are the bytes of what they decode to. -/
theorem eq_encode_of_pieces {bytes : Bytes} {text : List Char}
    (h : pieces .ready bytes = text.map some) : bytes = encode text := by
  -- on the length, as a character takes up to four bytes at once
  induction hn : bytes.length using Nat.strongRecOn generalizing bytes text with
  | _ n ih =>
  subst hn
  cases bytes with
  | nil =>
    cases text with
    | nil => rfl
    | cons c text => simp [pieces, State.flush] at h
  | cons b bytes =>
    suffices ∃ c rest, b :: bytes = String.utf8EncodeChar c ++ rest ∧
        text.map some = some c :: pieces .ready rest by
      obtain ⟨c, rest, hbytes, htext⟩ := this
      obtain ⟨c', text, rfl, hc, hrest⟩ := List.map_eq_cons_iff.mp htext
      obtain rfl := Option.some.inj hc
      have hlt : rest.length < (b :: bytes).length := by
        rw [hbytes, List.length_append]
        have := String.utf8EncodeChar_ne_nil (c := c')
        have := List.length_pos_iff.mpr this
        omega
      rw [hbytes, ih rest.length hlt hrest.symm rfl]
      rfl
    rw [pieces_ready] at h
    rcases lead_cases b with ⟨hb, hlead⟩ | hlead | ⟨value, low, high, more, hlead, hb⟩
    · rw [hlead] at h
      refine ⟨_, bytes, ?_, h.symm⟩
      rw [encodeChar_ofNat (by omega), if_pos (by omega), UInt8.ofNat_toNat]
      rfl
    · -- a byte that starts nothing would leave a mark in the text
      have hnone : none ∉ text.map some := by simp
      rw [← h, hlead] at hnone
      simp at hnone
    · rw [hlead] at h
      exact exists_of_leads hb h

end StaticHost.Utf8

namespace StaticHost

/-- **A text's bytes are that text.** -/
theorem Bytes.toString?_ofString (s : String) : Bytes.toString? (Bytes.ofString s) = some s := by
  rw [Bytes.toString?, Bytes.ofString, Utf8.decode?_encode, Option.map_some, String.ofList_toList]

lemma Bytes.ofString_append (a b : String) :
    Bytes.ofString (a ++ b) = Bytes.ofString a ++ Bytes.ofString b := by
  simp only [Bytes.ofString, String.toList_append, Utf8.encode, List.flatMap_append]

/-- **A text's bytes are shown as that text.** -/
theorem Bytes.show_ofString (s : String) : Bytes.show (Bytes.ofString s) = s := by
  have htext : (s.toList.map some).map (·.getD Utf8.replacement) = s.toList := by
    rw [List.map_map]
    exact List.map_id _
  rw [Bytes.show, Bytes.ofString, Utf8.decodeLossy, Utf8.pieces_encode, htext, String.ofList_toList]

lemma Bytes.ofString_inj {s s' : String} (h : Bytes.ofString s = Bytes.ofString s') : s = s' := by
  have hs := congrArg Bytes.toString? h
  rw [Bytes.toString?_ofString, Bytes.toString?_ofString] at hs
  exact Option.some.inj hs

/-- **Bytes are a text** if they are the bytes of that text. -/
theorem Bytes.toString?_eq_some_iff {b : Bytes} {s : String} :
    Bytes.toString? b = some s ↔ b = Bytes.ofString s := by
  refine ⟨fun h => ?_, fun h => by rw [h, Bytes.toString?_ofString]⟩
  obtain ⟨text, htext, rfl⟩ := Option.map_eq_some_iff.mp h
  rw [Bytes.ofString, String.toList_ofList]
  exact Utf8.eq_encode_of_pieces (Utf8.eq_map_some_of_mapM_id htext)

end StaticHost
