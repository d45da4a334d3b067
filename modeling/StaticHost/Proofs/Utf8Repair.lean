import StaticHost.Proofs.Utf8

/-!
What becomes of bytes that are not all text.

A character's sequence has the shape of UTF-8, no shorter shape for its number, and a number that
is no surrogate and not above the last. Bytes are well-formed if they are such sequences one after
another. In other bytes there are places where no sequence stands: what is broken there is the
longest start of a sequence, or else a single byte, and it is replaced as a whole. Lossy decoding
does exactly that, and a well-formed part comes through it whatever stands around it.
-/

namespace StaticHost.Utf8

/-! ### Sequences -/

/-- A byte that follows the first of its sequence, and the six bits it adds. -/
def IsTail (b : UInt8) (y : Nat) : Prop :=
  b.toNat = 0x80 + y ∧ y < 0x40

/-- Bytes in the shape of UTF-8, and the number whose bits they hold: the first byte says how many
follow. -/
inductive Shape : Bytes → Nat → Prop
  | one {a : UInt8} {x : Nat} (ha : a.toNat = x) (hx : x < 0x80) : Shape [a] x
  | two {a b : UInt8} {x y : Nat} (ha : a.toNat = 0xC0 + x) (hx : x < 0x20) (hb : IsTail b y) :
      Shape [a, b] (x * 0x40 + y)
  | three {a b c : UInt8} {x y z : Nat} (ha : a.toNat = 0xE0 + x) (hx : x < 0x10)
      (hb : IsTail b y) (hc : IsTail c z) : Shape [a, b, c] (x * 0x1000 + y * 0x40 + z)
  | four {a b c d : UInt8} {x y z w : Nat} (ha : a.toNat = 0xF0 + x) (hx : x < 0x08)
      (hb : IsTail b y) (hc : IsTail c z) (hd : IsTail d w) :
      Shape [a, b, c, d] (x * 0x40000 + y * 0x1000 + z * 0x40 + w)

/-- The well-formed sequence of a number: not overlong, no surrogate and not above U+10FFFF. -/
structure IsSequence (seq : Bytes) (n : Nat) : Prop where
  shape : Shape seq n
  shortest : ∀ seq', Shape seq' n → seq.length ≤ seq'.length
  not_surrogate : ¬ (0xD800 ≤ n ∧ n ≤ 0xDFFF)
  le_last : n ≤ 0x10FFFF

inductive WellFormed : Bytes → Prop
  | nil : WellFormed []
  | cons {seq bytes : Bytes} {n : Nat} (h : IsSequence seq n) (hs : WellFormed bytes) :
      WellFormed (seq ++ bytes)

lemma isTail_ofNat {y : Nat} (h : y < 0x40) : IsTail (UInt8.ofNat (y + 0x80)) y :=
  ⟨by rw [UInt8.toNat_ofNat_of_lt' (by change _ < 256; omega)]; omega, h⟩

lemma toNat_lead {x base : Nat} (h : x + base < 256) :
    (UInt8.ofNat (x + base)).toNat = base + x := by
  rw [UInt8.toNat_ofNat_of_lt' h]
  omega

lemma shape_one {n : Nat} (h : n < 0x80) : Shape [UInt8.ofNat n] n :=
  .one (UInt8.toNat_ofNat_of_lt' (by change _ < 256; omega)) h

lemma shape_two {n : Nat} (h : n < 0x800) :
    Shape [UInt8.ofNat (n / 64 + 0xC0), UInt8.ofNat (n % 64 + 0x80)] n := by
  have hn : n = n / 64 * 0x40 + n % 64 := by omega
  have hshape := Shape.two (toNat_lead (show n / 64 + 0xC0 < 256 by omega)) (by omega)
    (isTail_ofNat (show n % 64 < 0x40 by omega))
  rwa [← hn] at hshape

lemma shape_three {n : Nat} (h : n < 0x10000) :
    Shape [UInt8.ofNat (n / 4096 + 0xE0), UInt8.ofNat (n / 64 % 64 + 0x80),
      UInt8.ofNat (n % 64 + 0x80)] n := by
  have hn : n = n / 4096 * 0x1000 + n / 64 % 64 * 0x40 + n % 64 := by omega
  have hshape := Shape.three (toNat_lead (show n / 4096 + 0xE0 < 256 by omega)) (by omega)
    (isTail_ofNat (show n / 64 % 64 < 0x40 by omega)) (isTail_ofNat (show n % 64 < 0x40 by omega))
  rwa [← hn] at hshape

lemma shape_four {n : Nat} (h : n < 0x200000) :
    Shape [UInt8.ofNat (n / 262144 + 0xF0), UInt8.ofNat (n / 4096 % 64 + 0x80),
      UInt8.ofNat (n / 64 % 64 + 0x80), UInt8.ofNat (n % 64 + 0x80)] n := by
  have hn : n = n / 262144 * 0x40000 + n / 4096 % 64 * 0x1000 + n / 64 % 64 * 0x40 + n % 64 := by
    omega
  have hshape := Shape.four (toNat_lead (show n / 262144 + 0xF0 < 256 by omega)) (by omega)
    (isTail_ofNat (show n / 4096 % 64 < 0x40 by omega))
    (isTail_ofNat (show n / 64 % 64 < 0x40 by omega)) (isTail_ofNat (show n % 64 < 0x40 by omega))
  rwa [← hn] at hshape

/-- How large a number can be, by the length of its shape. -/
lemma Shape.bound {seq : Bytes} {n : Nat} (h : Shape seq n) :
    (seq.length = 1 ∧ n < 0x80) ∨ (seq.length = 2 ∧ n < 0x800) ∨ (seq.length = 3 ∧ n < 0x10000) ∨
      seq.length = 4 := by
  cases h with
  | one ha hx => exact .inl ⟨rfl, hx⟩
  | two ha hx hb => exact .inr (.inl ⟨rfl, by have := hb.2; omega⟩)
  | three ha hx hb hc =>
    exact .inr (.inr (.inl ⟨rfl, by have := hb.2; have := hc.2; omega⟩))
  | four => exact .inr (.inr (.inr rfl))

/-- A sequence is the encoding of the character that has its number. -/
lemma IsSequence.eq_encodeChar {seq : Bytes} {n : Nat} (h : IsSequence seq n) :
    (Char.ofNat n).toNat = n ∧ seq = String.utf8EncodeChar (Char.ofNat n) := by
  obtain ⟨hshape, hshort, hsurrogate, hlast⟩ := h
  have hscalar : n < 0xD800 ∨ 0xE000 ≤ n ∧ n < 0x110000 := by omega
  refine ⟨toNat_ofNat_of_scalar hscalar, ?_⟩
  rw [encodeChar_ofNat hscalar]
  -- nothing shorter has the shape, so the number is large enough for its length
  cases hshape with
  | one ha hx => rw [if_pos (by omega), ofNat_eq_of ha.symm]
  | @two a b x y ha hx hb =>
    have hlow : 0x80 ≤ _ := Nat.le_of_not_lt fun h => absurd (hshort _ (shape_one h)) (by simp)
    obtain ⟨hb, hy⟩ := hb
    rw [if_neg (by omega), if_pos (by omega), ofNat_eq_of (b := a) (by omega),
      ofNat_eq_of (b := b) (by omega)]
  | @three a b c x y z ha hx hb hc =>
    have hlow : 0x800 ≤ _ := Nat.le_of_not_lt fun h => absurd (hshort _ (shape_two h)) (by simp)
    obtain ⟨hb, hy⟩ := hb
    obtain ⟨hc, hz⟩ := hc
    rw [if_neg (by omega), if_neg (by omega), if_pos (by omega), ofNat_eq_of (b := a) (by omega),
      ofNat_eq_of (b := b) (by omega), ofNat_eq_of (b := c) (by omega)]
  | @four a b c d x y z w ha hx hb hc hd =>
    have hlow : 0x10000 ≤ _ :=
      Nat.le_of_not_lt fun h => absurd (hshort _ (shape_three h)) (by simp)
    obtain ⟨hb, hy⟩ := hb
    obtain ⟨hc, hz⟩ := hc
    obtain ⟨hd, hw⟩ := hd
    rw [if_neg (by omega), if_neg (by omega), if_neg (by omega), ofNat_eq_of (b := a) (by omega),
      ofNat_eq_of (b := b) (by omega), ofNat_eq_of (b := c) (by omega),
      ofNat_eq_of (b := d) (by omega)]

/-- The encoding of a character has the shape for its number, and nothing shorter has. -/
lemma shape_encodeChar (c : Char) :
    Shape (String.utf8EncodeChar c) c.toNat ∧
      ∀ seq, Shape seq c.toNat → (String.utf8EncodeChar c).length ≤ seq.length := by
  have hscalar := scalar c
  have hencode := encodeChar_ofNat hscalar
  rw [Char.ofNat_toNat] at hencode
  rw [hencode]
  constructor
  · split_ifs with h₁ h₂ h₃
    · exact shape_one (by omega)
    · rw [show c.toNat / 64 % 0x20 = c.toNat / 64 by omega]
      exact shape_two (by omega)
    · rw [show c.toNat / 4096 % 0x10 = c.toNat / 4096 by omega]
      exact shape_three (by omega)
    · rw [show c.toNat / 262144 % 0x08 = c.toNat / 262144 by omega]
      exact shape_four (by omega)
  · intro seq h
    have hbound := h.bound
    split_ifs
    all_goals
      simp only [List.length_cons, List.length_nil]
      omega

/-- **A sequence is a character's encoding**, and there are no others. -/
theorem isSequence_iff {seq : Bytes} {n : Nat} :
    IsSequence seq n ↔ ∃ c : Char, c.toNat = n ∧ seq = String.utf8EncodeChar c := by
  constructor
  · exact fun h => ⟨Char.ofNat n, h.eq_encodeChar⟩
  · rintro ⟨c, rfl, rfl⟩
    have hscalar := scalar c
    exact ⟨(shape_encodeChar c).1, (shape_encodeChar c).2, by omega, by omega⟩

lemma isSequence_encodeChar (c : Char) : IsSequence (String.utf8EncodeChar c) c.toNat :=
  isSequence_iff.mpr ⟨c, rfl, rfl⟩

/-- **Well-formed bytes** are the bytes of a text. -/
theorem wellFormed_iff {bytes : Bytes} : WellFormed bytes ↔ ∃ text, bytes = encode text := by
  constructor
  · intro h
    induction h with
    | nil => exact ⟨[], rfl⟩
    | cons h _ ih =>
      obtain ⟨c, -, rfl⟩ := isSequence_iff.mp h
      obtain ⟨text, rfl⟩ := ih
      exact ⟨c :: text, rfl⟩
  · rintro ⟨text, rfl⟩
    induction text with
    | nil => exact .nil
    | cons c text ih => exact .cons (isSequence_encodeChar c) ih

/-! ### Feeding several bytes -/

/-- What bytes complete from a state, and the state after them. -/
def feedAll (s : State) : Bytes → List (Option Char) × State
  | [] => ([], s)
  | b :: rest => ((feed s b).1 ++ (feedAll (feed s b).2 rest).1, (feedAll (feed s b).2 rest).2)

lemma pieces_append (s : State) (x y : Bytes) :
    pieces s (x ++ y) = (feedAll s x).1 ++ pieces (feedAll s x).2 y := by
  induction x generalizing s with
  | nil => rfl
  | cons b x ih => rw [List.cons_append, pieces, ih, feedAll, List.append_assoc]

lemma feedAll_snoc (s : State) (x : Bytes) (b : UInt8) :
    feedAll s (x ++ [b]) =
      ((feedAll s x).1 ++ (feed (feedAll s x).2 b).1, (feed (feedAll s x).2 b).2) := by
  induction x generalizing s with
  | nil => simp [feedAll]
  | cons a x ih => simp [feedAll, ih]

lemma pieces_eq (s : State) (x : Bytes) :
    pieces s x = (feedAll s x).1 ++ (feedAll s x).2.flush := by
  have h := pieces_append s x []
  rwa [List.append_nil] at h

/-- A state asks for tails only, and for some of them. -/
def State.Sound : State → Prop
  | .ready => True
  | .within _ low high _ => 0x80 ≤ low ∧ low ≤ high ∧ high ≤ 0xBF

instance (s : State) : Decidable s.Sound :=
  match s with
  | .ready => inferInstanceAs (Decidable True)
  | .within _ _ _ _ => inferInstanceAs (Decidable (_ ∧ _ ∧ _))

lemma sound_lead (b : UInt8) : (lead b).2.Sound := by
  have hall : ∀ n < 256, (lead (UInt8.ofNat n)).2.Sound := by decide +kernel
  have hb := hall b.toNat b.toNat_lt
  rwa [UInt8.ofNat_toNat] at hb

lemma sound_feed {s : State} (b : UInt8) : (feed s b).2.Sound := by
  cases s with
  | ready => exact sound_lead b
  | within value low high more =>
    unfold feed
    simp only
    split_ifs with h
    · cases more with
      | zero => trivial
      | succ more => exact ⟨by decide, by decide, by decide⟩
    · exact sound_lead b

/-- A byte that is no tail ends what came before it and starts anew. -/
lemma pieces_of_not_tail {s : State} (hs : s.Sound) {b : UInt8} (hb : b < 0x80 ∨ 0xBF < b)
    (rest : Bytes) : pieces s (b :: rest) = s.flush ++ pieces .ready (b :: rest) := by
  cases s with
  | ready => rfl
  | within value low high more =>
    obtain ⟨hlow, -, hhigh⟩ := hs
    have hout : ¬ (low ≤ b ∧ b ≤ high) := by
      simp only [UInt8.le_iff_toNat_le, UInt8.lt_iff_toNat_lt] at *
      omega
    simp [pieces, feed, hout, State.flush]

/-- A sequence starts with a byte that is no tail. -/
lemma Shape.exists_cons {seq : Bytes} {n : Nat} (h : Shape seq n) :
    ∃ b rest, seq = b :: rest ∧ (b < 0x80 ∨ 0xBF < b) := by
  simp only [UInt8.lt_iff_toNat_lt]
  cases h with
  | one ha hx => exact ⟨_, _, rfl, .inl (by rw [ha]; exact hx)⟩
  | two ha hx hb => exact ⟨_, _, rfl, .inr (by rw [ha]; change 191 < _; omega)⟩
  | three ha hx hb hc => exact ⟨_, _, rfl, .inr (by rw [ha]; change 191 < _; omega)⟩
  | four ha hx hb hc hd => exact ⟨_, _, rfl, .inr (by rw [ha]; change 191 < _; omega)⟩

lemma sound_ready : State.ready.Sound := trivial

lemma sound_feedAll {s : State} (hs : s.Sound) (x : Bytes) : (feedAll s x).2.Sound := by
  induction x generalizing s with
  | nil => exact hs
  | cons b x ih => exact ih (sound_feed b)

lemma pieces_encode_append (text : List Char) (rest : Bytes) :
    pieces .ready (encode text ++ rest) = text.map some ++ pieces .ready rest := by
  induction text with
  | nil => rfl
  | cons c text ih =>
    have hcons : encode (c :: text) ++ rest =
        String.utf8EncodeChar c ++ (encode text ++ rest) := List.append_assoc ..
    rw [hcons, pieces_encodeChar, ih, List.map_cons, List.cons_append]

/-- **A text among other bytes** is read as that text, and the bytes around it as without it. -/
theorem pieces_around {text : List Char} (h : text ≠ []) (x y : Bytes) :
    pieces .ready (x ++ (encode text ++ y)) =
      pieces .ready x ++ (text.map some ++ pieces .ready y) := by
  obtain ⟨c, text, rfl⟩ := List.exists_cons_of_ne_nil h
  obtain ⟨b, rest, hc, hb⟩ := (isSequence_encodeChar c).shape.exists_cons
  have hcons : encode (c :: text) ++ y = b :: (rest ++ (encode text ++ y)) := by
    change (String.utf8EncodeChar c ++ encode text) ++ y = _
    rw [hc]
    simp
  rw [pieces_append, pieces_eq .ready x, ← pieces_encode_append, hcons,
    pieces_of_not_tail (sound_feedAll sound_ready x) hb, List.append_assoc]

/-! ### Broken sequences -/

/-- The bytes are the start of a sequence that goes on. -/
def IsStart (p : Bytes) : Prop :=
  ∃ q n, q ≠ [] ∧ IsSequence (p ++ q) n

/-- No sequence stands at the front of these bytes. What is broken there, before the rest, is the
longest start of one, or a single byte if there is no start at all. -/
structure Broken (part rest : Bytes) : Prop where
  no_sequence : ∀ seq n, IsSequence seq n → ¬ seq <+: part ++ rest
  ne_nil : part ≠ []
  start_or_single : IsStart part ∨ part.length = 1
  longest : ∀ p, p <+: part ++ rest → IsStart p → p.length ≤ part.length

/-- Bytes and the text they are repaired to: a sequence gives its character, and what is broken
gives the replacement. -/
inductive RepairsTo : Bytes → List Char → Prop
  | nil : RepairsTo [] []
  | sequence {seq bytes : Bytes} {n : Nat} {text : List Char} (h : IsSequence seq n)
      (ht : RepairsTo bytes text) : RepairsTo (seq ++ bytes) (Char.ofNat n :: text)
  | broken {part bytes : Bytes} {text : List Char} (h : Broken part bytes)
      (ht : RepairsTo bytes text) : RepairsTo (part ++ bytes) (replacement :: text)

lemma pieces_sequence {seq : Bytes} {n : Nat} (h : IsSequence seq n) (rest : Bytes) :
    pieces .ready (seq ++ rest) = some (Char.ofNat n) :: pieces .ready rest := by
  obtain ⟨c, rfl, rfl⟩ := isSequence_iff.mp h
  rw [pieces_encodeChar, Char.ofNat_toNat]

/-- Bytes that decode to one character are a sequence. -/
lemma isSequence_of_pieces {bytes : Bytes} {c : Char} (h : pieces .ready bytes = [some c]) :
    IsSequence bytes c.toNat := by
  have hbytes : bytes = encode [c] := eq_encode_of_pieces h
  rw [hbytes, encode, List.flatMap_singleton]
  exact isSequence_encodeChar c

/-- A state inside a character can be brought to its end. -/
lemma exists_completion {value more : Nat} {low high : UInt8}
    (hs : (State.within value low high more).Sound) :
    ∃ q c, q ≠ [] ∧ pieces (.within value low high more) q = [some c] := by
  induction more generalizing value low high with
  | zero =>
    refine ⟨[low], Char.ofNat (value * 64 + low.toNat % 64), by simp, ?_⟩
    rw [pieces_within (UInt8.le_refl low) hs.2.1]
    rfl
  | succ more ih =>
    have htail : (State.within (value * 64 + low.toNat % 64) 0x80 0xBF more).Sound :=
      ⟨by decide, by decide, by decide⟩
    obtain ⟨q, c, -, hq⟩ := ih htail
    refine ⟨low :: q, c, by simp, ?_⟩
    rw [pieces_within (UInt8.le_refl low) hs.2.1]
    exact hq

/-- What does not decode to a character first is broken, if it is the start of a sequence or a
single byte and the byte behind it makes no difference. -/
lemma broken_of_pieces {part rest : Bytes} (hne : part ≠ [])
    (hpart : IsStart part ∨ part.length = 1)
    (hnone : ∃ more, pieces .ready (part ++ rest) = none :: more)
    (hlong : ∀ b tail, rest = b :: tail →
      ∀ q, ∃ more, pieces .ready (part ++ b :: q) = none :: more) :
    Broken part rest where
  no_sequence := by
    rintro seq n hseq ⟨tail, heq⟩
    obtain ⟨more, hmore⟩ := hnone
    rw [← heq, pieces_sequence hseq] at hmore
    cases hmore
  ne_nil := hne
  start_or_single := hpart
  longest := by
    intro p hp ⟨q, n, hq, hseq⟩
    by_contra hlt
    obtain ⟨m, rfl⟩ : part <+: p := by
      refine List.prefix_of_prefix_length_le (List.prefix_append part rest) hp (by omega)
    rw [List.prefix_append_right_inj] at hp
    cases m with
    | nil => simp at hlt
    | cons b m =>
      obtain ⟨tail, rfl⟩ := hp
      obtain ⟨more, hmore⟩ := hlong b (m ++ tail) rfl (m ++ q)
      have hchar := pieces_sequence hseq []
      rw [List.append_nil, List.append_assoc, List.cons_append, hmore] at hchar
      cases hchar

section Within

variable {part : Bytes} {value more : Nat} {low high : UInt8}

/-- The bytes leave the decoder inside a character, with nothing completed. -/
def LeavesOpen (part : Bytes) (value : Nat) (low high : UInt8) (more : Nat) : Prop :=
  part ≠ [] ∧ feedAll .ready part = ([], .within value low high more)

lemma LeavesOpen.pieces (h : LeavesOpen part value low high more) (rest : Bytes) :
    pieces .ready (part ++ rest) = pieces (.within value low high more) rest := by
  rw [pieces_append, h.2, List.nil_append]

lemma LeavesOpen.isStart (h : LeavesOpen part value low high more) : IsStart part := by
  have hsound := sound_feedAll sound_ready part
  rw [h.2] at hsound
  obtain ⟨q, c, hq, hc⟩ := exists_completion hsound
  exact ⟨q, c.toNat, hq, isSequence_of_pieces (by rw [h.pieces, hc])⟩

lemma pieces_outside {b : UInt8} (hb : ¬ (low ≤ b ∧ b ≤ high)) (rest : Bytes) :
    Utf8.pieces (.within value low high more) (b :: rest) =
      none :: Utf8.pieces .ready (b :: rest) := by
  simp [Utf8.pieces, feed, hb]

/-- A character that does not go on is broken where it stops. -/
lemma LeavesOpen.broken (h : LeavesOpen part value low high more) {rest : Bytes}
    (hrest : ∀ b tail, rest = b :: tail → ¬ (low ≤ b ∧ b ≤ high)) :
    Broken part rest ∧ Utf8.pieces .ready (part ++ rest) = none :: Utf8.pieces .ready rest := by
  have hpieces : Utf8.pieces .ready (part ++ rest) = none :: Utf8.pieces .ready rest := by
    rw [h.pieces]
    cases rest with
    | nil => rfl
    | cons b tail => exact pieces_outside (hrest b tail rfl) tail
  refine ⟨broken_of_pieces h.1 (.inl h.isStart) ⟨_, hpieces⟩ fun b tail heq q => ?_, hpieces⟩
  exact ⟨_, by rw [h.pieces, pieces_outside (hrest b tail heq)]⟩

lemma LeavesOpen.snoc (h : LeavesOpen part value low high (more + 1)) {b : UInt8} (hl : low ≤ b)
    (hh : b ≤ high) : LeavesOpen (part ++ [b]) (value * 64 + b.toNat % 64) 0x80 0xBF more := by
  refine ⟨by simp, ?_⟩
  rw [feedAll_snoc, h.2]
  simp [feed, hl, hh]

/-- A character that was begun is finished or broken off. -/
lemma LeavesOpen.cases (h : LeavesOpen part value low high more) (rest : Bytes) :
    (∃ seq n rest', IsSequence seq n ∧ part ++ rest = seq ++ rest') ∨
      ∃ part' rest', part ++ rest = part' ++ rest' ∧ Broken part' rest' ∧
        Utf8.pieces .ready (part ++ rest) = none :: Utf8.pieces .ready rest' := by
  induction rest generalizing part value low high more with
  | nil => exact .inr ⟨part, [], rfl, h.broken (by simp)⟩
  | cons b rest ih =>
    by_cases hb : low ≤ b ∧ b ≤ high
    · cases more with
      | zero =>
        have hpieces : Utf8.pieces .ready (part ++ [b]) =
            [some (Char.ofNat (value * 64 + b.toNat % 64))] := by
          rw [h.pieces, pieces_within hb.1 hb.2]
          rfl
        exact .inl ⟨part ++ [b], _, rest, isSequence_of_pieces hpieces, by simp⟩
      | succ more =>
        have hcases := ih (h.snoc hb.1 hb.2)
        rwa [List.append_assoc, List.singleton_append] at hcases
    · refine .inr ⟨part, b :: rest, rfl, h.broken ?_⟩
      rintro _ _ ⟨⟩
      exact hb

end Within

/-- At the front of bytes stands a sequence, or something broken. -/
lemma front_cases {bytes : Bytes} (h : bytes ≠ []) :
    (∃ seq n rest, IsSequence seq n ∧ bytes = seq ++ rest) ∨
      ∃ part rest, bytes = part ++ rest ∧ Broken part rest ∧
        pieces .ready bytes = none :: pieces .ready rest := by
  obtain ⟨b, bytes, rfl⟩ := List.exists_cons_of_ne_nil h
  rcases lead_cases b with ⟨hb, -⟩ | hlead | ⟨value, low, high, more, hlead, -⟩
  · have hshape := shape_one hb
    rw [UInt8.ofNat_toNat] at hshape
    refine .inl ⟨[b], b.toNat, bytes, ⟨hshape, fun seq' h' => ?_, by omega, by omega⟩, rfl⟩
    have hbound := h'.bound
    rw [List.length_singleton]
    omega
  · have hpieces (q : Bytes) : pieces .ready (b :: q) = none :: pieces .ready q := by
      rw [pieces_ready, hlead]
      rfl
    refine .inr ⟨[b], bytes, rfl, ?_, hpieces bytes⟩
    exact broken_of_pieces (by simp) (.inr rfl) ⟨_, hpieces bytes⟩ fun c tail _ q => ⟨_, hpieces _⟩
  · have hopen : LeavesOpen [b] value low high more := ⟨by simp, by simp [feedAll, feed, hlead]⟩
    exact hopen.cases bytes

/-- What is broken at the front of bytes is determined. -/
lemma Broken.unique {part rest part' rest' : Bytes} (h : Broken part rest)
    (h' : Broken part' rest') (heq : part ++ rest = part' ++ rest') : rest = rest' := by
  have hp : part <+: part' ++ rest' := heq ▸ List.prefix_append part rest
  have hp' : part' <+: part ++ rest := heq ▸ List.prefix_append part' rest'
  have hpos := List.length_pos_iff.mpr h.ne_nil
  have hpos' := List.length_pos_iff.mpr h'.ne_nil
  have hlength : part.length = part'.length := by
    rcases h.start_or_single with hs | hs <;> rcases h'.start_or_single with hs' | hs'
    · exact Nat.le_antisymm (h'.longest part hp hs) (h.longest part' hp' hs')
    · have := h'.longest part hp hs
      omega
    · have := h.longest part' hp' hs'
      omega
    · omega
  exact (List.append_inj heq hlength).2

/-- **Lossy decoding repairs**: it gives the text that the bytes are repaired to, and no other. -/
theorem repairsTo_iff {bytes : Bytes} {text : List Char} :
    RepairsTo bytes text ↔ decodeLossy bytes = text := by
  constructor
  · intro h
    induction h with
    | nil => rfl
    | sequence h _ ih => rw [← ih, decodeLossy, pieces_sequence h]; rfl
    | @broken part bytes text h _ ih =>
      rcases front_cases (show part ++ bytes ≠ [] by simp [h.ne_nil]) with
        ⟨seq, n, rest, hseq, heq⟩ | ⟨part', rest', heq, h', hpieces⟩
      · -- a broken part does not go on to a sequence
        exact absurd ⟨rest, heq.symm⟩ (h.no_sequence seq n hseq)
      · rw [← ih, decodeLossy, hpieces, h.unique h' heq]
        rfl
  · rintro rfl
    -- on the length: what is at the front, a sequence or a broken part, is cut off
    induction hn : bytes.length using Nat.strongRecOn generalizing bytes with
    | _ n ih =>
    subst hn
    by_cases hne : bytes = []
    · subst hne
      exact .nil
    rcases front_cases hne with ⟨seq, n, rest, hseq, rfl⟩ | ⟨part, rest, rfl, h, hpieces⟩
    · have hlt : rest.length < (seq ++ rest).length := by
        obtain ⟨b, tail, rfl, -⟩ := hseq.shape.exists_cons
        simp only [List.length_append, List.length_cons]
        omega
      have hrest := ih rest.length hlt rfl
      rw [decodeLossy, pieces_sequence hseq]
      exact .sequence hseq hrest
    · have hlt : rest.length < (part ++ rest).length := by
        have hpos := List.length_pos_iff.mpr h.ne_nil
        rw [List.length_append]
        omega
      have hrest := ih rest.length hlt rfl
      rw [decodeLossy, hpieces]
      exact .broken h hrest

end StaticHost.Utf8

namespace StaticHost

/-- **Bytes are shown unchanged** if they are well-formed, and only then. -/
theorem Bytes.ofString_show_iff {b : Bytes} : Bytes.ofString b.show = b ↔ Utf8.WellFormed b := by
  rw [Utf8.wellFormed_iff]
  constructor
  · intro h
    exact ⟨b.show.toList, h.symm⟩
  · rintro ⟨text, rfl⟩
    have htext : Utf8.encode text = Bytes.ofString (String.ofList text) := by
      rw [Bytes.ofString, String.toList_ofList]
    rw [htext, Bytes.show_ofString]

lemma Bytes.show_around {s : String} (h : s ≠ "") (x y : Bytes) :
    Bytes.show (x ++ (Bytes.ofString s ++ y)) = Bytes.show x ++ s ++ Bytes.show y := by
  have hlist : s.toList ≠ [] := by simpa using h
  have hmap : (s.toList.map some).map (·.getD Utf8.replacement) = s.toList := by
    rw [List.map_map]
    exact List.map_id _
  apply String.toList_inj.mp
  simp only [Bytes.show, Bytes.ofString, Utf8.decodeLossy, Utf8.pieces_around hlist,
    List.map_append, hmap, String.toList_append, String.toList_ofList, List.append_assoc]

end StaticHost
