import StaticHost.Proofs.JsonScanning

/-!
Passing over a value: what is passed over is a value of the grammar, and every value is passed
over, however deep it is and wherever white space stands.

Passing over is a function, so the second half also says that a text is a value, and what follows
it, in one way only. From that, a list has one reading, and so has an object.
-/

namespace StaticHost.Json

variable {c c' : Cursor} {ws ws' rest rest' : List Char} {offset : Nat}

/-! ### White space -/

lemma Blank.append (h : Blank ws) (h' : Blank ws') : Blank (ws ++ ws') := by
  intro x hx
  rcases List.mem_append.mp hx with hx | hx
  · exact h x hx
  · exact h' x hx

/-- White space ends where something else starts. -/
lemma Blank.unique (h : Blank ws) (h' : Blank ws') {x x' : Char} (hx : Cursor.isSpace x = false)
    (hx' : Cursor.isSpace x' = false) (heq : ws ++ x :: rest = ws' ++ x' :: rest') :
    x = x' ∧ rest = rest' := by
  have hskip := skipSpace_blank h hx rest 0
  rw [heq, skipSpace_blank h' hx' rest' 0] at hskip
  simp only [Cursor.mk.injEq, List.cons.injEq] at hskip
  exact ⟨hskip.1.1.symm, hskip.1.2.symm⟩

lemma Blank.strip (h : Blank ws) (h' : Blank ws') {v v' : List Char} (hv : Opens v)
    (hv' : Opens v') (heq : ws ++ (v ++ rest) = ws' ++ (v' ++ rest')) :
    v ++ rest = v' ++ rest' := by
  obtain ⟨x, more, rfl, hx, -⟩ := hv
  obtain ⟨x', more', rfl, hx', -⟩ := hv'
  obtain ⟨rfl, hmore⟩ := h.unique h' hx hx' heq
  exact congrArg (x :: ·) hmore

/-! ### Items -/

section Items

variable {α : Type} {Item : α → List Char → Prop} {a : α} {as : List α} {text : List Char}

lemma Items.first (hw : Blank ws) (hw' : Blank ws') (ha : Item a text)
    (h : Items Item false as rest) : Items Item true (a :: as) (ws ++ (ws' ++ (text ++ rest))) := by
  rw [← List.append_assoc]
  exact .cons (hw.append hw') ha h

lemma Items.next (hw : Blank ws) (hw' : Blank ws') (ha : Item a text)
    (h : Items Item false as rest) :
    Items Item false (a :: as) (ws ++ ',' :: (ws' ++ (text ++ rest))) := by
  rw [show ws ++ ',' :: (ws' ++ (text ++ rest)) = (ws ++ ',' :: ws') ++ (text ++ rest) by simp]
  exact .cons ⟨ws, ws', hw, hw', rfl⟩ ha h

end Items

/-! ### What was passed over -/

/-- What a step of passing over has taken, with so much fuel. -/
structure PassesValues (fuel : Nat) : Prop where
  value : ∀ {c c'}, passValueIn fuel c = .ok c' →
    ∃ ws v, Blank ws ∧ IsValue v ∧ c.rest = ws ++ (v ++ c'.rest)
  elements : ∀ {first c c'}, passElements fuel first c = .ok c' →
    ∃ values text, Items Eq first values text ∧ (∀ v ∈ values, IsValue v) ∧
      c.rest = text ++ ']' :: c'.rest
  member : ∀ {c c'}, passMember fuel c = .ok c' →
    ∃ ws m text, Blank ws ∧ IsMember (fun _ : Unit => IsText) m text ∧ IsValue m.2 ∧
      c.rest = ws ++ (text ++ c'.rest)
  members : ∀ {first c c'}, passMembers fuel first c = .ok c' →
    ∃ members text, Items (IsMember fun _ : Unit => IsText) first members text ∧
      (∀ m ∈ members, IsValue m.2) ∧ c.rest = text ++ '\x7d' :: c'.rest

lemma passNumber_sound (h : passNumber c = .ok c') :
    ∃ text, IsNumeral text ∧ c.rest = text ++ c'.rest := by
  obtain ⟨⟨n, c₁⟩, hscan, rfl⟩ := map_eq_ok h
  exact scanNumeral_sound hscan

lemma passColon_sound (h : passColon c = .ok c') :
    ∃ ws, Blank ws ∧ c.rest = ws ++ ':' :: c'.rest := by
  obtain ⟨ws, hw, hrest⟩ := skipSpace_spec c
  unfold passColon at h
  simp only at h
  split at h
  next rest hc =>
    cases h
    exact ⟨ws, hw, by rw [hrest, hc]⟩
  next => cases h
  next => cases h

section Step

variable {fuel : Nat} (ih : PassesValues fuel)

include ih

lemma passValueIn_step (h : passValueIn (fuel + 1) c = .ok c') :
    ∃ ws v, Blank ws ∧ IsValue v ∧ c.rest = ws ++ (v ++ c'.rest) := by
  obtain ⟨ws, hw, hrest⟩ := skipSpace_spec c
  rw [passValueIn] at h
  simp only at h
  rw [hrest]
  split at h
  next => cases h
  next x rest hc =>
    rw [hc]
    split_ifs at h with hn ht hf hq hm hd hl ho
    · exact ⟨ws, _, hw, .null, by rw [hn, passLetters_sound h]; rfl⟩
    · exact ⟨ws, _, hw, .flag .isTrue, by rw [ht, passLetters_sound h]; rfl⟩
    · exact ⟨ws, _, hw, .flag .isFalse, by rw [hf, passLetters_sound h]; rfl⟩
    · obtain ⟨body, hbody, rfl⟩ := passText_sound h
      exact ⟨ws, _, hw, .text hbody, by simp [hq]⟩
    · obtain ⟨text, htext, heq⟩ := passNumber_sound h
      exact ⟨ws, _, hw, .negative htext, by rw [hm, List.cons_append, ← heq]⟩
    · obtain ⟨text, htext, heq⟩ := passNumber_sound h
      exact ⟨ws, _, hw, .numeral htext, by rw [← heq, hc]⟩
    · obtain ⟨values, text, hitems, hvalues, heq⟩ := ih.elements h
      simp only at heq
      exact ⟨ws, _, hw, .list hitems hvalues, by simp [hl, heq]⟩
    · obtain ⟨members, text, hitems, hvalues, heq⟩ := ih.members h
      simp only at heq
      exact ⟨ws, _, hw, .object hitems hvalues, by simp [ho, heq]⟩

lemma passElements_step {first : Bool} (h : passElements (fuel + 1) first c = .ok c') :
    ∃ values text, Items Eq first values text ∧ (∀ v ∈ values, IsValue v) ∧
      c.rest = text ++ ']' :: c'.rest := by
  obtain ⟨ws, hw, hrest⟩ := skipSpace_spec c
  rw [passElements] at h
  simp only at h
  rw [hrest]
  split at h
  next => cases h
  next x rest hc =>
    split_ifs at h with hend hfirst hcomma
    · cases h
      exact ⟨[], ws, .nil hw, by simp, by rw [hc, hend]⟩
    · subst hfirst
      obtain ⟨c₁, hvalue, helements⟩ := bind_eq_ok_iff.mp h
      obtain ⟨ws', v, hw', hv, heq⟩ := ih.value hvalue
      obtain ⟨values, text, hitems, hvalues, heq'⟩ := ih.elements helements
      refine ⟨v :: values, _, .first hw hw' rfl hitems, by simpa [hv] using hvalues, ?_⟩
      simp [heq, heq']
    · obtain ⟨c₁, hvalue, helements⟩ := bind_eq_ok_iff.mp h
      obtain ⟨ws', v, hw', hv, heq⟩ := ih.value hvalue
      obtain ⟨values, text, hitems, hvalues, heq'⟩ := ih.elements helements
      simp only [Bool.not_eq_true] at hfirst
      subst hfirst
      refine ⟨v :: values, _, .next hw hw' rfl hitems, by simpa [hv] using hvalues, ?_⟩
      simp only at heq
      simp [hc, hcomma, heq, heq']

lemma passMember_step (h : passMember (fuel + 1) c = .ok c') :
    ∃ ws m text, Blank ws ∧ IsMember (fun _ : Unit => IsText) m text ∧ IsValue m.2 ∧
      c.rest = ws ++ (text ++ c'.rest) := by
  obtain ⟨ws, hw, hrest⟩ := skipSpace_spec c
  rw [passMember] at h
  rw [hrest]
  split at h
  next => cases h
  next x rest hc =>
    split_ifs at h with hq
    obtain ⟨c₂, hkey, hvalue⟩ := bind_eq_ok_iff.mp h
    obtain ⟨c₁, htext, hcolon⟩ := bind_eq_ok_iff.mp hkey
    obtain ⟨body, hbody, rfl⟩ := passText_sound htext
    obtain ⟨ws₁, hw₁, heq₁⟩ := passColon_sound hcolon
    obtain ⟨ws₂, v, hw₂, hv, heq₂⟩ := ih.value hvalue
    refine ⟨ws, ((), v), _, hw, .mk hbody hw₁ hw₂, hv, ?_⟩
    simp [hc, hq, heq₁, heq₂]

lemma passMembers_step {first : Bool} (h : passMembers (fuel + 1) first c = .ok c') :
    ∃ members text, Items (IsMember fun _ : Unit => IsText) first members text ∧
      (∀ m ∈ members, IsValue m.2) ∧ c.rest = text ++ '\x7d' :: c'.rest := by
  obtain ⟨ws, hw, hrest⟩ := skipSpace_spec c
  rw [passMembers] at h
  rw [hrest]
  split at h
  next => cases h
  next x rest hc =>
    split_ifs at h with hend hfirst hcomma
    · cases h
      exact ⟨[], ws, .nil hw, by simp, by rw [hc, hend]⟩
    · subst hfirst
      obtain ⟨c₁, hmember, hmembers⟩ := bind_eq_ok_iff.mp h
      obtain ⟨ws', m, item, hw', hitem, hv, heq⟩ := ih.member hmember
      obtain ⟨members, text, hitems, hvalues, heq'⟩ := ih.members hmembers
      refine ⟨m :: members, _, .first hw hw' hitem hitems, ?_, by simp [heq, heq']⟩
      exact List.forall_mem_cons.mpr ⟨hv, hvalues⟩
    · obtain ⟨c₁, hmember, hmembers⟩ := bind_eq_ok_iff.mp h
      obtain ⟨ws', m, item, hw', hitem, hv, heq⟩ := ih.member hmember
      obtain ⟨members, text, hitems, hvalues, heq'⟩ := ih.members hmembers
      simp only [Bool.not_eq_true] at hfirst
      subst hfirst
      simp only at heq
      refine ⟨m :: members, _, .next hw hw' hitem hitems, ?_, by simp [hc, hcomma, heq, heq']⟩
      exact List.forall_mem_cons.mpr ⟨hv, hvalues⟩

end Step

lemma passesValues (fuel : Nat) : PassesValues fuel := by
  -- the four readers call each other with less fuel, so they are proved at once
  induction fuel with
  | zero => constructor <;> intros <;> simp_all [passValueIn, passElements, passMember, passMembers]
  | succ fuel ih =>
    exact ⟨passValueIn_step ih, passElements_step ih, passMember_step ih, passMembers_step ih⟩

/-- **What was passed over is a value**, with white space before it. -/
theorem passValue_sound (h : passValue c = .ok c') :
    ∃ ws v, Blank ws ∧ IsValue v ∧ c.rest = ws ++ (v ++ c'.rest) :=
  (passesValues _).value h

/-! ### What is passed over -/

lemma ends_blank (hw : Blank ws) {x : Char} (hx : x = ',' ∨ x = ']' ∨ x = '\x7d') :
    Ends (ws ++ x :: rest) := by
  intro y hy
  cases ws with
  | nil =>
    obtain rfl := Option.some.inj hy
    exact .inr hx
  | cons z ws =>
    obtain rfl := Option.some.inj hy
    exact .inl (hw z (by simp))

/-- Behind an item comes what can end a value. -/
lemma Items.ends {α : Type} {Item : α → List Char → Prop} {as : List α} {text : List Char}
    (h : Items Item false as text) {close : Char} (hclose : close = ']' ∨ close = '\x7d') :
    Ends (text ++ close :: rest) := by
  cases h with
  | nil hw => exact ends_blank hw (.inr hclose)
  | cons hg _ _ =>
    obtain ⟨ws, ws', hw, -, rfl⟩ := hg
    simp only [List.append_assoc, List.cons_append]
    exact ends_blank hw (.inl rfl)

lemma digit_ne {d : Char} (hd : d.isDigit = true) :
    Cursor.isSpace d = false ∧ d ≠ ']' ∧ d ≠ 'n' ∧ d ≠ 't' ∧ d ≠ 'f' ∧ d ≠ '"' ∧ d ≠ '-' := by
  refine ⟨?_, ?_, ?_, ?_, ?_, ?_, ?_⟩
  · by_contra h
    simp only [Cursor.isSpace, Bool.not_eq_false, Bool.or_eq_true, beq_iff_eq] at h
    rcases h with ((rfl | rfl) | rfl) | rfl <;> cases hd
  all_goals
    rintro rfl
    cases hd

lemma IsNumeral.exists_digit {text : List Char} (h : IsNumeral text) :
    ∃ d more, text = d :: more ∧ d.isDigit = true := by
  obtain ⟨⟨⟨hne, hds⟩, -⟩, -, -⟩ := h
  obtain ⟨d, ds, rfl⟩ := List.exists_cons_of_ne_nil hne
  exact ⟨d, _, rfl, hds d (by simp)⟩

lemma IsValue.opens {v : List Char} (h : IsValue v) : Opens v := by
  cases h with
  | null => exact ⟨_, _, rfl, by decide, by decide⟩
  | flag h => cases h <;> exact ⟨_, _, rfl, by decide, by decide⟩
  | text h => exact ⟨_, _, rfl, by decide, by decide⟩
  | numeral h =>
    obtain ⟨d, more, rfl, hd⟩ := h.exists_digit
    exact ⟨_, _, rfl, (digit_ne hd).1, (digit_ne hd).2.1⟩
  | negative h => exact ⟨_, _, rfl, by decide, by decide⟩
  | list h hv => exact ⟨_, _, rfl, by decide, by decide⟩
  | object h hv => exact ⟨_, _, rfl, by decide, by decide⟩

/-- The text is passed over as a value, with fuel for each of its characters. -/
def Passed (v : List Char) : Prop :=
  ∀ fuel ws rest offset, 3 * v.length ≤ fuel + 1 → Blank ws → Ends rest →
    ∃ offset', passValueIn (fuel + 1) ⟨ws ++ (v ++ rest), offset⟩ = .ok ⟨rest, offset'⟩

section Lists

variable {fuel : Nat} {first : Bool}

lemma passElements_end (hw : Blank ws) :
    ∃ offset', passElements (fuel + 1) first ⟨ws ++ ']' :: rest, offset⟩ = .ok ⟨rest, offset'⟩ := by
  refine ⟨offset + ws.length + 1, ?_⟩
  rw [passElements, skipSpace_blank hw (by decide)]
  rfl

lemma passElements_first (hw : Blank ws) {v : List Char} (hv : Opens v) :
    passElements (fuel + 1) true ⟨ws ++ (v ++ rest), offset⟩ =
      (passValueIn fuel ⟨v ++ rest, offset + ws.length⟩).bind (passElements fuel false) := by
  obtain ⟨x, v, rfl, hs, hx⟩ := hv
  rw [passElements, List.cons_append, skipSpace_blank hw hs]
  simp only [if_neg hx, if_true]

lemma passElements_next (hw : Blank ws) :
    passElements (fuel + 1) false ⟨ws ++ ',' :: rest, offset⟩ =
      (passValueIn fuel ⟨rest, offset + ws.length + 1⟩).bind (passElements fuel false) := by
  rw [passElements, skipSpace_blank hw (by decide)]
  rfl

lemma passElements_complete {values : List (List Char)} {text : List Char}
    (h : Items Eq first values text) (hv : ∀ v ∈ values, Opens v ∧ Passed v)
    (hf : 3 * text.length + 1 ≤ fuel) (offset : Nat) :
    ∃ offset', passElements fuel first ⟨text ++ ']' :: rest, offset⟩ = .ok ⟨rest, offset'⟩ := by
  induction h generalizing fuel offset with
  | nil hw =>
    obtain ⟨fuel, rfl⟩ : ∃ n, fuel = n + 1 := ⟨fuel - 1, by omega⟩
    exact passElements_end hw
  | @cons first gap v text a values hg ha h ih =>
    subst ha
    obtain ⟨⟨hopens, hpassed⟩, hvalues⟩ := List.forall_mem_cons.mp hv
    have hpos : 0 < a.length := by
      obtain ⟨x, more, rfl, -⟩ := hopens
      simp
    simp only [List.length_append] at hf
    -- one unit for this step and one for the value that it reads
    obtain ⟨fuel, rfl⟩ : ∃ n, fuel = n + 2 := ⟨fuel - 2, by omega⟩
    have hf' : 3 * text.length + 1 ≤ fuel + 1 := by omega
    cases first with
    | true =>
      obtain ⟨o, ho⟩ := hpassed fuel [] (text ++ ']' :: rest) (offset + gap.length) (by omega)
        blank_nil (h.ends (.inl rfl))
      obtain ⟨o', ho'⟩ := ih hvalues hf' o
      refine ⟨o', ?_⟩
      rw [List.append_assoc, List.append_assoc, passElements_first hg hopens]
      rw [List.nil_append] at ho
      rw [ho]
      exact ho'
    | false =>
      obtain ⟨ws, ws', hw, hw', rfl⟩ := hg
      obtain ⟨o, ho⟩ := hpassed fuel ws' (text ++ ']' :: rest) (offset + ws.length + 1) (by omega)
        hw' (h.ends (.inl rfl))
      obtain ⟨o', ho'⟩ := ih hvalues hf' o
      refine ⟨o', ?_⟩
      rw [show ws ++ ',' :: ws' ++ (a ++ text) ++ ']' :: rest =
          ws ++ ',' :: (ws' ++ (a ++ (text ++ ']' :: rest))) by simp,
        passElements_next hw, ho]
      exact ho'

end Lists

section Objects

variable {fuel : Nat} {first : Bool}

lemma passMembers_end (hw : Blank ws) :
    ∃ offset', passMembers (fuel + 1) first ⟨ws ++ '\x7d' :: rest, offset⟩ =
      .ok ⟨rest, offset'⟩ := by
  refine ⟨offset + ws.length + 1, ?_⟩
  rw [passMembers, skipSpace_blank hw (by decide)]
  rfl

lemma passMembers_first (hw : Blank ws) :
    passMembers (fuel + 1) true ⟨ws ++ '"' :: rest, offset⟩ =
      (passMember fuel ⟨'"' :: rest, offset + ws.length⟩).bind (passMembers fuel false) := by
  rw [passMembers, skipSpace_blank hw (by decide)]
  rfl

lemma passMembers_next (hw : Blank ws) :
    passMembers (fuel + 1) false ⟨ws ++ ',' :: rest, offset⟩ =
      (passMember fuel ⟨rest, offset + ws.length + 1⟩).bind (passMembers fuel false) := by
  rw [passMembers, skipSpace_blank hw (by decide)]
  rfl

lemma passColon_complete (hw : Blank ws) :
    passColon ⟨ws ++ ':' :: rest, offset⟩ = .ok ⟨rest, offset + ws.length + 1⟩ := by
  rw [passColon, skipSpace_blank hw (by decide)]
  rfl

lemma passMember_complete {m : Unit × List Char} {text : List Char}
    (hm : IsMember (fun _ => IsText) m text) (hv : Passed m.2) (hf : 3 * text.length ≤ fuel)
    (hw : Blank ws) (hr : Ends rest) (offset : Nat) :
    ∃ offset', passMember fuel ⟨ws ++ (text ++ rest), offset⟩ = .ok ⟨rest, offset'⟩ := by
  obtain @⟨_, key, ws₁, ws₂, value, hkey, hw₁, hw₂⟩ := hm
  simp only [List.length_cons, List.length_append] at hf
  obtain ⟨fuel, rfl⟩ : ∃ n, fuel = n + 2 := ⟨fuel - 2, by omega⟩
  obtain ⟨o, ho⟩ := passText_complete hkey (ws₁ ++ ':' :: (ws₂ ++ (value ++ rest)))
    (offset + ws.length + 1)
  obtain ⟨o', ho'⟩ := hv fuel ws₂ rest (o + ws₁.length + 1) (by simp only; omega) hw₂ hr
  refine ⟨o', ?_⟩
  rw [show '"' :: (key ++ '"' :: (ws₁ ++ ':' :: (ws₂ ++ value))) ++ rest =
      '"' :: (key ++ '"' :: (ws₁ ++ ':' :: (ws₂ ++ (value ++ rest)))) by simp,
    passMember, skipSpace_blank hw (by decide)]
  simp only [if_true, ho, Except.bind, passColon_complete hw₁]
  exact ho'

lemma passMembers_complete {members : List (Unit × List Char)} {text : List Char}
    (h : Items (IsMember fun _ => IsText) first members text) (hv : ∀ m ∈ members, Passed m.2)
    (hf : 3 * text.length + 1 ≤ fuel) (offset : Nat) :
    ∃ offset', passMembers fuel first ⟨text ++ '\x7d' :: rest, offset⟩ =
      .ok ⟨rest, offset'⟩ := by
  induction h generalizing fuel offset with
  | nil hw =>
    obtain ⟨fuel, rfl⟩ : ∃ n, fuel = n + 1 := ⟨fuel - 1, by omega⟩
    exact passMembers_end hw
  | @cons first gap item text m members hg hm h ih =>
    obtain ⟨fuel, rfl⟩ : ∃ n, fuel = n + 1 := ⟨fuel - 1, by omega⟩
    obtain ⟨hpassed, hmembers⟩ := List.forall_mem_cons.mp hv
    obtain ⟨more, hmore⟩ : ∃ more, item = '"' :: more := by
      cases hm
      exact ⟨_, rfl⟩
    have hpos : 0 < item.length := by simp [hmore]
    simp only [List.length_append] at hf
    have hf' : 3 * text.length + 1 ≤ fuel := by omega
    have hends : Ends (text ++ '\x7d' :: rest) := h.ends (.inr rfl)
    cases first with
    | true =>
      obtain ⟨o, ho⟩ := passMember_complete hm hpassed (show 3 * item.length ≤ fuel by omega)
        blank_nil hends (offset + gap.length)
      obtain ⟨o', ho'⟩ := ih hmembers hf' o
      refine ⟨o', ?_⟩
      rw [List.nil_append, hmore, List.cons_append] at ho
      rw [List.append_assoc, List.append_assoc, hmore, List.cons_append, passMembers_first hg, ho]
      exact ho'
    | false =>
      obtain ⟨ws, ws', hw, hw', rfl⟩ := hg
      obtain ⟨o, ho⟩ := passMember_complete hm hpassed (show 3 * item.length ≤ fuel by omega)
        hw' hends (offset + ws.length + 1)
      obtain ⟨o', ho'⟩ := ih hmembers hf' o
      refine ⟨o', ?_⟩
      rw [show ws ++ ',' :: ws' ++ (item ++ text) ++ '\x7d' :: rest =
          ws ++ ',' :: (ws' ++ (item ++ (text ++ '\x7d' :: rest))) by simp,
        passMembers_next hw, ho]
      exact ho'

end Objects

/-- **Every value is passed over**, by recursion on how it is put together. -/
theorem IsValue.passed {v : List Char} (h : IsValue v) : Passed v := by
  induction h with
  | null =>
    intro fuel ws rest offset _ hw _
    rw [List.cons_append, passValueIn, skipSpace_blank hw (by decide)]
    exact ⟨_, passLetters_self ['u', 'l', 'l'] rest _⟩
  | flag h =>
    intro fuel ws rest offset _ hw _
    cases h with
    | isTrue =>
      rw [List.cons_append, passValueIn, skipSpace_blank hw (by decide)]
      exact ⟨_, passLetters_self ['r', 'u', 'e'] rest _⟩
    | isFalse =>
      rw [List.cons_append, passValueIn, skipSpace_blank hw (by decide)]
      exact ⟨_, passLetters_self ['a', 'l', 's', 'e'] rest _⟩
  | text h =>
    intro fuel ws rest offset _ hw _
    rw [List.cons_append, passValueIn, skipSpace_blank hw (by decide), List.append_assoc]
    exact passText_complete h rest _
  | numeral h =>
    intro fuel ws rest offset _ hw hr
    obtain ⟨n, o, hscan⟩ := scanNumeral_complete h hr .invalidNumber (offset + ws.length)
    obtain ⟨d, more, rfl, hd⟩ := h.exists_digit
    obtain ⟨hs, -, hn, ht, hf, hq, hm⟩ := digit_ne hd
    refine ⟨o, ?_⟩
    rw [List.cons_append] at hscan ⊢
    rw [passValueIn, skipSpace_blank hw hs]
    simp only [if_neg hn, if_neg ht, if_neg hf, if_neg hq, if_neg hm, if_pos hd, passNumber, hscan]
    rfl
  | negative h =>
    intro fuel ws rest offset _ hw hr
    obtain ⟨n, o, hscan⟩ := scanNumeral_complete h hr .invalidNumber (offset + ws.length + 1)
    refine ⟨o, ?_⟩
    rw [List.cons_append, passValueIn, skipSpace_blank hw (by decide)]
    change passNumber _ = _
    rw [passNumber, hscan]
    rfl
  | list h hv ih =>
    intro fuel ws rest offset hf hw _
    simp only [List.length_cons, List.length_append, List.length_nil] at hf
    rw [List.cons_append, passValueIn, skipSpace_blank hw (by decide), List.append_assoc]
    exact passElements_complete h (fun v hmem => ⟨(hv v hmem).opens, ih v hmem⟩) (by omega) _
  | object h hv ih =>
    intro fuel ws rest offset hf hw _
    simp only [List.length_cons, List.length_append, List.length_nil] at hf
    rw [List.cons_append, passValueIn, skipSpace_blank hw (by decide), List.append_assoc]
    exact passMembers_complete h ih (by omega) _

lemma passValue_complete {v : List Char} (h : IsValue v) (hw : Blank ws) (hr : Ends rest)
    (offset : Nat) :
    ∃ offset', passValue ⟨ws ++ (v ++ rest), offset⟩ = .ok ⟨rest, offset'⟩ := by
  refine h.passed _ ws rest offset ?_ hw hr
  simp only [List.length_append]
  omega

/-! ### One reading -/

/-- **A value ends in one place.** -/
theorem IsValue.unique {v v' : List Char} (h : IsValue v) (h' : IsValue v') (hr : Ends rest)
    (hr' : Ends rest') (heq : v ++ rest = v' ++ rest') : v = v' ∧ rest = rest' := by
  obtain ⟨o, ho⟩ := passValue_complete h blank_nil hr 0
  obtain ⟨o', ho'⟩ := passValue_complete h' blank_nil hr' 0
  rw [heq, ho'] at ho
  have hrest : rest' = rest := congrArg Cursor.rest (Except.ok.inj ho)
  subst hrest
  exact ⟨List.append_cancel_right heq, rfl⟩

lemma Spells.unique {body body' cs cs' : List Char} (h : Spells body cs) (h' : Spells body' cs')
    (heq : body ++ '"' :: rest = body' ++ '"' :: rest') : cs = cs' ∧ rest = rest' := by
  obtain ⟨o, ho⟩ := scanText_complete h rest 0
  obtain ⟨o', ho'⟩ := scanText_complete h' rest' 0
  rw [heq, ho'] at ho
  simp only [Except.ok.injEq, Prod.mk.injEq, Cursor.mk.injEq] at ho
  exact ⟨ho.1.symm, ho.2.1.symm⟩

section Items

variable {α : Type} {Item : α → List Char → Prop} {P : α → Prop} {close : Char}

/-- Items are taken off the front of a text in one way, and are then followed by what ends a
value. -/
structure Separates (Item : α → List Char → Prop) (P : α → Prop) (close : Char) : Prop where
  starts : ∀ {a text}, Item a text → P a →
    ∃ x more, text = x :: more ∧ Cursor.isSpace x = false ∧ x ≠ close
  unique : ∀ {a a' text text' rest rest'}, Item a text → P a → Item a' text' → P a' → Ends rest →
    Ends rest' → text ++ rest = text' ++ rest' → a = a' ∧ rest = rest'

/-- The white space and the comma before an item are as long in every reading. -/
lemma Gap.unique {first : Bool} {gap gap' : List Char} {x x' : Char} (h : Gap first gap)
    (h' : Gap first gap') (hx : Cursor.isSpace x = false) (hx' : Cursor.isSpace x' = false)
    (heq : gap ++ x :: rest = gap' ++ x' :: rest') : x :: rest = x' :: rest' := by
  cases first with
  | true =>
    obtain ⟨rfl, rfl⟩ := Blank.unique h h' hx hx' heq
    rfl
  | false =>
    obtain ⟨ws₁, ws₂, hw₁, hw₂, rfl⟩ := h
    obtain ⟨ws₁', ws₂', hw₁', hw₂', rfl⟩ := h'
    simp only [List.append_assoc, List.cons_append] at heq
    obtain ⟨-, heq⟩ := hw₁.unique hw₁' (by decide) (by decide) heq
    obtain ⟨rfl, rfl⟩ := hw₂.unique hw₂' hx hx' heq
    rfl

/-- An item does not start where the list ends. -/
lemma Gap.not_close {first : Bool} {gap : List Char} {x : Char} (h : Gap first gap)
    (hx : Cursor.isSpace x = false) (hne : x ≠ close) (hclose : close = ']' ∨ close = '\x7d')
    (hw : Blank ws) : ws ++ close :: rest ≠ gap ++ x :: rest' := by
  intro heq
  have hs : Cursor.isSpace close = false := by rcases hclose with rfl | rfl <;> decide
  cases first with
  | true => exact hne (hw.unique h hs hx heq).1.symm
  | false =>
    obtain ⟨ws₁, ws₂, hw₁, -, rfl⟩ := h
    rw [List.append_assoc, List.cons_append] at heq
    obtain ⟨rfl, -⟩ := hw.unique hw₁ hs (by decide) heq
    simp at hclose

/-- **Items have one reading.** -/
theorem Items.unique (hs : Separates Item P close) (hclose : close = ']' ∨ close = '\x7d')
    {first : Bool} {as as' : List α} {text text' : List Char} (h : Items Item first as text)
    (hP : ∀ a ∈ as, P a) (h' : Items Item first as' text') (hP' : ∀ a ∈ as', P a)
    (heq : text ++ close :: rest = text' ++ close :: rest') : as = as' := by
  induction h generalizing as' text' with
  | nil hw =>
    -- where one list ends, no item of the other can start
    cases h' with
    | nil => rfl
    | cons hg' ha' h' =>
      obtain ⟨x', more', rfl, hx', hne'⟩ := hs.starts ha' (hP' _ (by simp))
      simp only [List.append_assoc, List.cons_append] at heq
      exact absurd heq (hg'.not_close hx' hne' hclose hw)
  | cons hg ha h ih =>
    obtain ⟨hPa, hPs⟩ := List.forall_mem_cons.mp hP
    obtain ⟨x, more, rfl, hx, hne⟩ := hs.starts ha hPa
    cases h' with
    | nil hw' =>
      simp only [List.append_assoc, List.cons_append] at heq
      exact absurd heq.symm (hg.not_close hx hne hclose hw')
    | cons hg' ha' h' =>
      obtain ⟨hPa', hPs'⟩ := List.forall_mem_cons.mp hP'
      obtain ⟨x', more', rfl, hx', -⟩ := hs.starts ha' hPa'
      simp only [List.append_assoc, List.cons_append] at heq
      have hitems := hg.unique hg' hx hx' heq
      obtain ⟨rfl, hrest⟩ := hs.unique ha hPa ha' hPa' (h.ends hclose) (h'.ends hclose) hitems
      rw [ih hPs h' hPs' hrest]

end Items

lemma separates_values : Separates Eq IsValue ']' where
  starts := by
    rintro _ text rfl hv
    exact hv.opens
  unique := by
    rintro _ _ v v' rest rest' rfl hv rfl hv' hr hr' heq
    exact hv.unique hv' hr hr' heq

lemma separates_members :
    Separates (IsMember fun (s : String) key => Spells key s.toList) (fun m => IsValue m.2)
      '\x7d' where
  starts := by
    rintro _ _ ⟨-, -, -⟩ -
    exact ⟨_, _, rfl, by decide, by decide⟩
  unique := by
    rintro _ _ _ _ rest rest' ⟨hk, hw₁, hw₂⟩ hv ⟨hk', hw₁', hw₂'⟩ hv' hr hr' heq
    simp only [List.cons_append, List.append_assoc, List.cons.injEq, true_and] at heq
    obtain ⟨hkey, heq⟩ := hk.unique hk' heq
    obtain ⟨-, heq⟩ := hw₁.unique hw₁' (by decide) (by decide) heq
    obtain ⟨x, more, hx, hs, -⟩ := hv.opens
    obtain ⟨x', more', hx', hs', -⟩ := hv'.opens
    simp only at hx hx' hv hv'
    subst hx hx'
    obtain ⟨rfl, hmore⟩ := hw₂.unique hw₂' hs hs' heq
    obtain ⟨hvalue, hrest⟩ := hv.unique hv' hr hr' (congrArg (x :: ·) hmore)
    exact ⟨Prod.ext (String.toList_inj.mp hkey) hvalue, hrest⟩

lemma ListOf.opens {values : List (List Char)} {v : List Char} (h : ListOf values v) : Opens v := by
  cases h
  exact ⟨_, _, rfl, by decide, by decide⟩

lemma ObjectOf.opens {members : List (String × List Char)} {v : List Char}
    (h : ObjectOf members v) : Opens v := by
  cases h
  exact ⟨_, _, rfl, by decide, by decide⟩

lemma ListOf.unique {values values' : List (List Char)} {v v' : List Char} (h : ListOf values v)
    (h' : ListOf values' v') (heq : v ++ rest = v' ++ rest') : values = values' := by
  obtain ⟨h, hv⟩ := h
  obtain ⟨h', hv'⟩ := h'
  simp only [List.cons_append, List.append_assoc, List.cons.injEq, true_and, List.nil_append] at heq
  exact Items.unique separates_values (.inl rfl) h hv h' hv' heq

lemma ObjectOf.unique {members members' : List (String × List Char)} {v v' : List Char}
    (h : ObjectOf members v) (h' : ObjectOf members' v') (heq : v ++ rest = v' ++ rest') :
    members = members' := by
  obtain ⟨h, hv⟩ := h
  obtain ⟨h', hv'⟩ := h'
  simp only [List.cons_append, List.append_assoc, List.cons.injEq, true_and, List.nil_append] at heq
  exact Items.unique separates_members (.inr rfl) h hv h' hv' heq

end StaticHost.Json
