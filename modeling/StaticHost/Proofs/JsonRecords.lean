import StaticHost.Proofs.JsonValues

/-!
The texts of records.

A reader accepts a form of texts if what it takes has that form and everything of that form is
taken. Strings and booleans are accepted as the grammar has them. A record accepts the objects
whose members fill its draft, each known one once and the others of any kind, and the lists whose
elements fill it in the order of the fields.
-/

namespace StaticHost.Json

variable {α β δ : Type} {c c' : Cursor} {ws text rest v : List Char} {offset : Nat} {first : Bool}

/-- The reader takes the texts of this form, with their values, and no others. -/
structure Accepts (read : Reader α) (Form : List Char → α → Prop) : Prop where
  sound : ∀ {c a c'}, read c = .ok (a, c') →
    ∃ ws v, Blank ws ∧ Form v a ∧ c.rest = ws ++ (v ++ c'.rest)
  complete : ∀ {v a}, Form v a → Reads read v a

section Accepts

variable {read : Reader α} {Form : List Char → α → Prop}

lemma Accepts.reads_iff (h : Accepts read Form) {a : α} : Reads read v a ↔ Form v a := by
  refine ⟨fun hr => ?_, h.complete⟩
  obtain ⟨o, ho⟩ := hr.takes [] [] 0 blank_nil
  obtain ⟨ws, v', hw, hform, heq⟩ := h.sound ho
  obtain ⟨x, more, rfl, hs, -⟩ := hr.opens
  simp only [List.nil_append, List.append_nil] at heq
  cases ws with
  | nil => rwa [heq]
  | cons y ws =>
    have hy := hw y (by simp)
    rw [List.cons_append, List.cons.injEq] at heq
    rw [← heq.1, hs] at hy
    cases hy

lemma Accepts.map (h : Accepts read Form) (f : α → β) :
    Accepts (fun c => (read c).map fun (x, c) => (f x, c)) fun v b => ∃ a, Form v a ∧ f a = b where
  sound := by
    intro c b c' hread
    obtain ⟨⟨a, c₁⟩, hread, heq⟩ := map_eq_ok hread
    cases heq
    obtain ⟨ws, v, hw, hform, hrest⟩ := h.sound hread
    exact ⟨ws, v, hw, ⟨a, hform, rfl⟩, hrest⟩
  complete := by
    rintro v _ ⟨a, hform, rfl⟩
    exact (h.complete hform).map f

/-- **Whole texts**: one value, with white space around it. -/
theorem Accepts.decode_eq_ok_iff (h : Accepts read Form) {text : String} {a : α} :
    decode read text = .ok a ↔
      ∃ ws v ws', Blank ws ∧ Blank ws' ∧ Form v a ∧ text.toList = ws ++ (v ++ ws') := by
  unfold decode
  constructor
  · intro hdecode
    rcases hread : read ⟨text.toList, 0⟩ with f | ⟨a', c⟩
    · rw [hread] at hdecode
      cases hdecode
    · rw [hread] at hdecode
      obtain ⟨ws, v, hw, hform, hrest⟩ := h.sound hread
      obtain ⟨ws', hw', hrest'⟩ := skipSpace_spec c
      by_cases hempty : c.skipSpace.rest.isEmpty
      · simp only [bind, Except.bind, hempty, if_true] at hdecode
        cases hdecode
        rw [List.isEmpty_iff.mp hempty, List.append_nil] at hrest'
        exact ⟨ws, v, ws', hw, hw', hform, by rw [← hrest', ← hrest]⟩
      · simp only [bind, Except.bind, hempty] at hdecode
        cases hdecode
  · rintro ⟨ws, v, ws', hw, hw', hform, htext⟩
    obtain ⟨o, ho⟩ := (h.complete hform).takes ws ws' 0 hw
    have hskip : (Cursor.skipSpace ⟨ws', o⟩).rest = [] := List.dropWhile_eq_nil_iff.mpr hw'
    rw [htext, ho]
    simp only [bind, Except.bind, hskip]
    rfl

end Accepts

/-! ### Strings and booleans -/

lemma accepts_textAs (expected : String) (accept : String → Except Problem α) :
    Accepts (readTextAs expected accept) fun v a => ∃ s, TextOf v s ∧ accept s = .ok a where
  sound := by
    intro c a c' h
    obtain ⟨ws, hw, hrest⟩ := skipSpace_spec c
    unfold readTextAs at h
    simp only at h
    split at h
    next rest hc =>
      obtain ⟨⟨cs, c₁⟩, hscan, haccept⟩ := bind_eq_ok_iff.mp h
      obtain ⟨body, hbody, rfl⟩ := scanText_sound hscan
      have hspells : Spells body (String.ofList cs).toList := by rwa [String.toList_ofList]
      split at haccept
      next hok =>
        cases haccept
        exact ⟨ws, _, hw, ⟨_, .mk hspells, hok⟩, by simp [hrest, hc]⟩
      next => cases haccept
    next => cases h
  complete := by
    rintro _ a ⟨s, @⟨body, _, hbody⟩, haccept⟩
    refine ⟨⟨'"', body ++ ['"'], rfl, by decide, by decide⟩, fun ws rest offset hw => ?_⟩
    obtain ⟨o, ho⟩ := scanText_complete hbody rest (offset + ws.length + 1)
    refine ⟨o, ?_⟩
    unfold readTextAs
    rw [List.cons_append, List.append_assoc, skipSpace_blank hw (by decide)]
    simp only [List.singleton_append, ho, bind, Except.bind, String.ofList_toList, haccept]
    rfl

lemma accepts_text : Accepts readText TextOf where
  sound h := by
    obtain ⟨ws, v, hw, ⟨s, htext, hs⟩, hrest⟩ := (accepts_textAs _ _).sound h
    cases hs
    exact ⟨ws, v, hw, htext, hrest⟩
  complete h := (accepts_textAs _ _).complete ⟨_, h, rfl⟩

lemma accepts_flag : Accepts readFlag FlagOf where
  sound := by
    intro c b c' h
    obtain ⟨ws, hw, hrest⟩ := skipSpace_spec c
    unfold readFlag at h
    simp only at h
    split at h
    next rest hc =>
      obtain ⟨c₁, hpass, heq⟩ := map_eq_ok h
      cases heq
      exact ⟨ws, _, hw, .isTrue, by rw [hrest, hc, passLetters_sound hpass]; rfl⟩
    next rest hc =>
      obtain ⟨c₁, hpass, heq⟩ := map_eq_ok h
      cases heq
      exact ⟨ws, _, hw, .isFalse, by rw [hrest, hc, passLetters_sound hpass]; rfl⟩
    next => cases h
  complete := by
    rintro _ _ (_ | _)
    · exact readsBack_flag true 0
    · exact readsBack_flag false 0

lemma TextOf.isValue {s : String} (h : TextOf v s) : IsValue v := by
  obtain ⟨h⟩ := h
  exact .text h.isText

/-! ### Between items -/

lemma Gap.append {gap : List Char} (hg : Gap first gap) (hw : Blank ws) :
    Gap first (gap ++ ws) := by
  cases first with
  | true => exact Blank.append hg hw
  | false =>
    obtain ⟨ws₁, ws₂, hw₁, hw₂, rfl⟩ := hg
    exact ⟨ws₁, ws₂ ++ ws, hw₁, hw₂.append hw, by simp⟩

lemma Items.length_le {Item : α → List Char → Prop} {as : List α} (h : Items Item first as text)
    (hne : ∀ {a item}, Item a item → item ≠ []) : as.length ≤ text.length := by
  induction h with
  | nil => simp
  | cons _ ha _ ih =>
    have hpos := List.length_pos_iff.mpr (hne ha)
    simp only [List.length_cons, List.length_append]
    omega

lemma nextElement_sound {more : Bool} (h : nextElement first c = .ok (more, c')) :
    ∃ gap, c.rest = gap ++ c'.rest ∧
      ((more = true ∧ Gap first gap) ∨
        (more = false ∧ Blank gap ∧ ∃ rest, c'.rest = ']' :: rest)) := by
  obtain ⟨ws, hw, hrest⟩ := skipSpace_spec c
  unfold nextElement at h
  simp only at h
  split at h
  next => cases h
  next x rest hc =>
    split_ifs at h with hend hfirst hcomma
    · cases h
      exact ⟨ws, hrest, .inr ⟨rfl, hw, rest, by rw [hc, hend]⟩⟩
    · cases h
      subst hfirst
      exact ⟨ws, hrest, .inl ⟨rfl, hw⟩⟩
    · obtain ⟨ws', hw', hrest'⟩ := skipSpace_spec ⟨rest, c.skipSpace.offset + 1⟩
      simp only [Bool.not_eq_true] at hfirst
      split at h
      next => cases h
      next => cases h
      next =>
        cases h
        subst hfirst
        simp only at hrest'
        refine ⟨ws ++ ',' :: ws', ?_, .inl ⟨rfl, ws, ws', hw, hw', rfl⟩⟩
        rw [hrest, hc, hcomma, List.append_assoc, List.cons_append, ← hrest']

lemma nextElement_complete {gap : List Char} (hg : Gap first gap) (hv : Opens v) (rest : List Char)
    (offset : Nat) :
    ∃ offset', nextElement first ⟨gap ++ (v ++ rest), offset⟩ =
      .ok (true, ⟨v ++ rest, offset'⟩) := by
  cases first with
  | true => exact ⟨_, nextElement_first hv hg rest offset⟩
  | false =>
    obtain ⟨ws, ws', hw, hw', rfl⟩ := hg
    obtain ⟨x, v, rfl, hs, hb⟩ := hv
    refine ⟨offset + ws.length + 1 + ws'.length, ?_⟩
    have hc : Cursor.isSpace ',' = false := by decide
    rw [List.append_assoc, List.cons_append, List.cons_append]
    simp only [nextElement, skipSpace_blank hw hc, skipSpace_blank hw' hs]
    simp [hb]

lemma nextKey_sound {key : Option String} (h : nextKey first c = .ok (key, c')) :
    (key = none ∧ ∃ ws rest, Blank ws ∧ c.rest = ws ++ '\x7d' :: rest ∧ c'.rest = '\x7d' :: rest) ∨
      ∃ s gap body, key = some s ∧ Gap first gap ∧ Spells body s.toList ∧
        c.rest = gap ++ '"' :: (body ++ '"' :: c'.rest) := by
  have hkey : ∀ {rest offset}, (scanText rest offset).map (fun scanned =>
      (some (String.ofList scanned.1), scanned.2)) = .ok (key, c') →
      ∃ s body, key = some s ∧ Spells body s.toList ∧ rest = body ++ '"' :: c'.rest := by
    intro rest offset h
    obtain ⟨⟨cs, c₁⟩, hscan, heq⟩ := map_eq_ok h
    cases heq
    obtain ⟨body, hbody, rfl⟩ := scanText_sound hscan
    exact ⟨_, body, rfl, by rwa [String.toList_ofList], rfl⟩
  obtain ⟨ws, hw, hrest⟩ := skipSpace_spec c
  unfold nextKey at h
  simp only at h
  split at h
  next => cases h
  next x rest hc =>
    split_ifs at h with hend hfirst hq hcomma
    · cases h
      exact .inl ⟨rfl, ws, rest, hw, by rw [hrest, hc, hend], by rw [hc, hend]⟩
    · subst hfirst
      obtain ⟨s, body, rfl, hbody, rfl⟩ := hkey h
      exact .inr ⟨s, ws, body, rfl, hw, hbody, by rw [hrest, hc, hq]⟩
    · obtain ⟨ws', hw', hrest'⟩ := skipSpace_spec ⟨rest, c.skipSpace.offset + 1⟩
      simp only [Bool.not_eq_true] at hfirst
      subst hfirst
      split at h
      next => cases h
      next rest' hc' =>
        obtain ⟨s, body, rfl, hbody, rfl⟩ := hkey h
        refine .inr ⟨s, ws ++ ',' :: ws', body, rfl, ⟨ws, ws', hw, hw', rfl⟩, hbody, ?_⟩
        simp only [hc'] at hrest'
        rw [hrest, hc, hcomma, hrest', List.append_assoc, List.cons_append]
      next => cases h
      next => cases h

lemma nextKey_complete {gap body : List Char} {s : String} (hg : Gap first gap)
    (hb : Spells body s.toList) (rest : List Char) (offset : Nat) :
    ∃ offset', nextKey first ⟨gap ++ '"' :: (body ++ '"' :: rest), offset⟩ =
      .ok (some s, ⟨rest, offset'⟩) := by
  have hq : Cursor.isSpace '"' = false := by decide
  have hc : Cursor.isSpace ',' = false := by decide
  cases first with
  | true =>
    obtain ⟨o, ho⟩ := scanText_complete hb rest (offset + gap.length + 1)
    refine ⟨o, ?_⟩
    simp only [nextKey, skipSpace_blank hg hq]
    simp [ho, Except.map]
  | false =>
    obtain ⟨ws, ws', hw, hw', rfl⟩ := hg
    obtain ⟨o, ho⟩ := scanText_complete hb rest (offset + ws.length + 1 + ws'.length + 1)
    refine ⟨o, ?_⟩
    rw [List.append_assoc, List.cons_append]
    simp only [nextKey, skipSpace_blank hw hc, skipSpace_blank hw' hq]
    simp [ho, Except.map]

lemma closeObject_sound (h : closeObject c = (c', none)) :
    ∃ ws, Blank ws ∧ c.rest = ws ++ '\x7d' :: c'.rest := by
  obtain ⟨ws, hw, hrest⟩ := skipSpace_spec c
  unfold closeObject at h
  simp only at h
  split at h
  next => cases h
  next rest hc =>
    cases h
    exact ⟨ws, hw, by rw [hrest, hc]⟩
  next => cases h
  next => cases h

lemma closeList_sound (h : closeList c = (c', none)) :
    ∃ ws, Blank ws ∧ c.rest = ws ++ ']' :: c'.rest := by
  obtain ⟨ws, hw, hrest⟩ := skipSpace_spec c
  unfold closeList at h
  simp only at h
  split at h
  next => cases h
  next rest hc =>
    cases h
    exact ⟨ws, hw, by rw [hrest, hc]⟩
  next => cases h
  next => cases h

lemma closeList_blank (hw : Blank ws) :
    closeList ⟨ws ++ ']' :: rest, offset⟩ = (⟨rest, offset + ws.length + 1⟩, none) := by
  simp only [closeList, skipSpace_blank hw (show Cursor.isSpace ']' = false by decide)]

/-! ### Records -/

/-- What the reader takes is a value of the grammar, and it takes that value wherever it stands. -/
def Regular (read : Reader α) : Prop :=
  ∀ {c a c'}, read c = .ok (a, c') →
    ∃ ws v, Blank ws ∧ IsValue v ∧ Reads read v a ∧ c.rest = ws ++ (v ++ c'.rest)

lemma Accepts.regular {read : Reader α} {Form : List Char → α → Prop} (h : Accepts read Form)
    (hv : ∀ {v a}, Form v a → IsValue v) : Regular read := by
  intro c a c' hread
  obtain ⟨ws, v, hw, hform, hrest⟩ := h.sound hread
  exact ⟨ws, v, hw, hv hform, h.complete hform, hrest⟩

/-- The members take the record's draft from the first to the second: those of its fields are read,
none of them twice, and the others are passed over. -/
inductive Gathers (r : Record δ α) : δ → List (String × List Char) → δ → Prop
  | done (draft : δ) : Gathers r draft [] draft
  | known {draft next last : δ} {name : String} {value : List Char}
      {members : List (String × List Char)} {field : Field δ}
      (known : r.fields.find? (·.name == name) = some field) (unset : field.isSet draft = false)
      (reads : Reads (field.read draft) value next) (rest : Gathers r next members last) :
      Gathers r draft ((name, value) :: members) last
  | unknown {draft last : δ} {name : String} {value : List Char}
      {members : List (String × List Char)}
      (unknown : r.fields.find? (·.name == name) = none) (rest : Gathers r draft members last) :
      Gathers r draft ((name, value) :: members) last

/-- The elements, in the order of the fields, take the draft from the first to the second. Fields
for which none is left have to be optional. -/
inductive GathersInOrder : List (Field δ) → δ → List (List Char) → δ → Prop
  | done {fields : List (Field δ)} (optional : ∀ field ∈ fields, field.optional = true)
      (draft : δ) : GathersInOrder fields draft [] draft
  | element {field : Field δ} {fields : List (Field δ)} {draft next last : δ} {value : List Char}
      {values : List (List Char)} (reads : Reads (field.read draft) value next)
      (rest : GathersInOrder fields next values last) :
      GathersInOrder (field :: fields) draft (value :: values) last

/-- The texts of a record, and the record that each of them stands for. -/
inductive RecordOf (r : Record δ α) : List Char → α → Prop
  | object {members : List (String × List Char)} {v : List Char} {last : δ} {a : α}
      (hv : ObjectOf members v) (hg : Gathers r r.blank members last)
      (ha : r.finish last = .ok a) : RecordOf r v a
  | list {values : List (List Char)} {v : List Char} {last : δ} {a : α}
      (hv : ListOf values v) (hg : GathersInOrder r.fields r.blank values last)
      (ha : r.finish last = .ok a) : RecordOf r v a

namespace Record

variable {r : Record δ α} {draft last : δ} {fuel : Nat}

lemma readMembers_sound (hr : ∀ field ∈ r.fields, ∀ draft, Regular (field.read draft))
    (h : r.readMembers fuel first draft c = .ok (last, c')) :
    ∃ members text rest, Items (IsMember fun (s : String) key => Spells key s.toList) first members
        text ∧ (∀ m ∈ members, IsValue m.2) ∧ Gathers r draft members last ∧
      c.rest = text ++ '\x7d' :: rest ∧ c'.rest = '\x7d' :: rest := by
  induction fuel generalizing first draft c with
  | zero => cases h
  | succ fuel ih =>
    rw [readMembers] at h
    split at h
    next => cases h
    next hkey =>
      cases h
      obtain ⟨-, ws, rest, hw, hrest, hrest'⟩ | ⟨_, _, _, hnone, -⟩ := nextKey_sound hkey
      · exact ⟨[], ws, rest, .nil hw, by simp, .done _, hrest, hrest'⟩
      · cases hnone
    next key c₁ hkey =>
      obtain ⟨hnone, -⟩ | ⟨s, gap, body, hsome, hg, hbody, hrest⟩ := nextKey_sound hkey
      · cases hnone
      cases hsome
      split at h
      next field hfield =>
        -- a known key: the value is read into its field
        split_ifs at h with hset
        obtain ⟨c₂, hcolon, h⟩ := bind_eq_ok_iff.mp h
        obtain ⟨⟨next, c₃⟩, hread, h⟩ := bind_eq_ok_iff.mp h
        obtain ⟨ws, hw, hrest₁⟩ := passColon_sound hcolon
        have hmem : field ∈ r.fields := List.mem_of_find?_eq_some hfield
        obtain ⟨ws', v, hw', hv, hreads, hrest₂⟩ := hr field hmem _ hread
        obtain ⟨members, text, rest, hitems, hvalues, hgathers, hrest₃, hclose⟩ := ih h
        simp only [Bool.not_eq_true] at hset
        refine ⟨(key, v) :: members, _, rest, .cons hg (.mk hbody hw hw') hitems,
          List.forall_mem_cons.mpr ⟨hv, hvalues⟩, .known hfield hset hreads hgathers, ?_, hclose⟩
        simp [hrest, hrest₁, hrest₂, hrest₃]
      next hfield =>
        -- an unknown key: the value is passed over
        obtain ⟨c₂, hcolon, h⟩ := bind_eq_ok_iff.mp h
        obtain ⟨c₃, hpass, h⟩ := bind_eq_ok_iff.mp h
        obtain ⟨ws, hw, hrest₁⟩ := passColon_sound hcolon
        obtain ⟨ws', v, hw', hv, hrest₂⟩ := passValue_sound hpass
        obtain ⟨members, text, rest, hitems, hvalues, hgathers, hrest₃, hclose⟩ := ih h
        refine ⟨(key, v) :: members, _, rest, .cons hg (.mk hbody hw hw') hitems,
          List.forall_mem_cons.mpr ⟨hv, hvalues⟩, .unknown hfield hgathers, ?_, hclose⟩
        simp [hrest, hrest₁, hrest₂, hrest₃]

lemma readPositional_sound {c'' : Cursor} {fields : List (Field δ)} {index : Nat}
    (hr : ∀ field ∈ fields, ∀ draft, Regular (field.read draft))
    (h : r.readPositional fields index draft c = .ok (last, c')) (hc : closeList c' = (c'', none)) :
    ∃ values text, Items Eq (index == 0) values text ∧ (∀ v ∈ values, IsValue v) ∧
      GathersInOrder fields draft values last ∧ c.rest = text ++ ']' :: c''.rest := by
  induction fields generalizing index draft c with
  | nil =>
    cases h
    obtain ⟨ws, hw, hrest⟩ := closeList_sound hc
    exact ⟨[], ws, .nil hw, by simp, .done (by simp) _, hrest⟩
  | cons field fields ih =>
    obtain ⟨hfield, hfields⟩ := List.forall_mem_cons.mp hr
    rw [readPositional] at h
    split at h
    next => cases h
    next c₁ hnext =>
      split_ifs at h with hoptional
      obtain ⟨gap, hrest, ⟨hmore, -⟩ | ⟨-, hgap, rest, hclose⟩⟩ := nextElement_sound hnext
      · cases hmore
      obtain ⟨values, text, hitems, hvalues, hgathers, hrest'⟩ := ih hfields h
      -- The cursor stands before the bracket, so no element is left.
      cases hitems with
      | nil hw =>
        cases hgathers with
        | done hoptionals =>
          refine ⟨[], gap ++ text, .nil (hgap.append hw), by simp, ?_, by simp [hrest, hrest']⟩
          exact .done (List.forall_mem_cons.mpr ⟨hoptional, hoptionals⟩) _
      | cons hg hitem hitems =>
        subst hitem
        obtain ⟨hvalue, -⟩ := List.forall_mem_cons.mp hvalues
        obtain ⟨x, more, rfl, hs, hb⟩ := hvalue.opens
        rw [hclose] at hrest'
        simp only [List.append_assoc, List.cons_append] at hrest'
        exact absurd hrest' (hg.not_close hs hb (.inl rfl) blank_nil)
    next c₁ hnext =>
      obtain ⟨⟨next, c₂⟩, hread, h⟩ := bind_eq_ok_iff.mp h
      obtain ⟨gap, hrest, ⟨-, hgap⟩ | ⟨hmore, -⟩⟩ := nextElement_sound hnext
      · obtain ⟨ws, v, hw, hv, hreads, hrest₁⟩ := hfield _ hread
        obtain ⟨values, text, hitems, hvalues, hgathers, hrest₂⟩ := ih hfields h
        refine ⟨v :: values, _, .cons (hgap.append hw) rfl hitems,
          List.forall_mem_cons.mpr ⟨hv, hvalues⟩, .element hreads hgathers, ?_⟩
        simp [hrest, hrest₁, hrest₂]
      · cases hmore

lemma readMembers_complete {members : List (String × List Char)}
    (h : Items (IsMember fun (s : String) key => Spells key s.toList) first members text)
    (hv : ∀ m ∈ members, IsValue m.2) (hg : Gathers r draft members last)
    (hf : members.length < fuel) (rest : List Char) (offset : Nat) :
    ∃ offset', r.readMembers fuel first draft ⟨text ++ '\x7d' :: rest, offset⟩ =
      .ok (last, ⟨'\x7d' :: rest, offset'⟩) := by
  obtain ⟨fuel, rfl⟩ : ∃ n, fuel = n + 1 := ⟨fuel - 1, by omega⟩
  induction h generalizing draft fuel offset with
  | nil hw =>
    cases hg
    exact ⟨_, by rw [readMembers, nextKey_end _ hw]⟩
  | @cons first gap item text m members hgap hitem h ih =>
    obtain @⟨name, key, ws, ws', value, hkey, hw, hw'⟩ := hitem
    obtain ⟨hvalue, hvalues⟩ := List.forall_mem_cons.mp hv
    simp only [List.length_cons] at hf
    obtain ⟨fuel, rfl⟩ : ∃ n, fuel = n + 1 := ⟨fuel - 1, by omega⟩
    obtain ⟨o, ho⟩ := nextKey_complete hgap hkey
      (ws ++ ':' :: (ws' ++ (value ++ (text ++ '\x7d' :: rest)))) offset
    have htext : gap ++ ('"' :: (key ++ '"' :: (ws ++ ':' :: (ws' ++ value))) ++ text) ++
        '\x7d' :: rest = gap ++ '"' :: (key ++ '"' :: (ws ++ ':' :: (ws' ++ (value ++ (text ++
          '\x7d' :: rest))))) := by simp
    rw [htext, readMembers, ho]
    cases hg with
    | known hknown hunset hreads hg =>
      obtain ⟨o', ho'⟩ := hreads.takes ws' (text ++ '\x7d' :: rest) (o + ws.length + 1) hw'
      obtain ⟨o'', ho''⟩ := ih hvalues hg o' fuel (by omega)
      refine ⟨o'', ?_⟩
      simp only [hknown, hunset, passColon_complete hw]
      simp only [Bool.false_eq_true, if_false, bind, Except.bind, ho', ho'']
    | unknown hunknown hg =>
      have hends : Ends (text ++ '\x7d' :: rest) := h.ends (.inr rfl)
      obtain ⟨o', ho'⟩ := passValue_complete hvalue hw' hends (o + ws.length + 1)
      obtain ⟨o'', ho''⟩ := ih hvalues hg o' fuel (by omega)
      refine ⟨o'', ?_⟩
      simp only [hunknown, passColon_complete hw]
      simp only [bind, Except.bind, ho', ho'']

lemma readPositional_end {fields : List (Field δ)} (h : ∀ field ∈ fields, field.optional = true)
    (hw : Blank ws) (index offset : Nat) :
    ∃ ws' offset', Blank ws' ∧ r.readPositional fields index draft ⟨ws ++ ']' :: rest, offset⟩ =
      .ok (draft, ⟨ws' ++ ']' :: rest, offset'⟩) := by
  induction fields generalizing index ws offset with
  | nil => exact ⟨ws, offset, hw, rfl⟩
  | cons field fields ih =>
    obtain ⟨hfield, hfields⟩ := List.forall_mem_cons.mp h
    rw [readPositional, nextElement_end _ hw]
    simp only [hfield, if_true]
    exact ih hfields blank_nil (index + 1) _

lemma readPositional_complete {fields : List (Field δ)} {values : List (List Char)}
    (hg : GathersInOrder fields draft values last) (index : Nat)
    (h : Items Eq (index == 0) values text) (rest : List Char) (offset : Nat) :
    ∃ ws offset', Blank ws ∧ r.readPositional fields index draft ⟨text ++ ']' :: rest, offset⟩ =
      .ok (last, ⟨ws ++ ']' :: rest, offset'⟩) := by
  induction hg generalizing index text offset with
  | done hoptional =>
    cases h with
    | nil hw => exact readPositional_end hoptional hw index offset
  | @element field fields draft next last value values hreads hg ih =>
    cases h with
    | @cons _ gap _ text _ _ hgap hitem h =>
      subst hitem
      obtain ⟨o, ho⟩ := nextElement_complete hgap hreads.opens (text ++ ']' :: rest) offset
      obtain ⟨o', ho'⟩ := hreads.takes [] (text ++ ']' :: rest) o blank_nil
      obtain ⟨ws, o'', hw, ho''⟩ := ih (index + 1) h o'
      refine ⟨ws, o'', hw, ?_⟩
      rw [List.append_assoc, List.append_assoc, readPositional, ho]
      rw [List.nil_append] at ho'
      simp only [bind, Except.bind, ho', ho'']

lemma complete_eq_ok {a : α} {end_ : Cursor × Option Problem}
    (h : r.complete draft end_ = .ok (a, c')) : r.finish draft = .ok a ∧ end_ = (c', none) := by
  unfold complete at h
  split at h
  next a' hfinish =>
    obtain ⟨c₁, _ | p⟩ := end_
    · cases h
      exact ⟨hfinish, rfl⟩
    · cases h
  next => cases h

lemma read_sound (hr : ∀ field ∈ r.fields, ∀ draft, Regular (field.read draft)) {a : α}
    (h : r.read c = .ok (a, c')) :
    ∃ ws v, Blank ws ∧ RecordOf r v a ∧ c.rest = ws ++ (v ++ c'.rest) := by
  obtain ⟨ws, hw, hrest⟩ := skipSpace_spec c
  unfold read at h
  simp only at h
  split at h
  next body hc =>
    obtain ⟨⟨draft, c₁⟩, hmembers, h⟩ := bind_eq_ok_iff.mp h
    obtain ⟨hfinish, hclose⟩ := complete_eq_ok h
    obtain ⟨members, text, rest, hitems, hvalues, hgathers, htext, hrest₁⟩ :=
      readMembers_sound hr hmembers
    obtain ⟨ws', hw', hrest₂⟩ := closeObject_sound hclose
    rw [hrest₁] at hrest₂
    obtain ⟨-, rfl⟩ := blank_nil.unique hw' (by decide) (by decide) hrest₂
    simp only at htext
    refine ⟨ws, _, hw, .object (.mk hitems hvalues) hgathers hfinish, ?_⟩
    simp [hrest, hc, htext]
  next body hc =>
    obtain ⟨⟨draft, c₁⟩, hvalues, h⟩ := bind_eq_ok_iff.mp h
    obtain ⟨hfinish, hclose⟩ := complete_eq_ok h
    obtain ⟨values, text, hitems, hvalues, hgathers, htext⟩ :=
      readPositional_sound hr hvalues hclose
    simp only at htext
    refine ⟨ws, _, hw, .list (.mk hitems hvalues) hgathers hfinish, ?_⟩
    simp [hrest, hc, htext]
  next => cases h

lemma reads_object {members : List (String × List Char)} {a : α} (hv : ObjectOf members v)
    (hg : Gathers r r.blank members last) (ha : r.finish last = .ok a) : Reads r.read v a := by
  obtain @⟨text, hitems, hvalues⟩ := hv
  refine ⟨⟨_, _, rfl, by decide, by decide⟩, fun ws rest offset hw => ?_⟩
  have hlength : members.length < (text ++ '\x7d' :: rest).length + 1 := by
    have hle := hitems.length_le (by rintro _ _ ⟨-, -, -⟩; simp)
    simp only [List.length_append]
    omega
  obtain ⟨o, ho⟩ := readMembers_complete hitems hvalues hg hlength rest (offset + ws.length + 1)
  refine ⟨o + 1, ?_⟩
  unfold read
  rw [List.cons_append, List.append_assoc, skipSpace_blank hw (by decide)]
  simp only [List.singleton_append, ho, bind, Except.bind, closeObject_end, Record.complete, ha]
  rfl

lemma reads_list {values : List (List Char)} {a : α} (hv : ListOf values v)
    (hg : GathersInOrder r.fields r.blank values last) (ha : r.finish last = .ok a) :
    Reads r.read v a := by
  obtain @⟨text, hitems, -⟩ := hv
  refine ⟨⟨_, _, rfl, by decide, by decide⟩, fun ws rest offset hw => ?_⟩
  obtain ⟨ws', o, hw', ho⟩ := readPositional_complete (r := r) hg 0 hitems rest
    (offset + ws.length + 1)
  refine ⟨o + ws'.length + 1, ?_⟩
  unfold read
  rw [List.cons_append, List.append_assoc, skipSpace_blank hw (by decide)]
  simp only [List.singleton_append, ho, bind, Except.bind, closeList_blank hw', Record.complete, ha]
  rfl

/-- **The texts of a record**: the objects whose members fill the draft and the lists whose elements
do, if the draft can be finished. -/
theorem accepts (hr : ∀ field ∈ r.fields, ∀ draft, Regular (field.read draft)) :
    Accepts r.read (RecordOf r) where
  sound := read_sound hr
  complete := by
    rintro v a (⟨hv, hg, ha⟩ | ⟨hv, hg, ha⟩)
    · exact reads_object hv hg ha
    · exact reads_list hv hg ha

end Record

end StaticHost.Json
