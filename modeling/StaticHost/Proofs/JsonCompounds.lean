import StaticHost.Proofs.JsonRecords

/-!
The texts of lists and of choices, and the values that printers write.

A list is accepted if its elements are. A choice is accepted by name: as a string, or as the only
key of an object. What the printers write for objects and lists are values of the grammar, so that
the members and the elements of a printed text can be told.
-/

namespace StaticHost.Json

variable {α β δ : Type} {c c' : Cursor} {ws text rest v : List Char} {offset : Nat} {first : Bool}

lemma Accepts.congr {read : Reader α} {Form Form' : List Char → α → Prop} (h : Accepts read Form)
    (hform : ∀ v a, Form v a ↔ Form' v a) : Accepts read Form' := by
  have heq : Form = Form' := funext₂ fun v a => propext (hform v a)
  exact heq ▸ h

/-! ### Values -/

lemma Items.map {Item : α → List Char → Prop} {Item' : β → List Char → Prop} {as : List α}
    (h : Items Item first as text) (f : α → β) (hf : ∀ {a text}, Item a text → Item' (f a) text) :
    Items Item' first (as.map f) text := by
  induction h with
  | nil hw => exact .nil hw
  | cons hg ha _ ih => exact .cons hg (hf ha) ih

lemma Items.and {Item : α → List Char → Prop} {P : α → Prop} {as : List α}
    (h : Items Item first as text) (hP : ∀ a ∈ as, P a) :
    Items (fun a text => Item a text ∧ P a) first as text := by
  induction h with
  | nil hw => exact .nil hw
  | cons hg ha _ ih =>
    obtain ⟨hPa, hPs⟩ := List.forall_mem_cons.mp hP
    exact .cons hg ⟨ha, hPa⟩ (ih hPs)

lemma ListOf.isValue {values : List (List Char)} (h : ListOf values v) : IsValue v := by
  obtain ⟨hitems, hvalues⟩ := h
  exact .list hitems hvalues

lemma ObjectOf.isValue {members : List (String × List Char)} (h : ObjectOf members v) :
    IsValue v := by
  obtain ⟨hitems, hvalues⟩ := h
  refine .object (hitems.map (fun m => ((), m.2)) ?_) ?_
  · rintro _ _ ⟨hkey, hw, hw'⟩
    exact .mk hkey.isText hw hw'
  · rintro m hm
    obtain ⟨m', hm', rfl⟩ := List.mem_map.mp hm
    exact hvalues m' hm'

lemma RecordOf.isValue {r : Record δ α} {a : α} (h : RecordOf r v a) : IsValue v := by
  cases h with
  | object hv => exact hv.isValue
  | list hv => exact hv.isValue

lemma IsValue.ne_nil (h : IsValue v) : v ≠ [] := by
  obtain ⟨x, more, rfl, -⟩ := h.opens
  simp

/-- A value is read in one way. -/
lemma Reads.unique {read : Reader α} {a a' : α} (h : Reads read v a) (h' : Reads read v a') :
    a = a' := by
  obtain ⟨o, ho⟩ := h.takes [] [] 0 blank_nil
  obtain ⟨o', ho'⟩ := h'.takes [] [] 0 blank_nil
  rw [ho] at ho'
  exact congrArg Prod.fst (Except.ok.inj ho')

lemma Accepts.unique {read : Reader α} {Form : List Char → α → Prop} (h : Accepts read Form)
    {a a' : α} (hv : Form v a) (hv' : Form v a') : a = a' :=
  (h.complete hv).unique (h.complete hv')

/-! ### Lists -/

section Lists

variable {read : Reader α} {Form : List Char → α → Prop} {fuel : Nat} {as : List α}

lemma readElements_sound (hr : Accepts read Form) (hv : ∀ {v a}, Form v a → IsValue v)
    (h : readElements read fuel first c = .ok (as, c')) :
    ∃ vs text rest, Items Eq first vs text ∧ (∀ v ∈ vs, IsValue v) ∧ List.Forall₂ Form vs as ∧
      c.rest = text ++ ']' :: rest ∧ c'.rest = ']' :: rest := by
  -- on the fuel, since the number of elements is known only at the end
  induction fuel generalizing first c as with
  | zero => cases h
  | succ fuel ih =>
    rw [readElements] at h
    split at h
    next => cases h
    next c₁ hnext =>
      cases h
      obtain ⟨gap, hrest, ⟨hmore, -⟩ | ⟨-, hgap, rest, hclose⟩⟩ := nextElement_sound hnext
      · cases hmore
      · exact ⟨[], gap, rest, .nil hgap, by simp, .nil, by rw [hrest, hclose], hclose⟩
    next c₁ hnext =>
      obtain ⟨⟨a, c₂⟩, hread, h⟩ := bind_eq_ok_iff.mp h
      obtain ⟨⟨as, c₃⟩, hrest, h⟩ := bind_eq_ok_iff.mp h
      cases h
      obtain ⟨gap, hgaps, ⟨-, hgap⟩ | ⟨hmore, -⟩⟩ := nextElement_sound hnext
      · obtain ⟨ws, v, hw, hform, hrest₁⟩ := hr.sound hread
        obtain ⟨vs, text, rest, hitems, hvalues, hforms, htext, hclose⟩ := ih hrest
        refine ⟨v :: vs, _, rest, .cons (hgap.append hw) rfl hitems,
          List.forall_mem_cons.mpr ⟨hv hform, hvalues⟩, .cons hform hforms, ?_, hclose⟩
        rw [hgaps, hrest₁, htext]
        simp
      · cases hmore

lemma readElements_complete (hr : Accepts read Form) {vs : List (List Char)}
    (h : Items Eq first vs text) (hforms : List.Forall₂ Form vs as) (hf : vs.length < fuel)
    (rest : List Char) (offset : Nat) :
    ∃ offset', readElements read fuel first ⟨text ++ ']' :: rest, offset⟩ =
      .ok (as, ⟨']' :: rest, offset'⟩) := by
  obtain ⟨fuel, rfl⟩ : ∃ n, fuel = n + 1 := ⟨fuel - 1, by omega⟩
  induction hforms generalizing first text fuel offset with
  | nil =>
    cases h with
    | nil hw => exact ⟨_, by rw [readElements, nextElement_end _ hw]⟩
  | @cons v a vs as hform hforms ih =>
    cases h with
    | @cons _ gap _ text _ _ hgap hitem h =>
      subst hitem
      simp only [List.length_cons] at hf
      obtain ⟨fuel, rfl⟩ : ∃ n, fuel = n + 1 := ⟨fuel - 1, by omega⟩
      have hreads := hr.complete hform
      obtain ⟨o, ho⟩ := nextElement_complete hgap hreads.opens (text ++ ']' :: rest) offset
      obtain ⟨o', ho'⟩ := hreads.takes [] (text ++ ']' :: rest) o blank_nil
      obtain ⟨o'', ho''⟩ := ih h o' fuel (by omega)
      refine ⟨o'', ?_⟩
      rw [List.append_assoc, List.append_assoc]
      exact readElements_cons ho ho' ho''

lemma closed_eq_ok {a b : α} {end_ : Cursor × Option Problem} (h : closed a end_ = .ok (b, c')) :
    a = b ∧ end_ = (c', none) := by
  obtain ⟨c₁, _ | p⟩ := end_
  · cases h
    exact ⟨rfl, rfl⟩
  · cases h

/-- **The texts of a list** are the lists of texts of its elements. -/
theorem accepts_list (hr : Accepts read Form) (hv : ∀ {v a}, Form v a → IsValue v) :
    Accepts (readList read) fun v as => ∃ vs, ListOf vs v ∧ List.Forall₂ Form vs as where
  sound := by
    intro c as c' h
    obtain ⟨ws, hw, hrest⟩ := skipSpace_spec c
    unfold readList at h
    simp only at h
    split at h
    next body hc =>
      obtain ⟨⟨as', c₁⟩, helements, h⟩ := bind_eq_ok_iff.mp h
      obtain ⟨vs, text, rest, hitems, hvalues, hforms, htext, hclose⟩ :=
        readElements_sound hr hv helements
      obtain ⟨rfl, hend⟩ := closed_eq_ok h
      obtain ⟨ws', hw', hrest'⟩ := closeList_sound hend
      rw [hclose] at hrest'
      obtain ⟨-, rfl⟩ := blank_nil.unique hw' (by decide) (by decide) hrest'
      refine ⟨ws, _, hw, ⟨vs, .mk hitems hvalues, hforms⟩, ?_⟩
      simp only at htext
      simp [hrest, hc, htext]
    next => cases h
  complete := by
    rintro v as ⟨vs, @⟨text, hitems, hvalues⟩, hforms⟩
    refine ⟨⟨_, _, rfl, by decide, by decide⟩, fun ws rest offset hw => ?_⟩
    have hlength : vs.length < (text ++ ']' :: rest).length + 1 := by
      have hle := (hitems.and hvalues).length_le (by rintro v _ ⟨rfl, hv⟩; exact hv.ne_nil)
      simp only [List.length_append]
      omega
    obtain ⟨o, ho⟩ := readElements_complete hr hitems hforms hlength rest (offset + ws.length + 1)
    refine ⟨o + 1, ?_⟩
    unfold readList
    rw [List.cons_append, List.append_assoc, skipSpace_blank hw (by decide)]
    simp only [List.singleton_append, ho, bind, Except.bind, closeList_end]
    rfl

end Lists

/-! ### Choices -/

/-- A name: a string, or an object with that name for its only key and `null` for its value. -/
inductive NameOf : List Char → String → Prop
  | text {v : List Char} {s : String} (h : TextOf v s) : NameOf v s
  | key {v : List Char} {s : String} (h : ObjectOf [(s, ['n', 'u', 'l', 'l'])] v) : NameOf v s

/-- An object of one member, piece by piece. -/
lemma objectOf_singleton_iff {s : String} {value : List Char} :
    ObjectOf [(s, value)] v ↔ IsValue value ∧ ∃ key ws₁ ws₂ ws₃ ws₄, Spells key s.toList ∧
      Blank ws₁ ∧ Blank ws₂ ∧ Blank ws₃ ∧ Blank ws₄ ∧
      v = '\x7b' :: (ws₁ ++ '"' :: (key ++ '"' :: (ws₂ ++ ':' :: (ws₃ ++ (value ++ (ws₄ ++
        ['\x7d'])))))) := by
  constructor
  · rintro ⟨hitems, hvalues⟩
    refine ⟨hvalues _ (List.mem_singleton_self _), ?_⟩
    obtain _ | ⟨hgap, ⟨hkey, hw₂, hw₃⟩, _ | _⟩ := hitems
    next hw₄ => exact ⟨_, _, _, _, _, hkey, hgap, hw₂, hw₃, hw₄, by simp⟩
  · rintro ⟨hvalue, key, ws₁, ws₂, ws₃, ws₄, hkey, hw₁, hw₂, hw₃, hw₄, rfl⟩
    have hmember : IsMember (fun (s : String) key => Spells key s.toList) (s, value) _ :=
      .mk hkey hw₂ hw₃
    have hitems : Items (IsMember fun (s : String) key => Spells key s.toList) true
        [(s, value)] _ := .cons hw₁ hmember (.nil hw₄)
    simpa using ObjectOf.mk hitems (by simpa using hvalue)

lemma passNull_sound (h : passNull c = .ok c') :
    ∃ ws, Blank ws ∧ c.rest = ws ++ (['n', 'u', 'l', 'l'] ++ c'.rest) := by
  obtain ⟨ws, hw, hrest⟩ := skipSpace_spec c
  unfold passNull at h
  simp only at h
  split at h
  next rest hc => exact ⟨ws, hw, by rw [hrest, hc, passLetters_sound h]; rfl⟩
  next => cases h

lemma passNull_complete (hw : Blank ws) (rest : List Char) (offset : Nat) :
    passNull ⟨ws ++ (['n', 'u', 'l', 'l'] ++ rest), offset⟩ =
      .ok ⟨rest, offset + ws.length + 1 + 3⟩ := by
  unfold passNull
  rw [List.cons_append, skipSpace_blank hw (by decide)]
  exact passLetters_self ['u', 'l', 'l'] rest _

/-- The reader of a choice's names. -/
lemma accepts_variant (choices : List (String × α)) :
    Accepts (readTextAs "variant identifier" fun name =>
        match choices.lookup name with
        | some a => .ok a
        | none => .error (.unknownVariant name (choices.map (·.1))))
      fun v a => ∃ s, TextOf v s ∧ choices.lookup s = some a := by
  refine (accepts_textAs _ _).congr fun v a => exists_congr fun s => and_congr_right fun _ => ?_
  cases choices.lookup s <;> simp

lemma readChoice_sound {choices : List (String × α)} {a : α}
    (h : readChoice choices c = .ok (a, c')) :
    ∃ ws v, Blank ws ∧ (∃ s, NameOf v s ∧ choices.lookup s = some a) ∧
      c.rest = ws ++ (v ++ c'.rest) := by
  obtain ⟨ws, hw, hrest⟩ := skipSpace_spec c
  unfold readChoice at h
  simp only at h
  split at h
  next => cases h
  next body hc =>
    obtain ⟨ws₁, hw₁, hbody⟩ := skipSpace_spec ⟨body, c.skipSpace.offset + 1⟩
    split at h
    next => cases h
    next more hc₁ =>
      obtain ⟨⟨a', c₂⟩, hname, h⟩ := bind_eq_ok_iff.mp h
      obtain ⟨c₃, hcolon, h⟩ := bind_eq_ok_iff.mp h
      obtain ⟨c₄, hnull, h⟩ := bind_eq_ok_iff.mp h
      obtain ⟨ws₂, _, hw₂, ⟨s, @⟨key, _, hkey⟩, hs⟩, hrest₁⟩ :=
        (accepts_variant choices).sound hname
      obtain ⟨ws₃, hw₃, hrest₂⟩ := passColon_sound hcolon
      obtain ⟨ws₄, hw₄, hrest₃⟩ := passNull_sound hnull
      obtain ⟨ws₅, hw₅, hrest₄⟩ := skipSpace_spec c₄
      split at h
      next tail hc₄ =>
        cases h
        simp only at hbody hrest₂ ⊢
        refine ⟨ws, _, hw, ⟨s, .key (objectOf_singleton_iff.mpr ⟨.null, key, ws₁ ++ ws₂, ws₃, ws₄,
          ws₅, hkey, hw₁.append hw₂, hw₃, hw₄, hw₅, rfl⟩), hs⟩, ?_⟩
        rw [hrest, hc, hbody, hrest₁, hrest₂, hrest₃, hrest₄, hc₄]
        simp
      next => cases h
      next => cases h
    next => cases h
    next => cases h
  next rest hc =>
    obtain ⟨ws₁, v, hw₁, ⟨s, htext, hs⟩, hrest₁⟩ := (accepts_variant choices).sound h
    exact ⟨ws ++ ws₁, v, hw.append hw₁, ⟨s, .text htext, hs⟩, by simp [hrest, hrest₁]⟩
  next => cases h

lemma reads_name_text {choices : List (String × α)} {s : String} {a : α} (htext : TextOf v s)
    (hs : choices.lookup s = some a) : Reads (readChoice choices) v a := by
  obtain ⟨hopens, htakes⟩ := (accepts_variant choices).complete ⟨s, htext, hs⟩
  refine ⟨hopens, fun ws rest offset hw => ?_⟩
  obtain ⟨o, ho⟩ := htakes [] rest (offset + ws.length) blank_nil
  refine ⟨o, ?_⟩
  obtain ⟨key⟩ := htext
  unfold readChoice
  rw [List.cons_append, skipSpace_blank hw (by decide)]
  exact ho

lemma reads_name_key {choices : List (String × α)} {s : String} {a : α}
    (hkey : ObjectOf [(s, ['n', 'u', 'l', 'l'])] v) (hs : choices.lookup s = some a) :
    Reads (readChoice choices) v a := by
  obtain ⟨-, key, ws₁, ws₂, ws₃, ws₄, hspells, hw₁, hw₂, hw₃, hw₄, rfl⟩ :=
    objectOf_singleton_iff.mp hkey
  refine ⟨⟨_, _, rfl, by decide, by decide⟩, fun ws rest offset hw => ?_⟩
  obtain ⟨o, ho⟩ := ((accepts_variant choices).complete ⟨s, .mk hspells, hs⟩).takes []
    (ws₂ ++ ':' :: (ws₃ ++ (['n', 'u', 'l', 'l'] ++ (ws₄ ++ '\x7d' :: rest))))
    (offset + ws.length + 1 + ws₁.length) blank_nil
  simp only [List.cons_append, List.append_assoc, List.nil_append] at ho ⊢
  refine ⟨o + ws₂.length + 1 + ws₃.length + 1 + 3 + ws₄.length + 1, ?_⟩
  unfold readChoice
  simp only [skipSpace_blank hw (show Cursor.isSpace '\x7b' = false by decide),
    skipSpace_blank hw₁ (show Cursor.isSpace '"' = false by decide)]
  refine (bind_of_ok ho _).trans ?_
  refine (bind_of_ok (passColon_complete hw₂) _).trans ?_
  refine (bind_of_ok (passNull_complete hw₃ (ws₄ ++ '\x7d' :: rest) _) _).trans ?_
  simp only [skipSpace_blank hw₄ (show Cursor.isSpace '\x7d' = false by decide)]
  rfl

/-- **The texts of a choice** are the names of the alternatives. -/
theorem accepts_choice (choices : List (String × α)) :
    Accepts (readChoice choices) fun v a => ∃ s, NameOf v s ∧ choices.lookup s = some a where
  sound := readChoice_sound
  complete := by
    rintro v a ⟨s, htext | hkey, hs⟩
    · exact reads_name_text htext hs
    · exact reads_name_key hkey hs

/-- The text is this name, up to white space. -/
def Names (text name : String) : Prop :=
  ∃ ws v ws', Blank ws ∧ Blank ws' ∧ NameOf v name ∧ text.toList = ws ++ (v ++ ws')

lemma decode_choice_iff {choices : List (String × α)} {text : String} {a : α} :
    decode (readChoice choices) text = .ok a ↔
      ∃ name, Names text name ∧ choices.lookup name = some a := by
  rw [(accepts_choice choices).decode_eq_ok_iff]
  constructor
  · rintro ⟨ws, v, ws', hw, hw', ⟨name, hname, ha⟩, htext⟩
    exact ⟨name, ⟨ws, v, ws', hw, hw', hname, htext⟩, ha⟩
  · rintro ⟨name, ⟨ws, v, ws', hw, hw', hname, htext⟩, ha⟩
    exact ⟨ws, v, ws', hw, hw', ⟨name, hname, ha⟩, htext⟩

/-- A text is one name at most: a choice between two of them is decided by the text. -/
lemma Names.unique {text name name' : String} (h : Names text name) (h' : Names text name') :
    name = name' := by
  by_contra hne
  have hname : decode (readChoice [(name, name), (name', name')]) text = .ok name :=
    decode_choice_iff.mpr ⟨name, h, by simp⟩
  have hname' : decode (readChoice [(name, name), (name', name')]) text = .ok name' :=
    decode_choice_iff.mpr
      ⟨name', h', by simp [List.lookup_cons, beq_eq_false_iff_ne.mpr (Ne.symm hne)]⟩
  rw [hname] at hname'
  exact hne (Except.ok.inj hname')

/-! ### What printers write -/

section Printed

variable {Item : α → List Char → Prop} {f : α → List Char}

lemma items_following {as : List α} (h : ∀ a ∈ as, Item a (f a)) (level : Nat) (hw : Blank ws) :
    Items Item false as (following level (as.map f) ++ ws) := by
  induction as with
  | nil => exact .nil hw
  | cons a as ih =>
    obtain ⟨ha, has⟩ := List.forall_mem_cons.mp h
    have hgap : Gap false (',' :: Printer.newline level) :=
      ⟨[], _, blank_nil, blank_newline level, rfl⟩
    have htext : following level ((a :: as).map f) ++ ws =
        (',' :: Printer.newline level) ++ (f a ++ (following level (as.map f) ++ ws)) := by
      simp [following, lines_cons]
    rw [htext]
    exact .cons hgap ha (ih has)

lemma items_lines {as : List α} (h : ∀ a ∈ as, Item a (f a)) (level : Nat) (hw : Blank ws) :
    Items Item true as (Printer.lines level (as.map f) ++ ws) := by
  cases as with
  | nil => exact .nil hw
  | cons a as =>
    obtain ⟨ha, has⟩ := List.forall_mem_cons.mp h
    rw [List.map_cons, lines_cons, List.append_assoc, List.append_assoc]
    exact .cons (blank_newline level) ha (items_following has level hw)

lemma spells_escape (text : List Char) : Spells (text.flatMap escape) text := by
  obtain ⟨o, ho⟩ := scanText_literal text [] 0
  obtain ⟨body, hbody, heq⟩ := scanText_sound ho
  rwa [List.append_cancel_right heq]

lemma textOf_text (s : String) (level : Nat) : TextOf (Printer.text s level) s := by
  have h := TextOf.mk (spells_escape s.toList)
  exact h

lemma flagOf_flag (b : Bool) (level : Nat) : FlagOf (Printer.flag b level) b := by
  cases b
  · exact .isFalse
  · exact .isTrue

/-- **A printed list** has the elements that were given, each as it is printed. -/
theorem listOf_list {items : List Printer} {level : Nat}
    (h : ∀ item ∈ items, IsValue (item (level + 1))) :
    ListOf (items.map (· (level + 1))) (Printer.list items level) := by
  unfold Printer.list
  split_ifs with hempty
  · have hnone : Items Eq true (items.map (· (level + 1))) [] := by
      rw [List.isEmpty_iff.mp hempty]
      exact .nil blank_nil
    exact .mk hnone (by simpa using h)
  · have hitems : Items Eq true (items.map (· (level + 1))) _ :=
      items_lines (fun _ _ => (id_eq _).symm) (level + 1) (blank_newline level)
    rw [List.map_id] at hitems
    exact .mk hitems (by simpa using h)

/-- **A printed object** has the members that were given, each with its printed value. -/
theorem objectOf_object {members : List (String × Printer)} {level : Nat}
    (h : ∀ m ∈ members, IsValue (m.2 (level + 1))) :
    ObjectOf (members.map fun m => (m.1, m.2 (level + 1))) (Printer.object members level) := by
  have hmember : ∀ m ∈ members.map fun m => (m.1, m.2 (level + 1)),
      IsMember (fun (s : String) key => Spells key s.toList) m
        (literal m.1.toList ++ [':', ' '] ++ m.2) := by
    rintro ⟨name, value⟩ -
    have htext : literal name.toList ++ [':', ' '] ++ value =
        '"' :: (name.toList.flatMap escape ++ '"' :: ([] ++ ':' :: ([' '] ++ value))) := by
      simp [literal]
    rw [htext]
    exact .mk (spells_escape name.toList) blank_nil blank_space
  have hvalues : ∀ m ∈ members.map fun m => (m.1, m.2 (level + 1)), IsValue m.2 := by
    intro m hm
    obtain ⟨m', hm', rfl⟩ := List.mem_map.mp hm
    exact h m' hm'
  have hobject := ObjectOf.mk (items_lines hmember (level + 1) (blank_newline level)) hvalues
  simpa [Printer.object, Function.comp_def] using hobject

end Printed

end StaticHost.Json
