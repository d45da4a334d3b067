import Mathlib.Data.List.Nodup
import StaticHost.Proofs.JsonCompounds

/-!
Drafts of records, slot by slot.

A draft has a slot for the value of each field. Members of an object fill the slots in whatever
order they come; what a slot holds in the end depends on the values under its own name alone, and
there may be one of them at most. The elements of a list fill the slots from the first on, as the
members of an object would that have the names of the fields in their order.
-/

namespace StaticHost.Json

variable {α δ : Type} {v : List Char}

/-! ### Values under a name -/

/-- The texts of the values that members of this name have, in order. -/
def valuesOf (name : String) (members : List (String × List Char)) : List (List Char) :=
  (members.filter (·.1 == name)).map (·.2)

lemma valuesOf_cons_self (name : String) (value : List Char) (members : List (String × List Char)) :
    valuesOf name ((name, value) :: members) = value :: valuesOf name members := by
  simp [valuesOf]

lemma valuesOf_cons_ne {name other : String} (h : other ≠ name) (value : List Char)
    (members : List (String × List Char)) :
    valuesOf name ((other, value) :: members) = valuesOf name members := by
  simp [valuesOf, h]

/-- The texts, of which there is one at most, put a value where none is. -/
inductive Gains (Form : List Char → α → Prop) : Option α → List (List Char) → Option α → Prop
  | nothing (old : Option α) : Gains Form old [] old
  | value {v : List Char} {a : α} (h : Form v a) : Gains Form none [v] (some a)

lemma gains_nil {Form : List Char → α → Prop} {old new : Option α} :
    Gains Form old [] new ↔ old = new := by
  constructor
  · rintro (_ | _)
    rfl
  · rintro rfl
    exact .nothing old

lemma gains_cons {Form : List Char → α → Prop} {old new : Option α} {values : List (List Char)} :
    Gains Form old (v :: values) new ↔ old = none ∧ values = [] ∧ ∃ a, Form v a ∧ new = some a := by
  constructor
  · rintro (_ | ⟨h⟩)
    exact ⟨rfl, rfl, _, h, rfl⟩
  · rintro ⟨rfl, rfl, a, h, rfl⟩
    exact .value h

lemma gains_none_iff {Form : List Char → α → Prop} {values : List (List Char)} {new : Option α} :
    Gains Form none values new ↔
      (values = [] ∧ new = none) ∨ ∃ v a, values = [v] ∧ Form v a ∧ new = some a := by
  constructor
  · rintro (_ | ⟨h⟩)
    · exact .inl ⟨rfl, rfl⟩
    · exact .inr ⟨_, _, rfl, h, rfl⟩
  · rintro (⟨rfl, rfl⟩ | ⟨v, a, rfl, h, rfl⟩)
    · exact .nothing none
    · exact .value h

lemma gains_some_iff {Form : List Char → α → Prop} {values : List (List Char)} {a : α} :
    Gains Form none values (some a) ↔ ∃ v, values = [v] ∧ Form v a := by
  simp [gains_none_iff]

/-! ### Slots -/

/-- A place of a draft for the value of one field. -/
structure Slot (δ : Type) where
  name : String
  Value : Type
  get : δ → Option Value
  set : Value → δ → δ
  /-- The texts of a value. -/
  Form : List Char → Value → Prop

structure Field.Matches (field : Field δ) (slot : Slot δ) : Prop where
  name : field.name = slot.name
  isSet : ∀ draft, field.isSet draft = (slot.get draft).isSome
  accepts : ∀ draft,
    Accepts (field.read draft) fun v next => ∃ a, slot.Form v a ∧ slot.set a draft = next

/-- The draft of the record consists of these slots, one for each field. -/
structure Record.HasSlots (r : Record δ α) (slots : List (Slot δ)) : Prop where
  fields : List.Forall₂ Field.Matches r.fields slots
  distinct : (slots.map Slot.name).Nodup
  get_set : ∀ slot ∈ slots, ∀ a draft, slot.get (slot.set a draft) = some a
  get_set_ne : ∀ slot ∈ slots, ∀ other ∈ slots, slot.name ≠ other.name →
    ∀ a draft, other.get (slot.set a draft) = other.get draft
  ext : ∀ draft draft', (∀ slot ∈ slots, slot.get draft = slot.get draft') → draft = draft'

section Slots

variable {r : Record δ α} {slots : List (Slot δ)} {draft last : δ}
  {members : List (String × List Char)}

/-- A name is unknown, or it is the name of a slot and its field is found. -/
lemma find_field_cases {fields : List (Field δ)} (h : List.Forall₂ Field.Matches fields slots)
    (name : String) :
    (fields.find? (·.name == name) = none ∧ ∀ slot ∈ slots, slot.name ≠ name) ∨
      ∃ field, ∃ slot ∈ slots, fields.find? (·.name == name) = some field ∧ field.Matches slot ∧
        slot.name = name := by
  induction h with
  | nil => exact .inl ⟨rfl, by simp⟩
  | @cons field slot fields slots hmatch _ ih =>
    by_cases hname : slot.name = name
    · refine .inr ⟨field, slot, by simp, List.find?_cons_of_pos ?_, hmatch, hname⟩
      simp [hmatch.name, hname]
    · have hskip : (field :: fields).find? (·.name == name) = fields.find? (·.name == name) :=
        List.find?_cons_of_neg (by simp [hmatch.name, hname])
      rw [hskip]
      obtain ⟨hnone, hslots⟩ | ⟨field', slot', hmem, hfound⟩ := ih
      · exact .inl ⟨hnone, List.forall_mem_cons.mpr ⟨hname, hslots⟩⟩
      · exact .inr ⟨field', slot', List.mem_cons_of_mem _ hmem, hfound⟩

namespace Record.HasSlots

lemma gains_of_gathers (h : r.HasSlots slots) (hg : Gathers r draft members last) :
    ∀ slot ∈ slots,
      Gains slot.Form (slot.get draft) (valuesOf slot.name members) (slot.get last) := by
  induction hg with
  | done draft => exact fun slot _ => .nothing _
  | @known draft next last name value members field hknown hunset hreads hg ih =>
    intro slot hslot
    obtain ⟨hnone, -⟩ | ⟨field', slot', hslot', hsome, hmatch, rfl⟩ :=
      find_field_cases h.fields name
    · rw [hnone] at hknown
      cases hknown
    · rw [hknown] at hsome
      cases hsome
      obtain ⟨a, hform, rfl⟩ := (hmatch.accepts draft).reads_iff.mp hreads
      by_cases hname : slot.name = slot'.name
      · obtain rfl := List.inj_on_of_nodup_map h.distinct hslot hslot' hname
        have hrest := ih slot hslot
        rw [h.get_set slot hslot] at hrest
        rw [hmatch.isSet, Option.isSome_eq_false_iff, Option.isNone_iff_eq_none] at hunset
        rw [valuesOf_cons_self, hunset, gains_cons]
        -- The slot is filled, so nothing is left for it.
        generalize hvalues : valuesOf slot.name members = values at hrest
        cases values with
        | nil => exact ⟨rfl, rfl, a, hform, (gains_nil.mp hrest).symm⟩
        | cons => cases (gains_cons.mp hrest).1
      · have hkept := h.get_set_ne slot' hslot' slot hslot (Ne.symm hname) a draft
        rw [valuesOf_cons_ne (Ne.symm hname), ← hkept]
        exact ih slot hslot
  | @unknown draft last name value members hunknown hg ih =>
    intro slot hslot
    obtain ⟨-, hnames⟩ | ⟨field, slot', -, hsome, -⟩ := find_field_cases h.fields name
    · rw [valuesOf_cons_ne (Ne.symm (hnames slot hslot))]
      exact ih slot hslot
    · rw [hunknown] at hsome
      cases hsome

lemma gathers_of_gains (h : r.HasSlots slots) (hg : ∀ slot ∈ slots,
      Gains slot.Form (slot.get draft) (valuesOf slot.name members) (slot.get last)) :
    Gathers r draft members last := by
  induction members generalizing draft with
  | nil =>
    obtain rfl : draft = last := h.ext draft last fun slot hslot => gains_nil.mp (hg slot hslot)
    exact .done draft
  | cons m members ih =>
    obtain ⟨name, value⟩ := m
    obtain ⟨hnone, hnames⟩ | ⟨field, slot, hslot, hsome, hmatch, rfl⟩ :=
      find_field_cases h.fields name
    · refine .unknown hnone (ih fun slot hslot => ?_)
      rw [← valuesOf_cons_ne (Ne.symm (hnames slot hslot)) value]
      exact hg slot hslot
    · have hvalue := hg slot hslot
      rw [valuesOf_cons_self, gains_cons] at hvalue
      obtain ⟨hunset, hvalues, a, hform, hlast⟩ := hvalue
      have hset : field.isSet draft = false := by rw [hmatch.isSet, hunset]; rfl
      refine .known hsome hset ((hmatch.accepts draft).complete ⟨a, hform, rfl⟩) (ih ?_)
      intro other hother
      by_cases hname : other.name = slot.name
      · obtain rfl := List.inj_on_of_nodup_map h.distinct hother hslot hname
        rw [h.get_set other hother, hvalues, hlast]
        exact .nothing _
      · have hgain := hg other hother
        rw [valuesOf_cons_ne (Ne.symm hname)] at hgain
        rwa [h.get_set_ne slot hslot other hother (Ne.symm hname)]

/-- **The members of a record**, slot by slot: their order does not matter. -/
theorem gathers_iff (h : r.HasSlots slots) :
    Gathers r draft members last ↔ ∀ slot ∈ slots,
      Gains slot.Form (slot.get draft) (valuesOf slot.name members) (slot.get last) :=
  ⟨h.gains_of_gathers, h.gathers_of_gains⟩

end Record.HasSlots

lemma gathersInOrder_nil {values : List (List Char)} :
    GathersInOrder [] draft values last ↔ values = [] ∧ draft = last := by
  constructor
  · rintro (_ | _)
    exact ⟨rfl, rfl⟩
  · rintro ⟨rfl, rfl⟩
    exact .done (by simp) _

lemma Field.Matches.gathersInOrder_cons {field : Field δ} {slot : Slot δ} (h : field.Matches slot)
    {fields : List (Field δ)} {values : List (List Char)} :
    GathersInOrder (field :: fields) draft values last ↔
      (values = [] ∧ draft = last ∧ ∀ f ∈ field :: fields, f.optional = true) ∨
        ∃ v rest a, values = v :: rest ∧ slot.Form v a ∧
          GathersInOrder fields (slot.set a draft) rest last := by
  constructor
  · rintro (⟨hoptional⟩ | ⟨hreads, hrest⟩)
    · exact .inl ⟨rfl, rfl, hoptional⟩
    · obtain ⟨a, hform, rfl⟩ := (h.accepts draft).reads_iff.mp hreads
      exact .inr ⟨_, _, a, rfl, hform, hrest⟩
  · rintro (⟨rfl, rfl, hoptional⟩ | ⟨v, rest, a, rfl, hform, hrest⟩)
    · exact .done hoptional _
    · exact .element ((h.accepts draft).complete ⟨a, hform, rfl⟩) hrest

lemma Field.Matches.gathersInOrder_required {field : Field δ} {slot : Slot δ}
    (h : field.Matches slot) (hr : field.optional = false) {fields : List (Field δ)}
    {values : List (List Char)} :
    GathersInOrder (field :: fields) draft values last ↔
      ∃ v rest a, values = v :: rest ∧ slot.Form v a ∧
        GathersInOrder fields (slot.set a draft) rest last := by
  rw [h.gathersInOrder_cons, or_iff_right]
  rintro ⟨-, -, hoptional⟩
  rw [hoptional field (by simp)] at hr
  cases hr

/-- A list is read as an object is that has the names of the fields as its keys. -/
lemma Record.HasSlots.gathers_of_inOrder (h : r.HasSlots slots) {fields : List (Field δ)}
    {slots' : List (Slot δ)} (hm : List.Forall₂ Field.Matches fields slots')
    (hsub : ∀ slot ∈ slots', slot ∈ slots) (hdistinct : (slots'.map Slot.name).Nodup)
    (hunset : ∀ slot ∈ slots', slot.get draft = none) {values : List (List Char)}
    (hg : GathersInOrder fields draft values last) :
    values.length ≤ fields.length ∧
      Gathers r draft ((fields.map (·.name)).zip values) last := by
  induction hm generalizing draft values with
  | nil =>
    obtain ⟨rfl, rfl⟩ := gathersInOrder_nil.mp hg
    exact ⟨Nat.le_refl 0, .done draft⟩
  | @cons field slot fields slots' hmatch _ ih =>
    obtain ⟨hslot, hslots⟩ := List.forall_mem_cons.mp hsub
    obtain ⟨hnone, hnones⟩ := List.forall_mem_cons.mp hunset
    rw [List.map_cons, List.nodup_cons] at hdistinct
    obtain ⟨rfl, rfl, -⟩ | ⟨v, rest, a, rfl, hform, hrest⟩ := hmatch.gathersInOrder_cons.mp hg
    · exact ⟨Nat.zero_le _, .done draft⟩
    · have hkept : ∀ other ∈ slots', other.get (slot.set a draft) = none := by
        intro other hother
        have hne : slot.name ≠ other.name := fun heq =>
          hdistinct.1 (heq ▸ List.mem_map_of_mem hother)
        rw [h.get_set_ne slot hslot other (hslots other hother) hne, hnones other hother]
      obtain ⟨hlength, hgathers⟩ := ih hslots hdistinct.2 hkept hrest
      refine ⟨by simpa using hlength, ?_⟩
      -- The field that is found under the name is another one at most by its place.
      obtain ⟨-, hnames⟩ | ⟨field', slot', hslot', hfound, hmatch', hname⟩ :=
        find_field_cases h.fields field.name
      · exact absurd hmatch.name.symm (hnames slot hslot)
      · obtain rfl := List.inj_on_of_nodup_map h.distinct hslot' hslot (hname.trans hmatch.name)
        have hset : field'.isSet draft = false := by rw [hmatch'.isSet, hnone]; rfl
        exact .known hfound hset ((hmatch'.accepts draft).complete ⟨a, hform, rfl⟩) hgathers

lemma regular_of_matches {fields : List (Field δ)} (h : List.Forall₂ Field.Matches fields slots)
    (hv : ∀ slot ∈ slots, ∀ {v a}, slot.Form v a → IsValue v) :
    ∀ field ∈ fields, ∀ draft, Regular (field.read draft) := by
  induction h with
  | nil => simp
  | cons hmatch _ ih =>
    obtain ⟨hslot, hslots⟩ := List.forall_mem_cons.mp hv
    refine List.forall_mem_cons.mpr ⟨fun draft => (hmatch.accepts draft).regular ?_, ih hslots⟩
    rintro v next ⟨a, hform, -⟩
    exact hslot hform

end Slots

/-! ### Members -/

/-- The value has these members: it is an object of them, or a list of their values under the names
that are given. -/
def HasMembers (names : List String) (ms : List (String × List Char)) (v : List Char) : Prop :=
  ObjectOf ms v ∨ ∃ vs, ListOf vs v ∧ vs.length ≤ names.length ∧ ms = names.zip vs

/-- The text, up to white space, has these members. -/
def Contents (names : List String) (ms : List (String × List Char)) (text : String) : Prop :=
  ∃ ws v ws', Blank ws ∧ Blank ws' ∧ HasMembers names ms v ∧ text.toList = ws ++ (v ++ ws')

section Members

variable {names : List String} {ms ms' : List (String × List Char)} {text : String}

lemma HasMembers.opens (h : HasMembers names ms v) : Opens v := by
  obtain h | ⟨vs, h, -⟩ := h
  · exact h.opens
  · exact h.opens

/-- **A text has its members in one way**. -/
theorem Contents.unique (h : Contents names ms text) (h' : Contents names ms' text) : ms = ms' := by
  obtain ⟨ws, v, ws₁, hw, -, hv, htext⟩ := h
  obtain ⟨ws', v', ws₁', hw', -, hv', htext'⟩ := h'
  rw [htext] at htext'
  have heq := hw.strip hw' hv.opens hv'.opens htext'
  -- The first character tells an object from a list.
  obtain hv | ⟨vs, hv, -, rfl⟩ := hv <;> obtain hv' | ⟨vs', hv', -, rfl⟩ := hv'
  · exact hv.unique hv' heq
  · cases hv
    cases hv'
    simp at heq
  · cases hv
    cases hv'
    simp at heq
  · rw [hv.unique hv' heq]

/-- A printed object has the members that were given. -/
lemma contents_object {members : List (String × Printer)} (h : ∀ m ∈ members, IsValue (m.2 1)) :
    Contents names (members.map fun m => (m.1, m.2 1)) (Printer.object members).run :=
  ⟨[], _, [], blank_nil, blank_nil, .inl (objectOf_object h), by simp [Printer.run]⟩

/-- A printed list has its elements under the names, as far as they go. -/
lemma contents_list {items : List Printer} (h : ∀ item ∈ items, IsValue (item 1))
    (hlength : items.length ≤ names.length) :
    Contents names (names.zip (items.map (· 1))) (Printer.list items).run :=
  ⟨[], _, [], blank_nil, blank_nil, .inr ⟨_, listOf_list h, by simpa using hlength, rfl⟩,
    by simp [Printer.run]⟩

/-- The members of a record fill its slots. -/
lemma Record.HasSlots.gains_of_recordOf {r : Record δ α} {slots : List (Slot δ)} {a : α}
    (h : r.HasSlots slots) (hblank : ∀ slot ∈ slots, slot.get r.blank = none)
    (hr : RecordOf r v a) :
    ∃ ms last, HasMembers (r.fields.map (·.name)) ms v ∧ r.finish last = .ok a ∧
      ∀ slot ∈ slots, Gains slot.Form none (valuesOf slot.name ms) (slot.get last) := by
  have hgains {ms : List (String × List Char)} {last : δ} (hg : Gathers r r.blank ms last) :
      ∀ slot ∈ slots, Gains slot.Form none (valuesOf slot.name ms) (slot.get last) := by
    intro slot hslot
    rw [← hblank slot hslot]
    exact h.gains_of_gathers hg slot hslot
  cases hr with
  | object hv hg ha => exact ⟨_, _, .inl hv, ha, hgains hg⟩
  | list hv hg ha =>
    obtain ⟨hlength, hg⟩ := h.gathers_of_inOrder h.fields (fun _ => id) h.distinct hblank hg
    exact ⟨_, _, .inr ⟨_, hv, by simpa using hlength, rfl⟩, ha, hgains hg⟩

end Members

end StaticHost.Json
