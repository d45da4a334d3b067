import Mathlib.Data.List.Induction
import Mathlib.Data.List.Nodup
import Mathlib.Tactic.Common
import StaticHost.Markup.Render

/-!
Reading markup back.

A reader goes through a markup text once, from left to right, and reports tags and runs of text as
it meets them; it keeps no stack, so it does not know which tags belong together. Walking along a
tree gives such events too. The main statement is that the two agree on the text of every tree with
plain names: what is in a text or a value never looks like markup, neighbouring texts run together,
and nothing else does.
-/

namespace StaticHost.Markup

/-- A name with a value, or a name alone. -/
abbrev ShownAttribute := String × Option String

inductive Event
  | start (name : String) (attributes : List ShownAttribute)
  | stop (name : String)
  | text (content : String)
  deriving DecidableEq, Repr

def isNameChar (c : Char) : Bool :=
  c.isAlphanum || c == '-'

/-- A text that can stand for a name in a tag. -/
def IsName (s : String) : Prop :=
  s.toList ≠ [] ∧ ∀ c ∈ s.toList, isNameChar c = true

instance (s : String) : Decidable (IsName s) :=
  @instDecidableAnd _ _ inferInstance (List.decidableBAll _ s.toList)

/-- A run of text as an event, if there is anything in it. -/
def textEvent (run : List Char) : List Event :=
  if run = [] then [] else [.text (String.ofList run)]

/-! ### The reader -/

namespace Reader

structure Tag where
  name : List Char
  attributes : List ShownAttribute := []

def Tag.add (t : Tag) (name : List Char) (value : Option (List Char)) : Tag :=
  { t with attributes := t.attributes ++ [(String.ofList name, value.map String.ofList)] }

def Tag.event (t : Tag) : Event :=
  .start (String.ofList t.name) t.attributes

/-- Where characters stand for themselves or are referred to by name. -/
inductive Place
  | text
  | value (tag : Tag) (name : List Char)

/-- Where the reader stands between two characters. -/
inductive State
  /-- In a text or a value, of which `run` was read. -/
  | data (place : Place) (run : List Char)
  /-- In a reference, behind the ampersand and the start of its name. -/
  | reference (place : Place) (run name : List Char)
  /-- Behind `<`. -/
  | tag
  | startName (name : List Char)
  | stopName (name : List Char)
  /-- In the name of an attribute. -/
  | attribute (tag : Tag) (name : List Char)
  /-- Behind an attribute's `=`. -/
  | quote (tag : Tag) (name : List Char)
  /-- Behind an attribute's value. -/
  | behindValue (tag : Tag)

def referent? (name : List Char) : Option Char :=
  if name = ['a', 'm', 'p'] then some '&'
  else if name = ['l', 't'] then some '<'
  else if name = ['g', 't'] then some '>'
  else if name = ['q', 'u', 'o', 't'] then some '"'
  else none

/-- One character inside a start tag, behind its name or an attribute. -/
def stepTag (t : Tag) (c : Char) : Option (List Event × State) :=
  if c = ' ' then some ([], .attribute t [])
  else if c = '>' then some ([t.event], .data .text [])
  else none

/-- One character: the events that it completes, and the state after it. -/
def step : State → Char → Option (List Event × State)
  | .data place run, c =>
    if c = '&' then some ([], .reference place run [])
    else if c = '>' then none
    else match place with
      | .text =>
        if c = '<' then some (textEvent run, .tag) else some ([], .data .text (run ++ [c]))
      | .value t name =>
        if c = '<' then none
        else if c = '"' then some ([], .behindValue (t.add name (some run)))
        else some ([], .data (.value t name) (run ++ [c]))
  | .reference place run name, c =>
    if c = ';' then (referent? name).map fun r => ([], .data place (run ++ [r]))
    else some ([], .reference place run (name ++ [c]))
  | .tag, c =>
    if isNameChar c then some ([], .startName [c])
    else if c = '/' then some ([], .stopName [])
    else none
  | .startName name, c =>
    if isNameChar c then some ([], .startName (name ++ [c])) else stepTag ⟨name, []⟩ c
  | .stopName name, c =>
    if isNameChar c then some ([], .stopName (name ++ [c]))
    else if c = '>' ∧ name ≠ [] then some ([.stop (String.ofList name)], .data .text [])
    else none
  | .attribute t name, c =>
    if isNameChar c then some ([], .attribute t (name ++ [c]))
    else if c = '=' ∧ name ≠ [] then some ([], .quote t name)
    -- only this attribute may do without a value
    else if name = "checked".toList then stepTag (t.add name none) c
    else none
  | .quote t name, c => if c = '"' then some ([], .data (.value t name) []) else none
  | .behindValue t, c => stepTag t c

/-- The events of a text, read from a state. A text may not end inside a tag or a reference. -/
def run : State → List Char → Option (List Event)
  | .data .text run, [] => some (textEvent run)
  | _, [] => none
  | s, c :: rest => (step s c).bind fun (out, s) => (run s rest).map (out ++ ·)

end Reader

def read (text : String) : Option (List Event) :=
  Reader.run (.data .text []) text.toList

/-! ### Walking along a tree -/

def IsNamed (tag name : String) : Prop :=
  tag.toList.map Char.toLower = name.toList

instance (tag name : String) : Decidable (IsNamed tag name) :=
  inferInstanceAs (Decidable (_ = _))

/-- The attributes that an element shows: every name once, in the order of first mention, with the
value mentioned last. -/
def shownAttributes (attributes : List Attribute) : List ShownAttribute :=
  (attributes.map (·.1)).eraseDups.map fun name => (name, attributes.reverse.lookup name)

def shownControl (control : Control) : List ShownAttribute :=
  (match control.value with
    | some value => [("value", some value)]
    | none => []) ++
  if control.checked then [("checked", none)] else []

def elementEvents (tag : String) (attributes : List Attribute) (control : Control)
    (inside : List Event) : List Event :=
  if IsNamed tag "input" then
    [.start "input" (shownControl control ++ shownAttributes attributes)]
  else if IsNamed tag "textarea" then
    [.start "textarea" (shownAttributes attributes), .text (control.value.getD ""),
      .stop "textarea"]
  else if tag ∈ voidTags then [.start tag (shownAttributes attributes)]
  else .start tag (shownAttributes attributes) :: inside ++ [.stop tag]

/-- The events along a tree, one for each text in it. -/
def Node.walk : Node → List Event
  | .empty => []
  | .text s => [.text s]
  | .append first second => first.walk ++ second.walk
  | .element tag attributes control children =>
    elementEvents tag attributes control children.walk

/-- Events with neighbouring texts joined and empty ones left out, behind a run of text. -/
def joinFrom : List Char → List Event → List Event
  | run, [] => textEvent run
  | run, .text s :: rest => joinFrom (run ++ s.toList) rest
  | run, .start name attributes :: rest =>
    textEvent run ++ .start name attributes :: joinFrom [] rest
  | run, .stop name :: rest => textEvent run ++ .stop name :: joinFrom [] rest

/-- Events with neighbouring texts joined and empty ones left out. -/
def joinTexts (events : List Event) : List Event :=
  joinFrom [] events

/-- A tag that is written as it is and whose text is ordinary. -/
def IsPlainTag (tag : String) : Prop :=
  IsName tag ∧ ¬ IsNamed tag "script" ∧ ¬ IsNamed tag "style"

instance (tag : String) : Decidable (IsPlainTag tag) :=
  inferInstanceAs (Decidable (_ ∧ _))

def Node.WellNamed : Node → Prop
  | .empty | .text _ => True
  | .append first second => first.WellNamed ∧ second.WellNamed
  | .element tag attributes _ children =>
    IsPlainTag tag ∧ (∀ a ∈ attributes, IsName a.1) ∧ children.WellNamed

instance Node.decidableWellNamed : (n : Node) → Decidable n.WellNamed
  | .empty | .text _ => .isTrue trivial
  | .append first second =>
    @instDecidableAnd _ _ (decidableWellNamed first) (decidableWellNamed second)
  | .element _ _ _ children =>
    @instDecidableAnd _ _ inferInstance
      (@instDecidableAnd _ _ inferInstance (decidableWellNamed children))

/-- What the name of an element says, in the words of the walk. -/
lemma TagKind.ofName_eq (tag : String) :
    TagKind.ofName tag =
      if IsNamed tag "input" then .input
      else if IsNamed tag "textarea" then .textarea
      else if tag ∈ voidTags then .void
      else if IsNamed tag "script" then .container .script
      else if IsNamed tag "style" then .container .style
      else .container .ordinary := by
  simp only [TagKind.ofName, List.contains_iff_mem]
  rfl

/-! ### Attributes -/

lemma map_fst_setAttribute (l : List Attribute) (a : Attribute) :
    (setAttribute l a).map (·.1) =
      if a.1 ∈ l.map (·.1) then l.map (·.1) else l.map (·.1) ++ [a.1] := by
  induction l with
  | nil => simp [setAttribute]
  | cons b l ih =>
    rw [setAttribute]
    by_cases hb : b.1 = a.1
    · simp [hb]
    · have hb' : ¬ a.1 = b.1 := fun h => hb h.symm
      rw [if_neg hb, List.map_cons, ih]
      by_cases hl : a.1 ∈ l.map (·.1) <;> simp [hl, hb']

/-- Where names are distinct, an attribute that is set replaces the one of its name. -/
lemma mem_setAttribute {l : List Attribute} (hl : (l.map (·.1)).Nodup) {a b : Attribute}
    (h : b ∈ setAttribute l a) : b = a ∨ b ∈ l ∧ b.1 ≠ a.1 := by
  induction l with
  | nil => exact .inl (by simpa [setAttribute] using h)
  | cons c l ih =>
    rw [List.map_cons, List.nodup_cons] at hl
    rw [setAttribute] at h
    split_ifs at h with hc
    · rcases List.mem_cons.mp h with rfl | hb
      · exact .inl rfl
      · refine .inr ⟨List.mem_cons_of_mem _ hb, fun hba => hl.1 ?_⟩
        rw [hc, ← hba]
        exact List.mem_map_of_mem hb
    · rcases List.mem_cons.mp h with rfl | hb
      · exact .inr ⟨List.mem_cons_self, hc⟩
      · exact (ih hl.2 hb).imp id fun ⟨hmem, hne⟩ => ⟨List.mem_cons_of_mem _ hmem, hne⟩

lemma mergeAttributes_concat (l : List Attribute) (a : Attribute) :
    mergeAttributes (l ++ [a]) = setAttribute (mergeAttributes l) a := by
  simp [mergeAttributes]

/-- Merged attributes have distinct names, in the order of first mention, and the values mentioned
last. -/
lemma mergeAttributes_spec (l : List Attribute) :
    (mergeAttributes l).map (·.1) = (l.map (·.1)).eraseDups ∧
      ((mergeAttributes l).map (·.1)).Nodup ∧
      ∀ a ∈ mergeAttributes l, l.reverse.lookup a.1 = some a.2 := by
  -- from the right end, as a later mention changes what came before
  induction l using List.reverseRecOn with
  | nil => simp [mergeAttributes]
  | append_singleton l a ih =>
    obtain ⟨hnames, hnodup, hvalues⟩ := ih
    have hmem : a.1 ∈ (mergeAttributes l).map (·.1) ↔ a.1 ∈ l.map (·.1) := by
      rw [hnames, List.mem_eraseDups]
    have hset := map_fst_setAttribute (mergeAttributes l) a
    rw [mergeAttributes_concat, hset]
    refine ⟨?_, ?_, fun b hb => ?_⟩
    · rw [List.map_append, List.map_singleton, List.eraseDups_append, ← hnames]
      by_cases h : a.1 ∈ l.map (·.1)
      · rw [if_pos (hmem.mpr h)]
        simp [List.removeAll, h]
      · rw [if_neg (mt hmem.mp h)]
        simp [List.removeAll, List.eraseDups_cons, h]
    · split_ifs with h
      · exact hnodup
      · simpa using hnodup.concat h
    · rw [List.reverse_append, List.reverse_singleton, List.singleton_append, List.lookup_cons]
      rcases mem_setAttribute hnodup hb with rfl | ⟨hold, hne⟩
      · simp
      · rw [beq_eq_false_iff_ne.mpr hne]
        exact hvalues b hold

/-- How an attribute is written that has a value or has none. -/
def renderShown : ShownAttribute → List Char
  | (name, some value) => renderAttribute (name, value)
  | (name, none) => ' ' :: name.toList

lemma renderAttributes_eq (attributes : List Attribute) :
    renderAttributes attributes = (shownAttributes attributes).flatMap renderShown := by
  obtain ⟨hnames, -, hvalues⟩ := mergeAttributes_spec attributes
  rw [renderAttributes, shownAttributes, ← hnames, List.map_map, List.flatMap_map]
  refine List.flatMap_congr fun a ha => ?_
  simp [hvalues a ha, renderShown]

lemma renderControl_eq (control : Control) :
    renderControl control = (shownControl control).flatMap renderShown := by
  obtain ⟨value, checked⟩ := control
  cases value <;> cases checked <;> simp [renderControl, shownControl, renderShown]

/-- An attribute that a reader understands: only `checked` may stand without a value. -/
def IsReadable (a : ShownAttribute) : Prop :=
  IsName a.1 ∧ (a.2 = none → a.1 = "checked")

lemma isReadable_shownAttributes {attributes : List Attribute}
    (h : ∀ a ∈ attributes, IsName a.1) : ∀ a ∈ shownAttributes attributes, IsReadable a := by
  intro a ha
  obtain ⟨name, hname, rfl⟩ := List.mem_map.mp ha
  obtain ⟨b, hb, rfl⟩ := List.mem_map.mp (List.mem_eraseDups.mp hname)
  refine ⟨h b hb, fun hnone => ?_⟩
  have hfound : attributes.reverse.lookup b.1 ≠ none := by
    rw [ne_eq, List.lookup_eq_none_iff]
    exact fun hall => by simpa using hall b (List.mem_reverse.mpr hb)
  exact absurd hnone hfound

lemma isReadable_shownControl (control : Control) :
    ∀ a ∈ shownControl control, IsReadable a := by
  have hvalue : ∀ v : String, IsReadable ("value", some v) :=
    fun v => ⟨(by decide : IsName "value"), fun h => nomatch h⟩
  have hchecked : IsReadable ("checked", none) := ⟨by decide, fun _ => rfl⟩
  obtain ⟨value, checked⟩ := control
  cases value <;> cases checked <;> simp [shownControl, hvalue, hchecked]

/-! ### Reading what was written -/

namespace Reader

variable {s s' : State} {c : Char} {t : Tag} {rest : List Char}

lemma run_cons (s : State) (c : Char) (rest : List Char) :
    run s (c :: rest) = (step s c).bind fun (out, s) => (run s rest).map (out ++ ·) := by
  rcases s with ⟨⟨⟩, _⟩ | _ | _ | _ | _ | _ | _ | _ <;> rfl

/-- A character that completes no event. -/
lemma run_silent (s' : State) (h : step s c = some ([], s')) (rest : List Char) :
    run s (c :: rest) = run s' rest := by
  rw [run_cons, h, Option.bind_some]
  simp

lemma run_emit (out : List Event) (s' : State) (h : step s c = some (out, s'))
    (rest : List Char) :
    run s (c :: rest) = (run s' rest).map (out ++ ·) := by
  rw [run_cons, h, Option.bind_some]

/-- **Collecting**: where each character of a text is read into a run, the text is. -/
lemma run_flatMap {f : List Char → State} {e : Char → List Char} {l : List Char}
    (h : ∀ c ∈ l, ∀ r rest, run (f r) (e c ++ rest) = run (f (r ++ [c])) rest)
    (r rest : List Char) : run (f r) (l.flatMap e ++ rest) = run (f (r ++ l)) rest := by
  induction l generalizing r with
  | nil => simp
  | cons c l ih =>
    rw [List.flatMap_cons, List.append_assoc, h c (by simp),
      ih fun c hc => h c (List.mem_cons_of_mem _ hc)]
    simp

lemma run_name (f : List Char → State)
    (hf : ∀ r c, isNameChar c = true → step (f r) c = some ([], f (r ++ [c])))
    {name : List Char} (hname : ∀ c ∈ name, isNameChar c = true) (r rest : List Char) :
    run (f r) (name ++ rest) = run (f (r ++ name)) rest := by
  have h := run_flatMap (f := f) (e := fun c => [c])
    (fun c hc r rest => run_silent _ (hf r c (hname c hc)) rest) r rest
  simpa using h

/-- A reference is read as the character that it stands for. -/
lemma run_reference {name : List Char} {c : Char} (h : referent? name = some c)
    (hname : ';' ∉ name) (place : Place) (r rest : List Char) :
    run (.data place r) ('&' :: (name ++ ';' :: rest)) = run (.data place (r ++ [c])) rest := by
  have hread : ∀ seen, run (.reference place r seen) (name ++ ';' :: rest) =
      run (.reference place r (seen ++ name)) (';' :: rest) := by
    intro seen
    have hc := run_flatMap (f := .reference place r) (e := fun c => [c]) (l := name)
      (fun c hc r' rest => run_silent _ (by simp [step, ne_of_mem_of_not_mem hc hname]) rest)
      seen (';' :: rest)
    simpa using hc
  rw [run_silent (.reference place r []) (by simp [step]), hread]
  exact run_silent _ (by simp [step, h]) rest

lemma escapeTextChar_cases (c : Char) :
    (∃ name, referent? name = some c ∧ ';' ∉ name ∧ escapeTextChar c = '&' :: (name ++ [';'])) ∨
      (c ≠ '&' ∧ c ≠ '<' ∧ c ≠ '>') ∧ escapeTextChar c = [c] := by
  unfold escapeTextChar
  split_ifs with h1 h2 h3
  · exact .inl ⟨['a', 'm', 'p'], by simp [referent?, h1], by decide, rfl⟩
  · exact .inl ⟨['l', 't'], by simp [referent?, h2], by decide, rfl⟩
  · exact .inl ⟨['g', 't'], by simp [referent?, h3], by decide, rfl⟩
  · exact .inr ⟨⟨h1, h2, h3⟩, rfl⟩

lemma run_escapeTextChar {place : Place} {c : Char} (hplace : place = .text ∨ c ≠ '"')
    (r rest : List Char) :
    run (.data place r) (escapeTextChar c ++ rest) = run (.data place (r ++ [c])) rest := by
  rcases escapeTextChar_cases c with ⟨name, hname, hend, he⟩ | ⟨⟨h1, h2, h3⟩, he⟩
  · rw [he, ← run_reference hname hend place r rest]
    simp
  · rw [he]
    refine run_silent _ ?_ rest
    cases place with
    | text => simp [step, h1, h2, h3]
    | value t name => simp [step, h1, h2, h3, hplace.resolve_left (by simp)]

/-- **Text** is read as it was before it was written. -/
lemma run_escapeText (l r rest : List Char) :
    run (.data .text r) (escapeText l ++ rest) = run (.data .text (r ++ l)) rest :=
  run_flatMap (fun _ _ => run_escapeTextChar (.inl rfl)) r rest

/-- **A value** is read as it was before it was written. -/
lemma run_escapeValue (t : Tag) (name l r rest : List Char) :
    run (.data (.value t name) r) (escapeValue l ++ rest) =
      run (.data (.value t name) (r ++ l)) rest := by
  refine run_flatMap (fun c _ r rest => ?_) r rest
  rw [escapeValueChar]
  split_ifs with hc
  · have hname : referent? ['q', 'u', 'o', 't'] = some c := by simp [referent?, hc]
    exact run_reference hname (by decide) _ r rest
  · exact run_escapeTextChar (.inr hc) r rest

/-- The state in which a start tag is complete so far. -/
def Behind (s : State) (t : Tag) : Prop :=
  ∀ c, isNameChar c = false → c ≠ '=' → step s c = stepTag t c

lemma Behind.run_attribute (h : Behind s t) (a : ShownAttribute) (ha : IsReadable a) :
    ∃ s', Behind s' { t with attributes := t.attributes ++ [a] } ∧
      ∀ rest, run s (renderShown a ++ rest) = run s' rest := by
  obtain ⟨name, value⟩ := a
  obtain ⟨⟨hne, hchars⟩, hbare⟩ := ha
  have hspace : ∀ rest,
      run s (' ' :: (name.toList ++ rest)) = run (.attribute t name.toList) rest := by
    intro rest
    rw [run_silent (.attribute t []) (by rw [h _ (by decide) (by decide)]; rfl)]
    exact run_name (.attribute t) (fun r c hc => by simp [step, hc]) hchars [] rest
  cases value with
  | none =>
    obtain rfl : name = "checked" := hbare rfl
    refine ⟨.attribute t "checked".toList, fun c hc heq => ?_, fun rest => hspace rest⟩
    simp [step, hc, heq, Tag.add]
  | some value =>
    refine ⟨.behindValue (t.add name.toList (some value.toList)), fun c _ _ => ?_, fun rest => ?_⟩
    · simp [step, Tag.add]
    · have heq : isNameChar '=' = false := by decide
      rw [renderShown, renderAttribute]
      simp only [List.cons_append, List.append_assoc, List.nil_append]
      rw [hspace, run_silent (.quote t name.toList) (by simp [step, heq, hne]),
        run_silent (.data (.value t name.toList) []) (by simp [step]), run_escapeValue]
      exact run_silent _ (by simp [step]) rest

lemma Behind.run_attributes (h : Behind s t) (l : List ShownAttribute)
    (hl : ∀ a ∈ l, IsReadable a) :
    ∃ s', Behind s' { t with attributes := t.attributes ++ l } ∧
      ∀ rest, run s (l.flatMap renderShown ++ rest) = run s' rest := by
  induction l generalizing s t with
  | nil => exact ⟨s, by simpa using h, fun rest => by simp⟩
  | cons a l ih =>
    obtain ⟨s₁, hs₁, hrun₁⟩ := h.run_attribute a (hl a (by simp))
    obtain ⟨s₂, hs₂, hrun₂⟩ := ih hs₁ fun b hb => hl b (List.mem_cons_of_mem _ hb)
    refine ⟨s₂, by simpa using hs₂, fun rest => ?_⟩
    rw [List.flatMap_cons, List.append_assoc, hrun₁, hrun₂]

/-- **A start tag** ends the run of text before it. -/
lemma run_startTag {name : String} (hname : IsName name) {l : List ShownAttribute}
    (hl : ∀ a ∈ l, IsReadable a) (r rest : List Char) :
    run (.data .text r) (startTag name.toList (l.flatMap renderShown) ++ rest) =
      (run (.data .text []) rest).map (textEvent r ++ .start name l :: ·) := by
  obtain ⟨hne, hchars⟩ := hname
  obtain ⟨c, cs, hcons⟩ := List.exists_cons_of_ne_nil hne
  have hc : isNameChar c = true := hchars c (by simp [hcons])
  have hbehind : Behind (.startName name.toList) ⟨name.toList, []⟩ := by
    intro c hc _
    simp [step, hc]
  obtain ⟨s', hs', hrun⟩ := hbehind.run_attributes l hl
  have hopen : ∀ rest, run (.data .text r) ('<' :: (name.toList ++ rest)) =
      (run (.startName name.toList) rest).map (textEvent r ++ ·) := by
    intro rest
    rw [run_emit (textEvent r) .tag (by simp [step]), hcons, List.cons_append,
      run_silent (.startName [c]) (by simp [step, hc]),
      run_name .startName (fun r c hc => by simp [step, hc])
        (fun d hd => hchars d (by simp [hcons, hd]))]
    rfl
  have hclose : step s' '>' =
      some ([.start name l], .data .text []) := by
    rw [hs' _ (by decide) (by decide)]
    simp [stepTag, Tag.event]
  rw [startTag]
  simp only [List.cons_append, List.append_assoc, List.nil_append]
  rw [hopen, hrun, run_emit _ _ hclose, Option.map_map]
  rfl

/-- **An end tag** ends the run of text before it. -/
lemma run_endTag {name : String} (hname : IsName name) (r rest : List Char) :
    run (.data .text r) (endTag name.toList ++ rest) =
      (run (.data .text []) rest).map (textEvent r ++ .stop name :: ·) := by
  obtain ⟨hne, hchars⟩ := hname
  have hslash : isNameChar '/' = false := by decide
  have hgt : isNameChar '>' = false := by decide
  rw [endTag]
  simp only [List.cons_append, List.append_assoc, List.nil_append]
  rw [run_emit (textEvent r) .tag (by simp [step]),
    run_silent (.stopName []) (by simp [step, hslash]),
    run_name .stopName (fun r c hc => by simp [step, hc]) hchars,
    run_emit [.stop name] (.data .text []) (by simp [step, hgt, hne]),
    Option.map_map]
  rfl

/-- The text reads as these events, whatever text comes before it. -/
def ReadsAs (rest : List Char) (events : List Event) : Prop :=
  ∀ r, run (.data .text r) rest = some (joinFrom r events)

variable {events : List Event}

lemma readsAs_nil : ReadsAs [] [] := fun _ => rfl

lemma ReadsAs.text (h : ReadsAs rest events) (s : String) :
    ReadsAs (escapeText s.toList ++ rest) (.text s :: events) := fun r => by
  rw [run_escapeText, h, joinFrom]

lemma ReadsAs.start (h : ReadsAs rest events) {name : String} (hname : IsName name)
    {l : List ShownAttribute} (hl : ∀ a ∈ l, IsReadable a) :
    ReadsAs (startTag name.toList (l.flatMap renderShown) ++ rest) (.start name l :: events) :=
  fun r => by rw [run_startTag hname hl, h, joinFrom, Option.map_some]

lemma ReadsAs.stop (h : ReadsAs rest events) {name : String} (hname : IsName name) :
    ReadsAs (endTag name.toList ++ rest) (.stop name :: events) := fun r => by
  rw [run_endTag hname, h, joinFrom, Option.map_some]

end Reader

open Reader in
/-- **A tree**, written where ordinary text stands, reads as the events along it. -/
theorem Reader.ReadsAs.node {n : Node} (hn : n.WellNamed) {rest : List Char} {events : List Event}
    (h : ReadsAs rest events) : ReadsAs (n.renderIn .ordinary ++ rest) (n.walk ++ events) := by
  induction n generalizing rest events with
  | empty => exact h
  | text s => exact h.text s
  | append first second ih₁ ih₂ =>
    rw [Node.renderIn, Node.walk, List.append_assoc, List.append_assoc]
    exact ih₁ hn.1 (ih₂ hn.2 h)
  | element tag attributes control children ih =>
    obtain ⟨⟨hname, hscript, hstyle⟩, hattributes, hchildren⟩ := hn
    have hreadable := isReadable_shownAttributes hattributes
    rw [Node.renderIn, Node.walk, elementEvents, TagKind.ofName_eq]
    simp only [renderAttributes_eq, renderControl_eq, ← List.flatMap_append]
    -- the kinds of element in the order of the renderer: each writes its children in its own way
    by_cases hinput : IsNamed tag "input"
    · rw [if_pos hinput, if_pos hinput]
      refine h.start (by decide) fun a ha => ?_
      exact (List.mem_append.mp ha).elim (isReadable_shownControl control a) (hreadable a)
    · rw [if_neg hinput, if_neg hinput]
      by_cases htextarea : IsNamed tag "textarea"
      · rw [if_pos htextarea, if_pos htextarea]
        simp only [List.append_assoc]
        exact ((h.stop (by decide)).text _).start (by decide) hreadable
      · rw [if_neg htextarea, if_neg htextarea]
        by_cases hvoid : tag ∈ voidTags
        · rw [if_pos hvoid, if_pos hvoid]
          exact h.start hname hreadable
        · rw [if_neg hvoid, if_neg hvoid, if_neg hscript, if_neg hstyle]
          simp only [List.append_assoc, List.cons_append, List.nil_append]
          exact (ih hchildren (h.stop hname)).start hname hreadable

end StaticHost.Markup
