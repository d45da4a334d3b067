import Mathlib.Data.List.Perm.Basic
import StaticHost.Settings
import StaticHost.Proofs.JsonDrafts

/-!
Which texts hold settings.

`GivenBy` says what the members of an object have to be, and `GivenInOrder` the same for the
elements of a list. Both look at the values of the four fields only, so what is decoded depends on
these values and on nothing else in the text.
-/

namespace StaticHost.Settings

open Json

variable {text text' : String} {s : Settings} {ms ms' : List (String × List Char)}

/-- The members give these settings: every field once, as a string or a boolean. Only
`write_manifest` may be absent, and then it is on. -/
structure GivenBy (ms : List (String × List Char)) (s : Settings) : Prop where
  outputDirectory : ∃ v, valuesOf "output_directory" ms = [v] ∧ TextOf v s.outputDirectory
  basePath : ∃ v, valuesOf "base_path" ms = [v] ∧ TextOf v s.basePath
  debugLogs : ∃ v, valuesOf "debug_logs" ms = [v] ∧ FlagOf v s.debugLogs
  writeManifest : (valuesOf "write_manifest" ms = [] ∧ s.writeManifest = true) ∨
    ∃ v, valuesOf "write_manifest" ms = [v] ∧ FlagOf v s.writeManifest

/-- The elements give these settings: two strings, a boolean and, if it is there, another one. The
last is on if it is absent. -/
inductive GivenInOrder : List (List Char) → Settings → Prop
  | three {v₁ v₂ v₃ : List Char} {outputDirectory basePath : String} {debugLogs : Bool}
      (h₁ : TextOf v₁ outputDirectory) (h₂ : TextOf v₂ basePath) (h₃ : FlagOf v₃ debugLogs) :
      GivenInOrder [v₁, v₂, v₃] ⟨outputDirectory, basePath, debugLogs, true⟩
  | four {v₁ v₂ v₃ v₄ : List Char} {outputDirectory basePath : String}
      {debugLogs writeManifest : Bool} (h₁ : TextOf v₁ outputDirectory) (h₂ : TextOf v₂ basePath)
      (h₃ : FlagOf v₃ debugLogs) (h₄ : FlagOf v₄ writeManifest) :
      GivenInOrder [v₁, v₂, v₃, v₄] ⟨outputDirectory, basePath, debugLogs, writeManifest⟩

/-! ### The draft -/

def slots : List (Slot Draft) := [
  { name := "output_directory", Value := String, get := (·.outputDirectory)
    set := fun x d => { d with outputDirectory := some x }, Form := TextOf },
  { name := "base_path", Value := String, get := (·.basePath)
    set := fun x d => { d with basePath := some x }, Form := TextOf },
  { name := "debug_logs", Value := Bool, get := (·.debugLogs)
    set := fun x d => { d with debugLogs := some x }, Form := FlagOf },
  { name := "write_manifest", Value := Bool, get := (·.writeManifest)
    set := fun x d => { d with writeManifest := some x }, Form := FlagOf }]

lemma fields_match : List.Forall₂ Field.Matches record.fields slots :=
  .cons ⟨rfl, fun _ => rfl,
    fun d => accepts_text.map fun x => { d with outputDirectory := some x }⟩ <|
  .cons ⟨rfl, fun _ => rfl, fun d => accepts_text.map fun x => { d with basePath := some x }⟩ <|
  .cons ⟨rfl, fun _ => rfl, fun d => accepts_flag.map fun x => { d with debugLogs := some x }⟩ <|
  .cons ⟨rfl, fun _ => rfl, fun d => accepts_flag.map fun x => { d with writeManifest := some x }⟩
  .nil

lemma hasSlots : record.HasSlots slots where
  fields := fields_match
  distinct := by decide
  get_set := by simp [slots]
  get_set_ne := by simp [slots]
  ext := by
    rintro ⟨o, b, g, m⟩ ⟨o', b', g', m'⟩ h
    simpa [slots] using h

lemma finish_eq_ok_iff {d : Draft} :
    record.finish d = .ok s ↔ d.outputDirectory = some s.outputDirectory ∧
      d.basePath = some s.basePath ∧ d.debugLogs = some s.debugLogs ∧
      d.writeManifest.getD true = s.writeManifest := by
  obtain ⟨_ | o, _ | b, _ | g, m⟩ := d
  all_goals
    obtain ⟨o', b', g', m'⟩ := s
    simp [record, required, bind, Except.bind, pure, Except.pure]

/-! ### Objects -/

lemma gathers_iff {last : Draft} :
    Gathers record record.blank ms last ↔
      Gains TextOf none (valuesOf "output_directory" ms) last.outputDirectory ∧
      Gains TextOf none (valuesOf "base_path" ms) last.basePath ∧
      Gains FlagOf none (valuesOf "debug_logs" ms) last.debugLogs ∧
      Gains FlagOf none (valuesOf "write_manifest" ms) last.writeManifest := by
  rw [hasSlots.gathers_iff]
  simp [slots, record]

lemma exists_gathers_iff :
    (∃ last, Gathers record record.blank ms last ∧ record.finish last = .ok s) ↔ GivenBy ms s := by
  simp only [gathers_iff, finish_eq_ok_iff]
  constructor
  · rintro ⟨last, ⟨ho, hb, hg, hm⟩, hlo, hlb, hlg, hlm⟩
    rw [hlo, gains_some_iff] at ho
    rw [hlb, gains_some_iff] at hb
    rw [hlg, gains_some_iff] at hg
    refine ⟨ho, hb, hg, ?_⟩
    obtain ⟨hnone, hm⟩ | ⟨v, b, hone, hv, hm⟩ := gains_none_iff.mp hm
    · rw [hm] at hlm
      exact .inl ⟨hnone, hlm.symm⟩
    · rw [hm] at hlm
      exact .inr ⟨v, hone, hlm ▸ hv⟩
  · rintro ⟨ho, hb, hg, hm⟩
    have hm' : ∃ m, Gains FlagOf none (valuesOf "write_manifest" ms) m ∧
        m.getD true = s.writeManifest := by
      obtain ⟨hnone, hm⟩ | hm := hm
      · exact ⟨none, by rw [hnone, gains_nil], hm.symm⟩
      · exact ⟨some _, gains_some_iff.mpr hm, rfl⟩
    obtain ⟨m, hm, hlm⟩ := hm'
    refine ⟨⟨some s.outputDirectory, some s.basePath, some s.debugLogs, m⟩, ?_, rfl, rfl, rfl, hlm⟩
    exact ⟨gains_some_iff.mpr ho, gains_some_iff.mpr hb, gains_some_iff.mpr hg, hm⟩

/-! ### Lists -/

lemma exists_gathersInOrder_iff {vs : List (List Char)} :
    (∃ last, GathersInOrder record.fields record.blank vs last ∧ record.finish last = .ok s) ↔
      GivenInOrder vs s := by
  obtain - | ⟨ho, - | ⟨hb, - | ⟨hg, - | ⟨hm, -⟩⟩⟩⟩ := fields_match
  constructor
  · rintro ⟨last, hrest, hfinish⟩
    obtain ⟨v₁, _, o, rfl, h₁, hrest⟩ := (ho.gathersInOrder_required rfl).mp hrest
    obtain ⟨v₂, _, b, rfl, h₂, hrest⟩ := (hb.gathersInOrder_required rfl).mp hrest
    obtain ⟨v₃, _, g, rfl, h₃, hrest⟩ := (hg.gathersInOrder_required rfl).mp hrest
    -- the last value may be left out
    obtain ⟨rfl, rfl, -⟩ | ⟨v₄, _, m, rfl, h₄, hrest⟩ := hm.gathersInOrder_cons.mp hrest
    · cases hfinish
      exact .three h₁ h₂ h₃
    · obtain ⟨rfl, rfl⟩ := gathersInOrder_nil.mp hrest
      cases hfinish
      exact .four h₁ h₂ h₃ h₄
  · rintro (@⟨v₁, v₂, v₃, o, b, g, h₁, h₂, h₃⟩ | @⟨v₁, v₂, v₃, v₄, o, b, g, m, h₁, h₂, h₃, h₄⟩)
    · refine ⟨⟨some o, some b, some g, none⟩, ?_, rfl⟩
      refine (ho.gathersInOrder_required rfl).mpr ⟨_, _, _, rfl, h₁, ?_⟩
      refine (hb.gathersInOrder_required rfl).mpr ⟨_, _, _, rfl, h₂, ?_⟩
      refine (hg.gathersInOrder_required rfl).mpr ⟨_, _, _, rfl, h₃, ?_⟩
      exact hm.gathersInOrder_cons.mpr (.inl ⟨rfl, rfl, by simp⟩)
    · refine ⟨⟨some o, some b, some g, some m⟩, ?_, rfl⟩
      refine (ho.gathersInOrder_required rfl).mpr ⟨_, _, _, rfl, h₁, ?_⟩
      refine (hb.gathersInOrder_required rfl).mpr ⟨_, _, _, rfl, h₂, ?_⟩
      refine (hg.gathersInOrder_required rfl).mpr ⟨_, _, _, rfl, h₃, ?_⟩
      refine hm.gathersInOrder_cons.mpr (.inr ⟨_, _, _, rfl, h₄, ?_⟩)
      exact gathersInOrder_nil.mpr ⟨rfl, rfl⟩

/-! ### Whole texts -/

lemma accepts : Accepts record.read (RecordOf record) := by
  refine Record.accepts (regular_of_matches fields_match ?_)
  simp only [slots, List.forall_mem_cons]
  exact ⟨TextOf.isValue, TextOf.isValue, .flag, .flag, by simp⟩

lemma recordOf_iff {v : List Char} :
    RecordOf record v s ↔
      (∃ ms, ObjectOf ms v ∧ GivenBy ms s) ∨ ∃ vs, ListOf vs v ∧ GivenInOrder vs s := by
  simp only [← exists_gathers_iff, ← exists_gathersInOrder_iff]
  constructor
  · rintro (⟨hv, hg, hf⟩ | ⟨hv, hg, hf⟩)
    · exact .inl ⟨_, hv, _, hg, hf⟩
    · exact .inr ⟨_, hv, _, hg, hf⟩
  · rintro (⟨ms, hv, last, hg, hf⟩ | ⟨vs, hv, last, hg, hf⟩)
    · exact .object hv hg hf
    · exact .list hv hg hf

def fieldNames : List String := record.fields.map (·.name)

/-- A list gives what an object does that has the names of the fields as its keys. -/
lemma givenInOrder_iff {vs : List (List Char)} :
    GivenInOrder vs s ↔ vs.length ≤ fieldNames.length ∧ GivenBy (fieldNames.zip vs) s := by
  have hnames : fieldNames =
      ["output_directory", "base_path", "debug_logs", "write_manifest"] := rfl
  rw [hnames]
  constructor
  · rintro (⟨h₁, h₂, h₃⟩ | ⟨h₁, h₂, h₃, h₄⟩)
    · exact ⟨by simp, ⟨_, rfl, h₁⟩, ⟨_, rfl, h₂⟩, ⟨_, rfl, h₃⟩, .inl ⟨rfl, rfl⟩⟩
    · exact ⟨by simp, ⟨_, rfl, h₁⟩, ⟨_, rfl, h₂⟩, ⟨_, rfl, h₃⟩, .inr ⟨_, rfl, h₄⟩⟩
  · rintro ⟨hlength, ⟨_, ho, h₁⟩, ⟨_, hb, h₂⟩, ⟨_, hg, h₃⟩, hm⟩
    -- three values are needed, and there are names for four
    match vs, hlength with
    | [], _ => cases ho
    | [v₁], _ => cases hb
    | [v₁, v₂], _ => cases hg
    | [v₁, v₂, v₃], _ =>
      cases ho
      cases hb
      cases hg
      obtain ⟨-, hm⟩ | ⟨_, hm, -⟩ := hm
      · obtain ⟨o, b, g, m⟩ := s
        cases hm
        exact .three h₁ h₂ h₃
      · cases hm
    | [v₁, v₂, v₃, v₄], _ =>
      cases ho
      cases hb
      cases hg
      obtain ⟨hm, -⟩ | ⟨_, hm, h₄⟩ := hm
      · cases hm
      · cases hm
        exact .four h₁ h₂ h₃ h₄

/-! ### What the result depends on -/

lemma recordOf_iff_hasMembers {v : List Char} :
    RecordOf record v s ↔ ∃ ms, HasMembers fieldNames ms v ∧ GivenBy ms s := by
  rw [recordOf_iff]
  constructor
  · rintro (⟨ms, hv, hg⟩ | ⟨vs, hv, hg⟩)
    · exact ⟨ms, .inl hv, hg⟩
    · obtain ⟨hlength, hg⟩ := givenInOrder_iff.mp hg
      exact ⟨_, .inr ⟨vs, hv, hlength, rfl⟩, hg⟩
  · rintro ⟨ms, hv | ⟨vs, hv, hlength, rfl⟩, hg⟩
    · exact .inl ⟨ms, hv, hg⟩
    · exact .inr ⟨vs, hv, givenInOrder_iff.mpr ⟨hlength, hg⟩⟩

lemma ofJson_iff_givenBy (h : Contents fieldNames ms text) :
    ofJson text = .ok s ↔ GivenBy ms s := by
  rw [ofJson, accepts.decode_eq_ok_iff]
  simp only [recordOf_iff_hasMembers]
  constructor
  · rintro ⟨ws, v, ws', hw, hw', ⟨ms', hv, hg⟩, htext⟩
    obtain rfl := h.unique ⟨ws, v, ws', hw, hw', hv, htext⟩
    exact hg
  · intro hg
    obtain ⟨ws, v, ws', hw, hw', hv, htext⟩ := h
    exact ⟨ws, v, ws', hw, hw', ⟨ms, hv, hg⟩, htext⟩

/-- Texts of values that stand for the same string or boolean, or for neither. -/
def Alike (v v' : List Char) : Prop :=
  (∀ x, TextOf v x ↔ TextOf v' x) ∧ ∀ b, FlagOf v b ↔ FlagOf v' b

/-- The fields have like values, in whatever order the members stand. Other members do not count. -/
def SameFields (ms ms' : List (String × List Char)) : Prop :=
  ∀ name ∈ fieldNames,
    ∃ vs, (valuesOf name ms).Perm vs ∧ List.Forall₂ Alike vs (valuesOf name ms')

lemma SameFields.of_valuesOf (h : ∀ name ∈ fieldNames, valuesOf name ms = valuesOf name ms') :
    SameFields ms ms' := by
  intro name hname
  refine ⟨_, .refl _, ?_⟩
  rw [h name hname]
  exact List.forall₂_same.mpr fun v _ => ⟨fun _ => .rfl, fun _ => .rfl⟩

lemma SameFields.symm (h : SameFields ms ms') : SameFields ms' ms := by
  intro name hname
  obtain ⟨vs, hperm, halike⟩ := h name hname
  obtain ⟨vs', halike', hperm'⟩ := List.perm_comp_forall₂ hperm halike
  refine ⟨vs', hperm'.symm, List.Forall₂.flip (halike'.imp fun v v' hv => ?_)⟩
  exact ⟨fun x => (hv.1 x).symm, fun b => (hv.2 b).symm⟩

lemma SameFields.single {name : String} (h : SameFields ms ms') (hname : name ∈ fieldNames)
    {v : List Char} (hv : valuesOf name ms = [v]) :
    ∃ v', valuesOf name ms' = [v'] ∧ Alike v v' := by
  obtain ⟨vs, hperm, halike⟩ := h name hname
  rw [hv, List.singleton_perm] at hperm
  subst hperm
  obtain ⟨v', _, hv', hnil, heq⟩ := List.forall₂_cons_left_iff.mp halike
  rw [List.forall₂_nil_left_iff.mp hnil] at heq
  exact ⟨v', heq, hv'⟩

lemma SameFields.none {name : String} (h : SameFields ms ms') (hname : name ∈ fieldNames)
    (hv : valuesOf name ms = []) : valuesOf name ms' = [] := by
  obtain ⟨vs, hperm, halike⟩ := h name hname
  rw [hv, List.nil_perm] at hperm
  subst hperm
  exact List.forall₂_nil_left_iff.mp halike

lemma GivenBy.of_sameFields (hg : GivenBy ms s) (h : SameFields ms ms') : GivenBy ms' s := by
  obtain ⟨⟨vo, ho, hto⟩, ⟨vb, hb, htb⟩, ⟨vg, hv, hfg⟩, hm⟩ := hg
  obtain ⟨vo', ho', hao⟩ := h.single (by decide) ho
  obtain ⟨vb', hb', hab⟩ := h.single (by decide) hb
  obtain ⟨vg', hv', hag⟩ := h.single (by decide) hv
  refine ⟨⟨vo', ho', (hao.1 _).mp hto⟩, ⟨vb', hb', (hab.1 _).mp htb⟩,
    ⟨vg', hv', (hag.2 _).mp hfg⟩, ?_⟩
  obtain ⟨hm, hs⟩ | ⟨vm, hm, hfm⟩ := hm
  · exact .inl ⟨h.none (by decide) hm, hs⟩
  · obtain ⟨vm', hm', ham⟩ := h.single (by decide) hm
    exact .inr ⟨vm', hm', (ham.2 _).mp hfm⟩

/-- **The texts that hold settings** are, up to white space, the objects whose members give them and
the lists whose elements do. What is decoded depends on the values of the fields alone: not on the
order of the members, on others beside them, on white space, or on which of the forms is used. -/
theorem ofJson_iff_given :
    (∀ (text : String) (s : Settings), ofJson text = .ok s ↔
      ∃ ws v ws', Blank ws ∧ Blank ws' ∧ text.toList = ws ++ (v ++ ws') ∧
        ((∃ ms, ObjectOf ms v ∧ GivenBy ms s) ∨ ∃ vs, ListOf vs v ∧ GivenInOrder vs s)) ∧
    ∀ (text text' : String) (ms ms' : List (String × List Char)), Contents fieldNames ms text →
      Contents fieldNames ms' text' → SameFields ms ms' →
      ∀ s, ofJson text = .ok s ↔ ofJson text' = .ok s := by
  constructor
  · intro text s
    rw [ofJson, accepts.decode_eq_ok_iff]
    simp only [recordOf_iff]
    constructor
    · rintro ⟨ws, v, ws', hw, hw', hv, htext⟩
      exact ⟨ws, v, ws', hw, hw', htext, hv⟩
    · rintro ⟨ws, v, ws', hw, hw', htext, hv⟩
      exact ⟨ws, v, ws', hw, hw', hv, htext⟩
  · intro text text' ms ms' h h' hsame s
    rw [ofJson_iff_givenBy h, ofJson_iff_givenBy h']
    exact ⟨fun hg => hg.of_sameFields hsame, fun hg => hg.of_sameFields hsame.symm⟩

/-- Members in an order of their own, with one among them that is no field. -/
def shuffled : List (String × Printer) :=
  [("debug_logs", .flag true), ("comment", .list []), ("base_path", .text "/docs"),
    ("output_directory", .text "out")]

def ordered : List Printer :=
  [.text "out", .text "/docs", .flag true]

/-- The object and the list hold the same settings, with a manifest since nothing is said of it. -/
theorem ofJson_iff_given_ordered :
    (Printer.object shuffled).run ≠ (Printer.list ordered).run ∧
      ofJson (Printer.object shuffled).run = .ok ⟨"out", "/docs", true, true⟩ ∧
      ofJson (Printer.list ordered).run = .ok ⟨"out", "/docs", true, true⟩ := by
  have hobject : Contents fieldNames _ (Printer.object shuffled).run := contents_object (by
    simp only [shuffled, List.forall_mem_cons]
    exact ⟨.flag (flagOf_flag true 1), (listOf_list (by simp)).isValue,
      (textOf_text "/docs" 1).isValue, (textOf_text "out" 1).isValue, by simp⟩)
  have hlist : Contents fieldNames _ (Printer.list ordered).run := contents_list (by
    simp only [ordered, List.forall_mem_cons]
    exact ⟨(textOf_text "out" 1).isValue, (textOf_text "/docs" 1).isValue,
      .flag (flagOf_flag true 1), by simp⟩) (by decide)
  have hsettings : ofJson (Printer.object shuffled).run = .ok ⟨"out", "/docs", true, true⟩ :=
    (ofJson_iff_givenBy hobject).mpr ⟨⟨_, rfl, textOf_text "out" 1⟩,
      ⟨_, rfl, textOf_text "/docs" 1⟩, ⟨_, rfl, flagOf_flag true 1⟩, .inl ⟨rfl, rfl⟩⟩
  refine ⟨by decide +kernel, hsettings, ?_⟩
  exact (ofJson_iff_given.2 _ _ _ _ hobject hlist (.of_valuesOf (by decide +kernel)) _).mp hsettings

end StaticHost.Settings
