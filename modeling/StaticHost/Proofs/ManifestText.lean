import StaticHost.Proofs.JsonCompounds
import StaticHost.Proofs.JsonDrafts
import StaticHost.Proofs.RecordRoundTrip
import StaticHost.Proofs.TimeText

/-!
The time that a manifest was written at, from its text and back.

The text of a manifest holds one value for each of its fields. The one for the time is a string, and
the point that is decoded is the one its reading means; what is printed for that point is a date of
the calendar and a time of day, in UTC. Nothing else of a spelling is kept, so texts that differ in
it alone hold the same manifest.
-/

namespace StaticHost

open Json

lemma Json.regular_text {δ : Type} (f : String → δ) :
    Regular fun c => (readText c).map fun (s, c) => (f s, c) := by
  refine (accepts_text.map f).regular ?_
  rintro v _ ⟨s, htext, -⟩
  exact htext.isValue

lemma Metadata.accepts : Accepts Metadata.record.read (RecordOf Metadata.record) := by
  refine Record.accepts ?_
  simp only [Metadata.record, List.forall_mem_cons]
  exact ⟨fun d => regular_text fun s => { d with title := some s },
    fun d => regular_text fun s => { d with description := some s }, by simp⟩

lemma ManifestPage.accepts : Accepts ManifestPage.record.read (RecordOf ManifestPage.record) := by
  refine Record.accepts ?_
  simp only [ManifestPage.record, List.forall_mem_cons]
  exact ⟨fun d => regular_text fun s => { d with route := some s },
    fun d => regular_text fun s => { d with file := some s }, by simp⟩

namespace Manifest

variable {text text' : String} {m m' : Manifest} {ms ms' : List (String × List Char)}

/-! ### The values of the fields -/

def PagesOf (v : List Char) (pages : List ManifestPage) : Prop :=
  ∃ vs, ListOf vs v ∧ List.Forall₂ (RecordOf ManifestPage.record) vs pages

def StylesheetsOf (v : List Char) (names : List String) : Prop :=
  ∃ vs, ListOf vs v ∧ List.Forall₂ TextOf vs names

def InstantOf (v : List Char) (t : Time.Instant) : Prop :=
  ∃ s, TextOf v s ∧ Time.Instant.ofString s = .ok t

lemma PagesOf.isValue {v : List Char} {pages : List ManifestPage} (h : PagesOf v pages) :
    IsValue v := by
  obtain ⟨vs, hv, -⟩ := h
  exact hv.isValue

lemma StylesheetsOf.isValue {v : List Char} {names : List String} (h : StylesheetsOf v names) :
    IsValue v := by
  obtain ⟨vs, hv, -⟩ := h
  exact hv.isValue

lemma InstantOf.isValue {v : List Char} {t : Time.Instant} (h : InstantOf v t) : IsValue v := by
  obtain ⟨s, hv, -⟩ := h
  exact hv.isValue

lemma accepts_pages : Accepts (readList ManifestPage.record.read) PagesOf :=
  accepts_list ManifestPage.accepts RecordOf.isValue

lemma accepts_stylesheets : Accepts (readList readText) StylesheetsOf :=
  accepts_list accepts_text TextOf.isValue

lemma accepts_instant : Accepts readInstant InstantOf := by
  refine (accepts_textAs _ _).congr fun v t => exists_congr fun s => and_congr_right fun _ => ?_
  cases Time.Instant.ofString s <;> simp [Except.mapError]

def slots : List (Slot Draft) := [
  { name := "metadata", Value := Metadata, get := (·.metadata)
    set := fun x d => { d with metadata := some x }, Form := RecordOf Metadata.record },
  { name := "pages", Value := List ManifestPage, get := (·.pages)
    set := fun x d => { d with pages := some x }, Form := PagesOf },
  { name := "stylesheets", Value := List String, get := (·.stylesheets)
    set := fun x d => { d with stylesheets := some x }, Form := StylesheetsOf },
  { name := "generated_at", Value := Time.Instant, get := (·.generatedAt)
    set := fun x d => { d with generatedAt := some x }, Form := InstantOf }]

lemma fields_match : List.Forall₂ Field.Matches record.fields slots :=
  .cons ⟨rfl, fun _ => rfl,
    fun d => Metadata.accepts.map fun x => { d with metadata := some x }⟩ <|
  .cons ⟨rfl, fun _ => rfl, fun d => accepts_pages.map fun x => { d with pages := some x }⟩ <|
  .cons ⟨rfl, fun _ => rfl,
    fun d => accepts_stylesheets.map fun x => { d with stylesheets := some x }⟩ <|
  .cons ⟨rfl, fun _ => rfl, fun d => accepts_instant.map fun x => { d with generatedAt := some x }⟩
  .nil

lemma hasSlots : record.HasSlots slots where
  fields := fields_match
  distinct := by decide
  get_set := by simp [slots]
  get_set_ne := by simp [slots]
  ext := by
    rintro ⟨d, p, s, t⟩ ⟨d', p', s', t'⟩ h
    simpa [slots] using h

lemma finish_eq_ok_iff {d : Draft} :
    record.finish d = .ok m ↔ d.metadata = some m.metadata ∧ d.pages = some m.pages ∧
      d.stylesheets = some m.stylesheets ∧ d.generatedAt = some m.generatedAt := by
  obtain ⟨_ | d, _ | p, _ | s, _ | t⟩ := d
  all_goals
    obtain ⟨d', p', s', t'⟩ := m
    simp [record, required, bind, Except.bind, pure, Except.pure]

lemma accepts : Accepts record.read (RecordOf record) := by
  refine Record.accepts (regular_of_matches fields_match ?_)
  simp only [slots, List.forall_mem_cons]
  exact ⟨RecordOf.isValue, PagesOf.isValue, StylesheetsOf.isValue, InstantOf.isValue, by simp⟩

def fieldNames : List String := record.fields.map (·.name)

/-- The members give this manifest: every field once, in a form of its own. -/
structure GivenBy (ms : List (String × List Char)) (m : Manifest) : Prop where
  metadata : ∃ v, valuesOf "metadata" ms = [v] ∧ RecordOf Metadata.record v m.metadata
  pages : ∃ v, valuesOf "pages" ms = [v] ∧ PagesOf v m.pages
  stylesheets : ∃ v, valuesOf "stylesheets" ms = [v] ∧ StylesheetsOf v m.stylesheets
  generatedAt : ∃ v, valuesOf "generated_at" ms = [v] ∧ InstantOf v m.generatedAt

lemma givenBy_of_ofJson (h : ofJson text = .ok m) :
    ∃ ms, Contents fieldNames ms text ∧ GivenBy ms m := by
  obtain ⟨ws, v, ws', hw, hw', hv, htext⟩ := accepts.decode_eq_ok_iff.mp h
  obtain ⟨ms, last, hms, hfinish, hgains⟩ := hasSlots.gains_of_recordOf (by simp [slots, record]) hv
  refine ⟨ms, ⟨ws, v, ws', hw, hw', hms, htext⟩, ?_⟩
  obtain ⟨hd, hp, hs, ht⟩ := finish_eq_ok_iff.mp hfinish
  simp only [slots, List.forall_mem_cons, hd, hp, hs, ht] at hgains
  obtain ⟨gd, gp, gs, gt, -⟩ := hgains
  exact ⟨gains_some_iff.mp gd, gains_some_iff.mp gp, gains_some_iff.mp gs, gains_some_iff.mp gt⟩

/-! ### The time -/

/-- The text holds this string as the time, once. -/
def Stamped (text s : String) : Prop :=
  ∃ ms v, Contents fieldNames ms text ∧ valuesOf "generated_at" ms = [v] ∧ TextOf v s

/-- The other fields have the same values in both texts. -/
def SameButTime (text text' : String) : Prop :=
  ∃ ms ms', Contents fieldNames ms text ∧ Contents fieldNames ms' text' ∧
    ∀ name ∈ fieldNames, name ≠ "generated_at" → valuesOf name ms = valuesOf name ms'

lemma exists_stamped (h : ofJson text = .ok m) : ∃ s, Stamped text s := by
  obtain ⟨ms, hms, hg⟩ := givenBy_of_ofJson h
  obtain ⟨v, hv, s, htext, -⟩ := hg.generatedAt
  exact ⟨s, ms, v, hms, hv, htext⟩

lemma Stamped.ofString {s : String} (hs : Stamped text s) (h : ofJson text = .ok m) :
    Time.Instant.ofString s = .ok m.generatedAt := by
  obtain ⟨ms, hms, hg⟩ := givenBy_of_ofJson h
  obtain ⟨ms', v, hms', hv, htext⟩ := hs
  obtain rfl := hms.unique hms'
  obtain ⟨v', hv', s', htext', hinstant⟩ := hg.generatedAt
  rw [hv] at hv'
  cases hv'
  rwa [accepts_text.unique htext htext']

/-- The texts of the other fields settle their values. -/
lemma SameButTime.eq (h : SameButTime text text') (hm : ofJson text = .ok m)
    (hm' : ofJson text' = .ok m') (ht : m.generatedAt = m'.generatedAt) : m = m' := by
  obtain ⟨ms, hms, hg⟩ := givenBy_of_ofJson hm
  obtain ⟨ms', hms', hg'⟩ := givenBy_of_ofJson hm'
  obtain ⟨ms₁, ms₁', hms₁, hms₁', hsame⟩ := h
  obtain rfl := hms.unique hms₁
  obtain rfl := hms'.unique hms₁'
  have hvalue {α : Type} {read : Reader α} {Form : List Char → α → Prop} (hr : Accepts read Form)
      {name : String} (hname : name ∈ fieldNames) (hne : name ≠ "generated_at") {a a' : α}
      (ha : ∃ v, valuesOf name ms = [v] ∧ Form v a)
      (ha' : ∃ v, valuesOf name ms' = [v] ∧ Form v a') : a = a' := by
    obtain ⟨v, hv, hform⟩ := ha
    obtain ⟨v', hv', hform'⟩ := ha'
    rw [hsame name hname hne, hv'] at hv
    cases hv
    exact hr.unique hform hform'
  have hd := hvalue Metadata.accepts (by decide) (by decide) hg.metadata hg'.metadata
  have hp := hvalue accepts_pages (by decide) (by decide) hg.pages hg'.pages
  have hs := hvalue accepts_stylesheets (by decide) (by decide) hg.stylesheets hg'.stylesheets
  cases m
  cases m'
  simp only at hd hp hs ht
  rw [hd, hp, hs, ht]

lemma contents_stampedWith (stamp : String) (m : Manifest) :
    Contents fieldNames ((m.stampedWith stamp).map fun f => (f.1, f.2 1))
      (Printer.object (m.stampedWith stamp)).run := by
  have hmetadata := Metadata.accepts.reads_iff.mp (m.metadata.readsBack 1)
  have hpages : PagesOf _ m.pages := accepts_pages.reads_iff.mp
    (readsBack_list m.pages (fun p _ => p.readsBack) 1)
  have hsheets : StylesheetsOf _ m.stylesheets := accepts_stylesheets.reads_iff.mp
    (readsBack_list m.stylesheets (fun s _ => readsBack_text s) 1)
  refine contents_object ?_
  simp only [stampedWith, List.forall_mem_cons]
  exact ⟨hmetadata.isValue, hpages.isValue, hsheets.isValue, (textOf_text stamp 1).isValue,
    by simp⟩

lemma stamped_stampedWith (stamp : String) (m : Manifest) :
    Stamped (Printer.object (m.stampedWith stamp)).run stamp :=
  ⟨_, _, contents_stampedWith stamp m, rfl, textOf_text stamp 1⟩

/-- How the time is written makes no difference to the other fields. -/
lemma sameButTime_stampedWith (stamp stamp' : String) (m : Manifest) :
    SameButTime (Printer.object (m.stampedWith stamp)).run
      (Printer.object (m.stampedWith stamp')).run := by
  refine ⟨_, _, contents_stampedWith stamp m, contents_stampedWith stamp' m, ?_⟩
  intro name hname hne
  simp [stampedWith, valuesOf, List.filter_cons, Ne.symm hne]

/-- A printed manifest holds the printed time. -/
lemma stamped_toJson (m : Manifest) : Stamped m.toJson m.generatedAt.toString :=
  stamped_stampedWith m.generatedAt.toString m

/-- What is printed for a point is a date of the calendar and a time of day, in UTC. -/
structure PrintedAs (t : Time.Instant) (r : Time.Reading) : Prop where
  valid : r.date.IsValid
  hour : r.hour < 24
  minute : r.minute < 60
  second_le : r.second ≤ 60
  nano_lt : r.nano < 1000000000
  offset : r.offset = 0
  day : r.date.dayNumber = t.day
  minutes : r.hour * 60 + r.minute = t.minute
  second : r.second = t.second
  nano : r.nano = t.nano

lemma printedAs_reading (t : Time.Instant) : PrintedAs t t.reading := by
  have hminute := t.minute_lt
  exact {
    valid := Time.ofDayNumber_isValid t.day_ge t.day_le
    hour := by simp only [Time.Instant.reading]; omega
    minute := by simp only [Time.Instant.reading]; omega
    second_le := t.second_le
    nano_lt := t.nano_lt
    offset := rfl
    day := Time.dayNumber_ofDayNumber t.day
    minutes := by simp only [Time.Instant.reading]; omega
    second := rfl
    nano := rfl }

/-- **The time of a manifest is the one its text means**: the local time that the text spells, less
the offset, by the count of days of the calendar. Printed, it is the same day and time of day in
UTC. Two texts that differ in how they spell one point hold the same manifest, and it is printed in
one way. The last part says what the count of days is: it starts with the first of January of year 1
and goes up by one from day to day, and no two days share a number. -/
theorem generatedAt_denotes :
    (∀ (text : String) (m : Manifest), ofJson text = .ok m →
      (∃ s r, Stamped text s ∧ Time.Spells s.toList r) ∧
      ∀ s r, Stamped text s → Time.Spells s.toList r →
        r.date.IsValid ∧ r.Denotes m.generatedAt) ∧
    (∀ m : Manifest, ∃ s r, Stamped m.toJson s ∧ Time.Spells s.toList r ∧
      PrintedAs m.generatedAt r) ∧
    (∀ (text text' : String) (m m' : Manifest) (s s' : String) (r r' : Time.Reading),
      ofJson text = .ok m → ofJson text' = .ok m' → SameButTime text text' →
      Stamped text s → Stamped text' s' → Time.Spells s.toList r → Time.Spells s'.toList r' →
      r.SamePoint r' → m = m' ∧ m.toJson = m'.toJson) ∧
    Time.Date.dayNumber ⟨1, 1, 1⟩ = 0 ∧
    (∀ d : Time.Date, d.IsDay → d.next.IsDay ∧ d.next.dayNumber = d.dayNumber + 1) ∧
    ∀ d d' : Time.Date, d.IsDay → d'.IsDay → d.dayNumber = d'.dayNumber → d = d' := by
  refine ⟨fun text m hm => ⟨?_, fun s r hs hr => ?_⟩, fun m => ?_, ?_, by decide,
    fun d hd => hd.next, fun d d' hd hd' heq => hd.eq_of_dayNumber_eq hd' heq⟩
  · obtain ⟨s, hs⟩ := exists_stamped hm
    obtain ⟨r, hr⟩ := (Time.ofString_denotes (hs.ofString hm)).1
    exact ⟨s, r, hs, hr⟩
  · obtain ⟨hvalid, -, hdenotes⟩ := (Time.ofString_denotes (hs.ofString hm)).2 r hr
    exact ⟨hvalid, hdenotes⟩
  · exact ⟨_, _, stamped_toJson m, Time.spells_toString m.generatedAt, printedAs_reading _⟩
  · -- equal points give equal instants, and the other members are the same
    intro text text' m m' s s' r r' hm hm' hsame hs hs' hr hr' hpoint
    obtain ⟨-, -, hdenotes⟩ := (Time.ofString_denotes (hs.ofString hm)).2 r hr
    obtain ⟨-, -, hdenotes'⟩ := (Time.ofString_denotes (hs'.ofString hm')).2 r' hr'
    obtain rfl := hsame.eq hm hm' (hdenotes.eq hdenotes' hpoint)
    exact ⟨rfl, rfl⟩

/-- The last half hour of a year in UTC, written there and an hour to the east, where it is over. -/
theorem generatedAt_denotes_year_end :
    let east := "2024-01-01 00:30:00+01:00"
    let utc := "2023-12-31T23:30:00Z"
    ∃ m : Manifest, m.generatedAt.toString = utc ∧
      ofJson (Printer.object (m.stampedWith east)).run = .ok m ∧
      ofJson (Printer.object (m.stampedWith utc)).run = .ok m := by
  intro east utc
  obtain ⟨t, ht, -⟩ := map_eq_ok (show (Time.Instant.ofString "2024-01-01 00:30:00+01:00").map
    Time.Instant.toString = .ok "2023-12-31T23:30:00Z" by rfl)
  obtain ⟨t', ht', htext⟩ := map_eq_ok (show (Time.Instant.ofString "2023-12-31T23:30:00Z").map
    Time.Instant.toString = .ok "2023-12-31T23:30:00Z" by rfl)
  let m : Manifest := ⟨.site, [.ofPage .home], ["globals.css"], t⟩
  let m' : Manifest := { m with generatedAt := t' }
  have hm : ofJson (Printer.object (m.stampedWith east)).run = .ok m :=
    decode_run (readsBack_stampedWith ht)
  have hm' : ofJson (Printer.object (m'.stampedWith utc)).run = .ok m' :=
    decode_run (readsBack_stampedWith ht')
  have hr : Time.Spells "2024-01-01 00:30:00+01:00".toList ⟨⟨2024, 1, 1⟩, 0, 30, 0, 0, 60⟩ :=
    Time.spells_of_ofText (by rfl)
  have hr' : Time.Spells "2023-12-31T23:30:00Z".toList ⟨⟨2023, 12, 31⟩, 23, 30, 0, 0, 0⟩ :=
    Time.spells_of_ofText (by rfl)
  have heq : m = m' := (generatedAt_denotes.2.2.1 _ _ m m' east utc _ _ hm hm'
    (sameButTime_stampedWith east utc m) (stamped_stampedWith east m)
    (stamped_stampedWith utc m') hr hr' ⟨by decide, rfl, rfl⟩).1
  exact ⟨m', htext, heq ▸ hm, hm'⟩

end Manifest

end StaticHost
