import StaticHost.Settings.Store
import StaticHost.Proofs.RecordRoundTrip
import StaticHost.Proofs.SavedFiles
import StaticHost.Proofs.Utf8

/-!
Settings on disk: what loading returns, and what it does to the disk.

Settings that were saved load back. Loading from a path that leads nowhere writes the defaults, and
the directories made for them can give the path a meaning it did not have: behind two dots it may
then lead to a file that was there all along. `Overwrites` is when that happens, and in all other
cases loading changes no file. Loading a second time finds what the first one left: the same
settings, and nothing to do.
-/

namespace StaticHost.Settings

open Files Files.Disk

variable {d : Disk} {p : Path} {s : Settings}

def textAt (d : Disk) (p : Path) : Except FileError String :=
  match d.read p with
  | .error e => .error e
  | .ok content =>
    match Bytes.toString? content with
    | some text => .ok text
    | none => .error .notText

lemma run_readText (p : Path) (d : Disk) : (Job.readText p).run d = ⟨textAt d p, d, []⟩ := by
  rw [Job.readText, Job.run, textAt]
  cases d.read p with
  | error e => rfl
  | ok content =>
    simp only
    cases Bytes.toString? content <;> rfl

/-- Loading settings, by what reading the file says. -/
lemma run_load (p : Path) (d : Disk) :
    (load p).run d =
      match textAt d p with
      | .ok text =>
        match ofJson text with
        | .ok s => ⟨s, d, []⟩
        | .error e => ⟨{}, d, [.malformedSettings p e]⟩
      | .error .notFound =>
        ⟨{}, ((save p {}).run d).disk, ((save p {}).run d).events ++
          [match ((save p {}).run d).value with
            | .ok () => .wroteDefaults p
            | .error e => .unwrittenDefaults p e]⟩
      | .error e => ⟨{}, d, [.unreadableSettings p e]⟩ := by
  change ((Job.readText p).bind _).run d = _
  rw [Job.run_bind, run_readText]
  rcases textAt d p with e | text
  · cases e with
    | notFound =>
      change ({ ((save p {}).bind _).run d with
        events := [] ++ (((save p {}).bind _).run d).events } : Job.Run Settings) = _
      rw [Job.run_bind]
      rcases ((save p {}).run d).value with e | ⟨⟩ <;> rfl
    | _ => rfl
  · simp only
    cases ofJson text <;> rfl

/-- **Saved settings load back**, and loading them leaves the disk alone: the JSON text of settings
decodes to them, whatever their texts, and the path that they were saved to leads to that text. -/
theorem load_save (s : Settings) :
    ofJson s.toJson = .ok s ∧
      ∀ (d : Disk) (p : Path), ((save p s).run d).value = .ok () →
        (load p).run ((save p s).run d).disk = ⟨s, ((save p s).run d).disk, []⟩ := by
  have hdecode : ofJson s.toJson = .ok s := Json.decode_run s.readsBack
  refine ⟨hdecode, fun d p h => ?_⟩
  have htext : textAt ((save p s).run d).disk p = .ok s.toJson := by
    unfold textAt
    rw [save, Job.read_saveText h]
    simp only [Bytes.toString?_ofString]
  rw [run_load, htext]
  simp only [hdecode]

/-- Settings with quotes and line breaks, saved to a directory that has to be made. -/
theorem load_save_new_directory :
    let d : Disk := ⟨.dir [], []⟩
    let p : Path := .ofString "conf/./host.json"
    let s : Settings := { outputDirectory := "a \"b\"\n", basePath := "/", debugLogs := true }
    ((save p s).run d).value = .ok () ∧
      (load p).run ((save p s).run d).disk = ⟨s, ((save p s).run d).disk, []⟩ := by
  intro d p s
  have h : ((save p s).run d).value = .ok () := by decide +kernel
  exact ⟨h, (load_save s).2 d p h⟩

/-! ### What loading does to the disk -/

def defaultsFile : Bytes :=
  Bytes.ofString ({} : Settings).toJson

/-- The first disk's files are all on the second, with the same content. -/
def KeepsFiles (d d' : Disk) : Prop :=
  ∀ place content, d.kindAt place = some (.file content) →
    d'.kindAt place = some (.file content)

/-- Nothing is found at the path, but once the directories are made that it leads through, it leads
to a file that does not hold the defaults. -/
def Overwrites (d : Disk) (p : Path) : Prop :=
  d.read p = .error .notFound ∧
    ∃ d₁ content, d.pave (d.start p) p.components.dropLast = some d₁ ∧
      d₁.read p = .ok content ∧ content ≠ defaultsFile

/-- Loading writes only where reading finds nothing. -/
lemma load_disk (p : Path) (d : Disk) :
    d.read p = .error .notFound ∧ ((load p).run d).disk = ((save p {}).run d).disk ∨
      d.read p ≠ .error .notFound ∧ ((load p).run d).disk = d := by
  rw [run_load, textAt]
  rcases d.read p with e | content
  · cases e with
    | notFound => exact .inl ⟨rfl, rfl⟩
    | _ => exact .inr ⟨by simp, rfl⟩
  · refine .inr ⟨by simp, ?_⟩
    simp only
    cases Bytes.toString? content with
    | none => rfl
    | some text =>
      simp only
      cases ofJson text <;> rfl

lemma load_changes (p : Path) (d : Disk) :
    ((load p).run d).disk.cwd = d.cwd ∧
    ∃ file : List Name, ∀ place,
      ((load p).run d).disk.kindAt place = d.kindAt place ∨
      (d.kindAt place = none ∧ ((load p).run d).disk.kindAt place = some .dir) ∨
      (place = file ∧ d.kindAt place ≠ some .dir ∧
        ((load p).run d).disk.kindAt place = some (.file defaultsFile)) := by
  rcases load_disk p d with ⟨-, h⟩ | ⟨-, h⟩ <;> rw [h]
  · exact Job.saveText_changes p _ d
  · exact ⟨rfl, [], fun _ => .inl rfl⟩

/-- A path without two dots leads to a file that is there before anything is made. -/
lemma not_overwrites (hup : Path.dotDot ∉ p.components) : ¬ Overwrites d p := by
  rintro ⟨hread, d₁, content, hpave, hread₁, -⟩
  obtain ⟨dir, name, hlead, hfile⟩ := read_eq_ok_iff.mp hread₁
  have hgrows := grows_pave hpave
  rw [read_of_end hup hgrows.cwd_eq hlead (hgrows.file_iff.mp hfile)] at hread
  cases hread

/-- Then the file that the path comes to lead to is written over. -/
lemma not_keepsFiles_load (h : Overwrites d p) : ¬ KeepsFiles d ((load p).run d).disk := by
  obtain ⟨hread, d₁, content, hpave, hread₁, hne⟩ := h
  obtain ⟨dir, name, hlead, hfile⟩ := read_eq_ok_iff.mp hread₁
  obtain ⟨hlast, hname, -⟩ := hlead.parts
  have hparent := Job.paves_makeParent (usable_of_locate hlead.located) hlast hname d
  simp only [hpave] at hparent
  have hold : d₁.kindAt (dir ++ [name]) ≠ some .dir := by simp [hfile]
  have hwrite : d₁.write p defaultsFile = .ok (d₁.put dir name (.file defaultsFile)) :=
    write_eq_ok_iff.mpr ⟨dir, name, hlead, hold, rfl⟩
  have hdisk : ((load p).run d).disk = d₁.put dir name (.file defaultsFile) := by
    rcases load_disk p d with ⟨-, h⟩ | ⟨h, -⟩
    · rw [defaultsFile] at hwrite
      rw [h, save, Job.run_saveText, hparent]
      simp only [hwrite, defaultsFile]
    · exact absurd hread h
  intro hkeeps
  have hafter := hkeeps _ content ((grows_pave hpave).file_iff.mp hfile)
  rw [hdisk, kindAt_put_file hlead.isDir hold, if_pos rfl] at hafter
  exact hne (by simpa using hafter.symm)

lemma keepsFiles_load (h : ¬ Overwrites d p) : KeepsFiles d ((load p).run d).disk := by
  intro place content hplace
  rcases load_disk p d with ⟨hread, hdisk⟩ | ⟨-, hdisk⟩ <;> rw [hdisk]
  · have hplace₁ := (Job.run_makeParent p d).1.file_iff.mpr hplace
    rcases Job.saveText_cases p _ d with ⟨e, he⟩ | ⟨dir, name, hok, hlead, hold, hrun⟩
    · rw [save, he]
      exact hplace₁
    · rw [save, hrun, kindAt_put_file hlead.isDir hold]
      split_ifs with hsame
      · -- the path leads to the file by now, so it holds the defaults already
        subst hsame
        obtain ⟨hlast, hname, -⟩ := hlead.parts
        have hparent := Job.paves_makeParent (usable_of_locate hlead.located) hlast hname d
        have hread₁ := read_eq_ok_iff.mpr ⟨dir, name, hlead, hplace₁⟩
        cases hpave : d.pave (d.start p) p.components.dropLast with
        | none =>
          simp only [hpave, hok] at hparent
          obtain ⟨e, he⟩ := hparent
          cases he
        | some d₁ =>
          simp only [hpave] at hparent
          rw [hparent] at hread₁
          by_contra hne
          exact h ⟨hread, d₁, content, hpave, hread₁, fun heq => hne (by rw [heq]; rfl)⟩
      · exact hplace₁
  · exact hplace

/-- **Loading settings** keeps every directory and removes nothing. It touches one file at most,
and leaves the defaults there; all else that is new is directories. Every file keeps its content
unless the path comes to lead to one by the directories that are made, and for that it has to go
up by two dots somewhere. -/
theorem load_frame (d : Disk) (p : Path) :
    let d' := ((load p).run d).disk
    d'.cwd = d.cwd ∧ KeepsDirs d d' ∧
    (∃ file : List Name,
      (∀ place content, d.kindAt place = some (.file content) →
        d'.kindAt place = some (.file content) ∨
          place = file ∧ d'.kindAt place = some (.file defaultsFile)) ∧
      (∀ place, d.kindAt place = none →
        d'.kindAt place = none ∨ d'.kindAt place = some .dir ∨
          place = file ∧ d'.kindAt place = some (.file defaultsFile))) ∧
    (KeepsFiles d d' ↔ ¬ Overwrites d p) ∧
    (Overwrites d p → Path.dotDot ∈ p.components) := by
  intro d'
  obtain ⟨hcwd, file, hchanges⟩ := load_changes p d
  refine ⟨hcwd, fun place hdir => ?_, ⟨file, fun place content hfile => ?_, fun place hnone => ?_⟩,
    ⟨fun hkeeps hover => not_keepsFiles_load hover hkeeps, keepsFiles_load⟩,
    fun hover => by_contra fun hup => not_overwrites hup hover⟩
  · rcases hchanges place with h | ⟨h, -⟩ | ⟨-, h, -⟩
    · exact h.trans hdir
    · simp [h] at hdir
    · exact absurd hdir h
  · rcases hchanges place with h | ⟨h, -⟩ | ⟨hplace, -, h⟩
    · exact .inl (h.trans hfile)
    · simp [h] at hfile
    · exact .inr ⟨hplace, h⟩
  · rcases hchanges place with h | ⟨-, h⟩ | ⟨hplace, -, h⟩
    · exact .inl (h.trans hnone)
    · exact .inr (.inl h)
    · exact .inr (.inr ⟨hplace, h⟩)

/-- A file that is written over: the way to it goes through a directory that is not there yet. -/
theorem load_through_missing_directory :
    let name : Name := .ofString "settings.json"
    let content := Bytes.ofString
      "\x7b\"output_directory\":\"out\",\"base_path\":\"/\",\"debug_logs\":true\x7d"
    let d : Disk := ⟨.dir [(name, .file content)], []⟩
    let d' := ((load (.ofString "a/../settings.json")).run d).disk
    d.kindAt [name] = some (.file content) ∧ d'.kindAt [name] = some (.file defaultsFile) ∧
      content ≠ defaultsFile ∧ ¬ KeepsFiles d d' := by
  intro name content d d'
  have hbefore : d.kindAt [name] = some (.file content) := by decide +kernel
  have hafter : d'.kindAt [name] = some (.file defaultsFile) := by decide +kernel
  have hne : content ≠ defaultsFile := by decide +kernel
  refine ⟨hbefore, hafter, hne, fun hkeeps => ?_⟩
  have hkept := hkeeps [name] content hbefore
  rw [hafter] at hkept
  exact hne (by simpa using hkept.symm)

/-! ### Loading once more -/

/-- Loading from a file that holds settings. -/
lemma load_of_read {text : String} (h : d.read p = .ok (Bytes.ofString text))
    (hjson : ofJson text = .ok s) : (load p).run d = ⟨s, d, []⟩ := by
  rw [run_load, textAt, h]
  simp only [Bytes.toString?_ofString, hjson]

/-- Where the path leads to no text of settings, loading gives the defaults. -/
lemma load_value_of_not
    (h : ∀ text s, d.read p = .ok (Bytes.ofString text) → ofJson text ≠ .ok s) :
    ((load p).run d).value = {} := by
  rw [run_load, textAt]
  rcases hread : d.read p with e | content
  · cases e <;> rfl
  · simp only
    cases htext : Bytes.toString? content with
    | none => rfl
    | some text =>
      rw [Bytes.toString?_eq_some_iff.mp htext] at hread
      simp only
      cases hjson : ofJson text with
      | ok s => exact absurd hjson (h text s hread)
      | error e => rfl

lemma load_disk_of_notFound (h : d.read p = .error .notFound) :
    ((load p).run d).disk = ((save p {}).run d).disk := by
  rcases load_disk p d with ⟨-, hdisk⟩ | ⟨hfound, -⟩
  · exact hdisk
  · exact absurd h hfound

/-- Where the defaults were written, they are found. -/
lemma load_after_save (hread : d.read p = .error .notFound)
    (hsaved : ((save p {}).run d).value = .ok ()) :
    (load p).run ((load p).run d).disk = ⟨{}, ((load p).run d).disk, []⟩ := by
  rw [load_disk_of_notFound hread]
  exact load_of_read (Job.read_saveText hsaved) (Json.decode_run ({} : Settings).readsBack)

/-- Where they could not be written, the path still leads to no file, and no more directories can be
made for one. -/
lemma load_after_failed_save {e : HostError} (hread : d.read p = .error .notFound)
    (hsaved : ((save p {}).run d).value = .error e) :
    ((load p).run ((load p).run d).disk).value = {} ∧
      ((load p).run ((load p).run d).disk).disk = ((load p).run d).disk := by
  obtain ⟨hsettled, hfails⟩ := Job.saveText_again (usable_of_notFound hread) hsaved
  rw [load_disk_of_notFound hread]
  constructor
  · refine load_value_of_not fun text s h => ?_
    obtain ⟨dir, name, hlead, hfile⟩ := read_eq_ok_iff.mp h
    have hsave := Job.run_saveText_of_leadsTo hlead (by simp [hfile]) ({} : Settings).toJson
    exact absurd (congrArg Job.Run.value hsave) hfails
  · rcases load_disk p ((save p {}).run d).disk with ⟨-, hagain⟩ | ⟨-, hagain⟩
    · exact hagain.trans hsettled
    · exact hagain

/-- **What loading returns, and that it is done after once**: settings where the path leads to a
text of settings, and else the defaults; the disk changes only where nothing was found. A second
time the same settings come out, and the disk stays as it is, whether or not the defaults could be
written. -/
theorem load_again (d : Disk) (p : Path) :
    let r := (load p).run d
    let again := (load p).run r.disk
    (∀ text s, d.read p = .ok (Bytes.ofString text) → ofJson text = .ok s → r.value = s) ∧
    ((∀ text s, d.read p = .ok (Bytes.ofString text) → ofJson text ≠ .ok s) →
      r.value = ⟨"dist", "/", false, true⟩) ∧
    (r.disk ≠ d → d.read p = .error .notFound) ∧
    again.value = r.value ∧ again.disk = r.disk := by
  intro r again
  refine ⟨fun text s h hjson => by rw [show r = _ from load_of_read h hjson],
    load_value_of_not, fun hchanged => ?_, ?_⟩
  · rcases load_disk p d with ⟨hread, -⟩ | ⟨-, hsame⟩
    · exact hread
    · exact absurd hsame hchanged
  · rcases load_disk p d with ⟨hread, -⟩ | ⟨-, hsame⟩
    · have hvalue : r.value = {} := load_value_of_not (by simp [hread])
      rcases hsaved : ((save p {}).run d).value with e | ⟨⟩
      · rw [hvalue]
        exact load_after_failed_save hread hsaved
      · rw [show again = _ from load_after_save hread hsaved]
        exact ⟨hvalue.symm, rfl⟩
    · rw [show again = r from congrArg (load p).run hsame]
      exact ⟨rfl, rfl⟩

/-- A file in the way: the first time a directory is made before the way is found to be blocked, and
the second time nothing is. -/
theorem load_again_behind_a_file :
    let d : Disk := ⟨.dir [(.ofString "f", .file [])], []⟩
    let p : Path := .ofString "new/../f/s.json"
    let r := (load p).run d
    d.kindAt [.ofString "new"] = none ∧ r.disk.kindAt [.ofString "new"] = some .dir ∧
      r.value = ⟨"dist", "/", false, true⟩ ∧ d.read p = .error .notFound ∧
      ((load p).run r.disk).value = r.value ∧ ((load p).run r.disk).disk = r.disk := by
  intro d p r
  have hread : d.read p = .error .notFound := by decide +kernel
  obtain ⟨-, hdefault, hchanged, hvalue, hdisk⟩ := load_again d p
  have hbefore : d.kindAt [.ofString "new"] = none := by decide +kernel
  have hafter : r.disk.kindAt [.ofString "new"] = some .dir := by decide +kernel
  refine ⟨hbefore, hafter, hdefault (by simp [hread]), hchanged fun hsame => ?_, hvalue, hdisk⟩
  rw [show r.disk = d from hsame, hbefore] at hafter
  cases hafter

end StaticHost.Settings
