import StaticHost.Site
import StaticHost.Proofs.RecordRoundTrip
import StaticHost.Proofs.SavedFiles
import StaticHost.Proofs.StylesheetLinks
import StaticHost.Proofs.Utf8

/-!
A built site: what is on the disk after a build that went well.

The files of a site are written one after another, and all have different names; so none of them is
written over, whatever directory they are in and however the path to it goes. The manifest that is
among them decodes, and names the other files.
-/

namespace StaticHost.Site

open Files

variable {d : Disk} {s : Settings} {now : Time.Instant}

/-! ### Writing one file after another -/

def Target.name? (t : Target) : Option Name :=
  t.path.components.getLast?

lemma run_writeTarget (t : Target) (d : Disk) :
    ((writeTarget t).run d).value = ((Job.saveText t.path t.text).run d).value ∧
      ((writeTarget t).run d).disk = ((Job.saveText t.path t.text).run d).disk := by
  have hjob : writeTarget t = (Job.saveText t.path t.text).bind _ := rfl
  rw [hjob, Job.run_bind]
  rcases ((Job.saveText t.path t.text).run d).value with e | ⟨⟩ <;> exact ⟨rfl, rfl⟩

/-- The first file decides whether the others are written. -/
lemma run_writeTargets_cons (t : Target) (rest : List Target) (d : Disk) :
    let r := (Job.saveText t.path t.text).run d
    (∃ e, r.value = .error e ∧ ((writeTargets (t :: rest)).run d).value = .error e ∧
      ((writeTargets (t :: rest)).run d).disk = r.disk) ∨
    r.value = .ok () ∧
      ((writeTargets (t :: rest)).run d).value = ((writeTargets rest).run r.disk).value ∧
      ((writeTargets (t :: rest)).run d).disk = ((writeTargets rest).run r.disk).disk := by
  intro r
  have hjob : writeTargets (t :: rest) = (writeTarget t).bind _ := rfl
  obtain ⟨hvalue, hdisk⟩ := run_writeTarget t d
  rw [hjob, Job.run_bind, hvalue, hdisk]
  rcases ((Job.saveText t.path t.text).run d).value with e | ⟨⟩
  · exact .inl ⟨e, rfl, rfl, rfl⟩
  · exact .inr ⟨rfl, rfl, rfl⟩

/-- A first file that can be written leaves the others to be written. -/
lemma run_writeTargets_cons_of_ok {t : Target} (rest : List Target)
    (h : ((Job.saveText t.path t.text).run d).value = .ok ()) :
    let r := (Job.saveText t.path t.text).run d
    ((writeTargets (t :: rest)).run d).value = ((writeTargets rest).run r.disk).value ∧
      ((writeTargets (t :: rest)).run d).disk = ((writeTargets rest).run r.disk).disk := by
  rcases run_writeTargets_cons t rest d with ⟨e, he, -⟩ | ⟨-, hrest⟩
  · rw [h] at he
    cases he
  · exact hrest

/-- Where all files were written, the first one was. -/
lemma writeTargets_cons_eq_ok {t : Target} {rest : List Target}
    (h : ((writeTargets (t :: rest)).run d).value = .ok ()) :
    let r := (Job.saveText t.path t.text).run d
    r.value = .ok () ∧ ((writeTargets rest).run r.disk).value = .ok () ∧
      ((writeTargets (t :: rest)).run d).disk = ((writeTargets rest).run r.disk).disk := by
  rcases run_writeTargets_cons t rest d with ⟨e, -, he, -⟩ | ⟨hfirst, hvalue, hdisk⟩
  · rw [he] at h
    cases h
  · exact ⟨hfirst, hvalue ▸ h, hdisk⟩

/-- A file stays as it is while files of other names are written. -/
lemma read_writeTargets_of_ne {ts : List Target} {q : Path} {content : Bytes}
    (hq : d.read q = .ok content) (hne : ∀ t ∈ ts, q.components.getLast? ≠ t.name?) :
    ((writeTargets ts).run d).disk.read q = .ok content := by
  induction ts generalizing d with
  | nil => exact hq
  | cons t rest ih =>
    have hnext := Job.read_saveText_of_ne t.text hq (hne t (by simp))
    rcases run_writeTargets_cons t rest d with ⟨e, -, -, h⟩ | ⟨-, -, h⟩ <;> rw [h]
    · exact hnext
    · exact ih hnext fun t' ht' => hne t' (List.mem_cons_of_mem t ht')

/-- **Files of different names** are all there in the end. -/
theorem read_writeTargets {ts : List Target} (hnames : (ts.map Target.name?).Nodup)
    (hok : ((writeTargets ts).run d).value = .ok ()) :
    ∀ t ∈ ts, ((writeTargets ts).run d).disk.read t.path = .ok (Bytes.ofString t.text) := by
  induction ts generalizing d with
  | nil => simp
  | cons t rest ih =>
    rw [List.map_cons, List.nodup_cons] at hnames
    obtain ⟨hfirst, hrest, hdisk⟩ := writeTargets_cons_eq_ok hok
    rw [hdisk]
    intro t' ht'
    rcases List.mem_cons.mp ht' with rfl | ht'
    · refine read_writeTargets_of_ne (Job.read_saveText hfirst) fun t'' ht'' hsame => ?_
      exact hnames.1 (List.mem_map.mpr ⟨t'', ht'', hsame.symm⟩)
    · exact ih hnames.2 hrest t' ht'

/-! ### The files of a site -/

/-- The names of the files of a site, in the order they are written. -/
def fileNames (s : Settings) : List String :=
  Stylesheet.all.map (·.name) ++ Page.all.map (·.fileName)
    ++ if s.writeManifest then [manifestName] else []

/-- The names have no slash in them, and are different. -/
lemma fileNames_plain (s : Settings) :
    (∀ name ∈ fileNames s, Path.slash ∉ Bytes.ofString name ∧ Bytes.ofString name ≠ []) ∧
      ((fileNames s).map fun name => some (Bytes.ofString name)).Nodup := by
  unfold fileNames
  cases s.writeManifest <;> decide

lemma map_path_targets (s : Settings) (now : Time.Instant) :
    (targets s now).map (·.path) = (fileNames s).map (pathOf s) := by
  unfold targets fileNames
  cases s.writeManifest <;> rfl

/-- All files are written into the output directory. -/
lemma exists_fileName {t : Target} (h : t ∈ targets s now) :
    ∃ name ∈ fileNames s, t.path = (outputPath s).join (.ofString name) := by
  have hpath : t.path ∈ (fileNames s).map (pathOf s) := by
    rw [← map_path_targets s now]
    exact List.mem_map_of_mem h
  obtain ⟨name, hname, hjoin⟩ := List.mem_map.mp hpath
  exact ⟨name, hname, hjoin.symm⟩

lemma map_name?_targets (s : Settings) (now : Time.Instant) :
    (targets s now).map Target.name? =
      (fileNames s).map fun name => some (Bytes.ofString name) := by
  have hnames : (targets s now).map Target.name? =
      ((targets s now).map (·.path)).map fun p => p.components.getLast? := by
    rw [List.map_map]
    rfl
  rw [hnames, map_path_targets, List.map_map]
  refine List.map_congr_left fun name hname => ?_
  obtain ⟨hslash, hne⟩ := (fileNames_plain s).1 name hname
  exact Path.getLast?_components_join hslash hne

/-- A base path that is none stops a build before it starts. -/
lemma build_of_relative (h : s.basePath.toList.head? ≠ some '/') :
    build s now = .done (.error (.invalidBasePath s.basePath)) := by
  rw [build, Settings.validate, if_neg h]
  rfl

/-- **What a build can come to** below a base path: it makes the output directory, or fails there;
then it writes its files, up to the first that fails. -/
lemma build_cases (h : s.basePath.toList.head? = some '/') (now : Time.Instant) (d : Disk) :
    let r := (build s now).run d
    let made := (Job.makeDirs (outputPath s)).run d
    let written := (writeTargets (targets s now)).run made.disk
    (∃ cause, made.value = .error cause ∧ r.value = .error (.io (outputPath s) cause) ∧
      r.disk = made.disk) ∨
    made.value = .ok () ∧ r.disk = written.disk ∧
      ((∃ e, written.value = .error e ∧ r.value = .error e) ∨
        written.value = .ok () ∧ r.value = .ok (report s)) := by
  dsimp only
  simp only [build, Settings.validate, if_pos h, Bind.bind, Job.run_bind]
  rcases ((Job.makeDirs (outputPath s)).run d).value with cause | ⟨⟩
  · exact .inl ⟨cause, rfl, rfl, rfl⟩
  · refine .inr ⟨rfl, ?_⟩
    simp only [Job.blame, Except.mapError, Job.run_bind]
    rcases ((writeTargets (targets s now)).run
      ((Job.makeDirs (outputPath s)).run d).disk).value with e | ⟨⟩
    · simp only [pure, Job.run, true_and]
      exact .inl ⟨e, rfl, rfl⟩
    · simp only [Job.run, and_self, or_true]

/-- What a build that went well has done. -/
lemma build_eq_ok {r : Report} (h : ((build s now).run d).value = .ok r) :
    let made := (Job.makeDirs (outputPath s)).run d
    let written := (writeTargets (targets s now)).run made.disk
    r = report s ∧ s.basePath.toList.head? = some '/' ∧ made.value = .ok () ∧
      written.value = .ok () ∧ ((build s now).run d).disk = written.disk := by
  have hbase : s.basePath.toList.head? = some '/' := by
    by_contra hbase
    rw [build_of_relative hbase] at h
    cases h
  rcases build_cases hbase now d with ⟨_, -, he, -⟩ | ⟨hmade, hdisk, ⟨_, -, he⟩ | ⟨hok, hr⟩⟩
  · rw [he] at h
    cases h
  · rw [he] at h
    cases h
  · rw [hr] at h
    exact ⟨(Except.ok.inj h).symm, hbase, hmade, hok, hdisk⟩

/-- A build goes well if its output directory can be made, and then its files be written. -/
lemma build_of_made {d₁ : Disk} (hbase : s.basePath.toList.head? = some '/')
    (hmade : (Job.makeDirs (outputPath s)).run d = ⟨.ok (), d₁, []⟩)
    (hwritten : ((writeTargets (targets s now)).run d₁).value = .ok ()) :
    ((build s now).run d).value = .ok (report s) ∧
      ((build s now).run d).disk = ((writeTargets (targets s now)).run d₁).disk := by
  rcases build_cases hbase now d with ⟨_, he, -⟩ | ⟨-, hdisk, ⟨_, he, -⟩ | ⟨-, hr⟩⟩
  · rw [hmade] at he
    cases he
  · rw [hmade, hwritten] at he
    cases he
  · rw [hmade] at hdisk
    exact ⟨hr, hdisk⟩

/-- All files of a site are there after a build that went well. -/
lemma read_of_build {r : Report} (h : ((build s now).run d).value = .ok r) :
    ∀ t ∈ targets s now, ((build s now).run d).disk.read t.path = .ok (Bytes.ofString t.text) := by
  obtain ⟨-, -, -, hok, hdisk⟩ := build_eq_ok h
  rw [hdisk]
  refine read_writeTargets ?_ hok
  rw [map_name?_targets]
  exact (fileNames_plain s).2

lemma ofRoute_route (page : Page) : Page.ofRoute page.route = page := by
  cases page <;> decide

/-- **A site that was built** is on the disk as a whole: its stylesheets, its pages and, if it is
wanted, a manifest that decodes to what was built and whose entries are the pages' files; the links
of the pages and of the manifest lead to the stylesheets below the base path, and the report names
these files. -/
theorem build_spec (d : Disk) (s : Settings) (now : Time.Instant) (r : Report)
    (h : ((build s now).run d).value = .ok r) :
    let d' := ((build s now).run d).disk
    let links := Stylesheet.hrefs s.basePath
    let m : Manifest := {
      metadata := .site
      pages := Page.all.map fun page => ⟨page.route, page.fileName⟩
      stylesheets := links
      generatedAt := now }
    (∀ sheet ∈ Stylesheet.all,
      d'.read (pathOf s sheet.name) = .ok (Bytes.ofString sheet.source)) ∧
    (∀ page ∈ Page.all,
      d'.read (pathOf s page.fileName) = .ok (Bytes.ofString (page.document links))) ∧
    (s.writeManifest = true → ∃ content text,
      d'.read (pathOf s manifestName) = .ok content ∧ Bytes.toString? content = some text ∧
      Manifest.ofJson text = .ok m ∧
      ∀ entry ∈ m.pages, d'.read (pathOf s entry.file) =
        .ok (Bytes.ofString ((Page.ofRoute entry.route).document m.stylesheets))) ∧
    (∀ link ∈ m.stylesheets, ∃ sheet ∈ Stylesheet.all, ∃ stem n,
      s.basePath.toList = stem ++ List.replicate n '/' ∧ stem.getLast? ≠ some '/' ∧
      link = String.ofList (stem ++ '/' :: sheet.name.toList) ∧
      d'.read (pathOf s sheet.name) = .ok (Bytes.ofString sheet.source)) ∧
    r = {
      outputDirectory := .ofString s.outputDirectory
      pages := Page.all.map fun page => pathOf s page.fileName
      stylesheets := Stylesheet.all.map fun sheet => pathOf s sheet.name
      manifest := if s.writeManifest then some (pathOf s manifestName) else none } := by
  intro d' links m
  have hread := read_of_build h
  have hsheets : ∀ sheet ∈ Stylesheet.all,
      d'.read (pathOf s sheet.name) = .ok (Bytes.ofString sheet.source) := by
    intro sheet hsheet
    have hmem : ⟨pathOf s sheet.name, sheet.source⟩ ∈ stylesheetTargets s :=
      List.mem_map_of_mem hsheet
    refine hread ⟨pathOf s sheet.name, sheet.source⟩ ?_
    simp only [targets, List.mem_append, hmem, true_or]
  have hpages : ∀ page ∈ Page.all,
      d'.read (pathOf s page.fileName) = .ok (Bytes.ofString (page.document links)) := by
    intro page hpage
    have hmem : ⟨pathOf s page.fileName, page.document links⟩ ∈ pageTargets s :=
      List.mem_map_of_mem hpage
    refine hread ⟨pathOf s page.fileName, page.document links⟩ ?_
    simp only [targets, List.mem_append, hmem, true_or, or_true]
  refine ⟨hsheets, hpages, fun hm => ?_, ?_, ?_⟩
  · have hmem : manifestTarget s now ∈ targets s now := by
      simp [targets, hm]
    have hdecode : Manifest.ofJson (manifest s now).toJson = .ok m :=
      Json.decode_run (manifest s now).readsBack
    refine ⟨_, _, hread _ hmem, Bytes.toString?_ofString _, hdecode, fun entry hentry => ?_⟩
    obtain ⟨page, hpage, rfl⟩ := List.mem_map.mp hentry
    rw [ofRoute_route]
    exact hpages page hpage
  · intro link hlink
    obtain ⟨sheet, hsheet, rfl⟩ := List.mem_map.mp hlink
    obtain ⟨⟨n, hbase⟩, hlast⟩ := trimSlashes_spec s.basePath.toList
    exact ⟨sheet, hsheet, _, n, hbase, hlast, rfl, hsheets sheet hsheet⟩
  · rw [(build_eq_ok h).1]
    rfl

/-- A site built into a directory that has to be made, below one that is there. -/
theorem build_spec_new_directory :
    let d : Disk := ⟨.dir [(.ofString "www", .dir [])], []⟩
    let s : Settings := { outputDirectory := "www/../out/site/", basePath := "/docs//" }
    let now : Time.Instant := ⟨0, 0, 0, 0, by decide, by decide, by decide, by decide, by decide⟩
    ((build s now).run d).value = .ok (report s) ∧
      ((build s now).run d).disk.read (pathOf s "404.html") =
        .ok (Bytes.ofString (Page.notFound.document ["/docs/globals.css"])) := by
  intro d s now
  have h : ((build s now).run d).value = .ok (report s) := by decide +kernel
  have hlinks : Stylesheet.hrefs s.basePath = ["/docs/globals.css"] := by decide +kernel
  refine ⟨h, ?_⟩
  rw [← hlinks]
  exact (build_spec d s now (report s) h).2.1 .notFound (by decide)

end StaticHost.Site
