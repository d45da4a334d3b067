import StaticHost.Proofs.SiteBuild

/-!
A build that failed: what is on the disk afterwards, and what the error blames.

A build fails before it touches the disk, while it makes the output directory, or at one of its
files. Once the output directory is there, nothing else has to be made for a file, so a file that
cannot be written is the only thing that can stop the build from then on. What such a build leaves
is what writing the files before it leaves.
-/

namespace StaticHost.Site

open Files

variable {d d' : Disk} {s : Settings} {now : Time.Instant} {e : HostError}

/-! ### What writing files changes -/

def IsTarget (d : Disk) (ts : List Target) (place : List Name) : Prop :=
  ∃ t ∈ ts, ∃ dir name, d.LeadsTo t.path dir name false ∧ place = dir ++ [name]

/-- The second disk is the first one with files written to it, and directories made. -/
structure Fills (ts : List Target) (d d' : Disk) : Prop where
  cwd_eq : d'.cwd = d.cwd
  keepsDirs : d.KeepsDirs d'
  places : ∀ place, d'.kindAt place = d.kindAt place ∨
    (d.kindAt place = none ∧ d'.kindAt place = some .dir) ∨
    (IsTarget d' ts place ∧ ∃ content, d'.kindAt place = some (.file content))

lemma IsTarget.mono {ts us : List Target} {place : List Name} (h : IsTarget d ts place)
    (hsub : ts ⊆ us) (hk : d.KeepsDirs d') (hc : d'.cwd = d.cwd) : IsTarget d' us place := by
  obtain ⟨t, ht, dir, name, hlead, rfl⟩ := h
  exact ⟨t, hsub ht, dir, name, hlead.mono hk hc, rfl⟩

lemma Fills.of_grows (h : d.Grows d') : Fills [] d d' := by
  refine ⟨h.cwd_eq, h.keepsDirs, fun place => ?_⟩
  cases hk : d.kindAt place with
  | none => exact (h.new place hk).imp id fun hdir => .inl ⟨rfl, hdir⟩
  | some k => exact .inl (by rw [h.old place (by simp [hk]), hk])

lemma Fills.trans {ts us : List Target} {d'' : Disk} (h : Fills ts d d') (h' : Fills us d' d'') :
    Fills (ts ++ us) d d'' := by
  refine ⟨h'.cwd_eq.trans h.cwd_eq, fun place hp => h'.keepsDirs place (h.keepsDirs place hp),
    fun place => ?_⟩
  rcases h'.places place with hsame | ⟨hnone, hdir⟩ | ⟨htarget, hfile⟩
  · rw [hsame]
    rcases h.places place with hsame' | hnew | ⟨htarget, hfile⟩
    · exact .inl hsame'
    · exact .inr (.inl hnew)
    · exact .inr (.inr ⟨htarget.mono (List.subset_append_left ts us) h'.keepsDirs h'.cwd_eq, hfile⟩)
  · rcases h.places place with hsame' | ⟨-, hdir'⟩ | ⟨-, content, hfile⟩
    · exact .inr (.inl ⟨hsame' ▸ hnone, hdir⟩)
    · simp [hdir'] at hnone
    · simp [hfile] at hnone
  · exact .inr (.inr ⟨htarget.mono (List.subset_append_right ts us) (fun _ hp => hp) rfl, hfile⟩)

/-- What is there and not written over stays as it is. -/
lemma Fills.kept {ts : List Target} (h : Fills ts d d') {place : List Name}
    (hthere : d.kindAt place ≠ none) (hnot : ¬ IsTarget d' ts place) :
    d'.kindAt place = d.kindAt place := by
  rcases h.places place with hsame | ⟨hnone, -⟩ | ⟨htarget, -⟩
  · exact hsame
  · exact absurd hnone hthere
  · exact absurd htarget hnot

lemma Fills.file_kept {ts : List Target} (h : Fills ts d d') {place : List Name} {content : Bytes}
    (hfile : d.kindAt place = some (.file content)) (hnot : ¬ IsTarget d' ts place) :
    d'.kindAt place = some (.file content) :=
  (h.kept (by simp [hfile]) hnot).trans hfile

lemma Fills.entry_kept {ts : List Target} (h : Fills ts d d') {place : List Name}
    (hthere : d.kindAt place ≠ none) : d'.kindAt place ≠ none := by
  rcases h.places place with hsame | ⟨hnone, -⟩ | ⟨-, content, hfile⟩
  · rwa [hsame]
  · exact absurd hnone hthere
  · simp [hfile]

lemma Fills.file_new {ts : List Target} (h : Fills ts d d') {place : List Name} {content : Bytes}
    (hfile : d'.kindAt place = some (.file content)) :
    (∃ old, d.kindAt place = some (.file old)) ∨ IsTarget d' ts place := by
  rcases h.places place with hsame | ⟨-, hdir⟩ | ⟨htarget, -⟩
  · exact .inl ⟨content, by rw [← hsame, hfile]⟩
  · simp [hdir] at hfile
  · exact .inr htarget

lemma fills_saveText {t : Target} (h : ((Job.saveText t.path t.text).run d).value = .ok ()) :
    Fills [t] d ((Job.saveText t.path t.text).run d).disk := by
  have hmade := Fills.of_grows (Job.run_makeParent t.path d).1
  obtain ⟨dir, name, -, hlead, hold, hrun⟩ := Job.saveText_eq_ok h
  rw [hrun]
  have hkeeps : Disk.KeepsDirs _ (Disk.put _ dir name (.file (Bytes.ofString t.text))) :=
    Disk.keepsDirs_put_file hlead.isDir hold
  refine hmade.trans ⟨rfl, hkeeps, fun place => ?_⟩
  rw [Disk.kindAt_put_file hlead.isDir hold]
  split_ifs with hplace
  · exact .inr (.inr ⟨⟨t, by simp, dir, name, hlead.mono hkeeps rfl, hplace⟩, _, rfl⟩)
  · exact .inl rfl

/-- **Writing files** that went well changes the places of these files, and makes directories. -/
lemma fills_writeTargets {ts : List Target} (h : ((writeTargets ts).run d).value = .ok ()) :
    Fills ts d ((writeTargets ts).run d).disk := by
  induction ts generalizing d with
  | nil => exact ⟨rfl, fun _ hp => hp, fun _ => .inl rfl⟩
  | cons t rest ih =>
    obtain ⟨hfirst, hrest, hdisk⟩ := writeTargets_cons_eq_ok h
    rw [hdisk]
    exact (fills_saveText hfirst).trans (ih hrest)

/-- What writing files leaves of a disk on which directories were made before. -/
lemma fills_of_grows {d₁ : Disk} {ts : List Target} (hgrows : d.Grows d₁)
    (hok : ((writeTargets ts).run d₁).value = .ok ()) :
    Fills ts d ((writeTargets ts).run d₁).disk :=
  (Fills.of_grows hgrows).trans (fills_writeTargets hok)

/-- What a build that went well changes: the places of its files, and it makes directories. -/
lemma fills_build {r : Report} (h : ((build s now).run d).value = .ok r) :
    Fills (targets s now) d ((build s now).run d).disk := by
  obtain ⟨-, -, -, hwritten, hdisk⟩ := build_eq_ok h
  rw [hdisk]
  exact fills_of_grows (Job.run_makeChain (outputPath s).ancestors d).1 hwritten

/-! ### The first file that cannot be written -/

/-- A name that can be joined to any path. -/
def IsFileName (name : Name) : Prop :=
  Path.slash ∉ name ∧ Path.isIdle name = false

lemma saveText_error {base : Path} {name : Name} {text : String} (hname : IsFileName name)
    (hbase : base = [] ∨ d.isDir base = true)
    (h : ((Job.saveText (base.join name) text).run d).value = .error e) :
    ((Job.saveText (base.join name) text).run d).disk = d ∧
      ∃ cause, e = .io (base.join name) cause := by
  rw [Job.run_saveText, Job.run_makeParent_join hname.1 hname.2 hbase] at h ⊢
  cases hw : d.write (base.join name) (Bytes.ofString text) with
  | ok d' => simp [hw] at h
  | error cause =>
    simp only [hw, Except.error.injEq] at h
    exact ⟨by simp, cause, h.symm⟩

/-- **Where the output directory is**, files are written up to the first one that fails, which
leaves the disk as it was and is blamed. -/
lemma writeTargets_error {base : Path} {ts : List Target}
    (hts : ∀ t ∈ ts, ∃ name, IsFileName name ∧ t.path = base.join name)
    (hbase : base = [] ∨ d.isDir base = true)
    (h : ((writeTargets ts).run d).value = .error e) :
    ∃ k t cause, ts[k]? = some t ∧ e = .io t.path cause ∧
      ((writeTargets (ts.take k)).run d).value = .ok () ∧
      ((writeTargets ts).run d).disk = ((writeTargets (ts.take k)).run d).disk := by
  induction ts generalizing d with
  | nil => cases h
  | cons t rest ih =>
    obtain ⟨name, hname, hpath⟩ := hts t (by simp)
    rcases run_writeTargets_cons t rest d with ⟨e', he', hvalue, hdisk⟩ | ⟨hfirst, hvalue, hdisk⟩
    · obtain rfl : e' = e := by
        rw [hvalue] at h
        exact Except.error.inj h
      rw [hpath] at he'
      obtain ⟨hsame, cause, hcause⟩ := saveText_error hname hbase he'
      refine ⟨0, t, cause, rfl, by rw [hcause, hpath], rfl, ?_⟩
      rw [hdisk, hpath, hsame]
      rfl
    · rw [hvalue] at h
      -- the directory is still there for the files behind the first
      have hkeeps := Job.keepsDirs_saveText t.path t.text d
      have hcwd := (Job.saveText_changes t.path t.text d).1
      obtain ⟨k, t', cause, ht', he, hok, hrest⟩ :=
        ih (fun t' ht' => hts t' (List.mem_cons_of_mem t ht'))
          (hbase.imp id (Disk.isDir_mono hkeeps hcwd)) h
      refine ⟨k + 1, t', cause, ht', he, ?_⟩
      obtain ⟨hvalue', hdisk'⟩ := run_writeTargets_cons_of_ok (rest.take k) hfirst
      rw [List.take_succ_cons, hdisk, hrest]
      exact ⟨hvalue'.trans hok, hdisk'.symm⟩

/-! ### Where a build stops -/

lemma isFileName_of_mem {name : String} (h : name ∈ fileNames s) :
    IsFileName (Bytes.ofString name) := by
  suffices ∀ name ∈ fileNames s, IsFileName (Bytes.ofString name) from this name h
  unfold fileNames IsFileName
  cases s.writeManifest <;> decide

lemma path_of_mem_targets {t : Target} (h : t ∈ targets s now) :
    ∃ name, IsFileName name ∧ t.path = (outputPath s).join name := by
  obtain ⟨name, hname, hpath⟩ := exists_fileName h
  exact ⟨_, isFileName_of_mem hname, hpath⟩

/-- **Where a build stops**: at its base path, at its output directory, or at a file. -/
lemma build_eq_error (h : ((build s now).run d).value = .error e) :
    (s.basePath.toList.head? ≠ some '/' ∧ e = .invalidBasePath s.basePath ∧
      ((build s now).run d).disk = d) ∨
    s.basePath.toList.head? = some '/' ∧ ∃ d₁, d.Grows d₁ ∧
      ((∃ cause, e = .io (outputPath s) cause ∧ ((build s now).run d).disk = d₁) ∨
        (outputPath s = [] ∨ d₁.isDir (outputPath s) = true) ∧
          ((writeTargets (targets s now)).run d₁).value = .error e ∧
          ((build s now).run d).disk = ((writeTargets (targets s now)).run d₁).disk) := by
  by_cases hbase : s.basePath.toList.head? = some '/'
  · refine .inr ⟨hbase, _, (Job.run_makeChain (outputPath s).ancestors d).1, ?_⟩
    rcases build_cases hbase now d with
      ⟨cause, -, hr, hdisk⟩ | ⟨hmade, hdisk, ⟨e', hfailed, hr⟩ | ⟨-, hr⟩⟩
    · rw [hr] at h
      exact .inl ⟨cause, (Except.error.inj h).symm, hdisk⟩
    · rw [hr] at h
      cases h
      exact .inr ⟨Job.isDir_of_makeDirs hmade, hfailed, hdisk⟩
    · rw [hr] at h
      cases h
  · rw [build_of_relative hbase] at h ⊢
    exact .inl ⟨hbase, (Except.error.inj h).symm, rfl⟩

/-- **A build that failed** either had no base path, and then the disk is as it was; or it stopped
at the output directory or at one of the files. The files before that one are there as a whole, all
other files are what they were, and nothing is gone. -/
theorem build_failed (d : Disk) (s : Settings) (now : Time.Instant) (e : HostError)
    (h : ((build s now).run d).value = .error e) :
    let d' := ((build s now).run d).disk
    let files : List Target :=
      (Stylesheet.all.map fun sheet => ⟨pathOf s sheet.name, sheet.source⟩)
        ++ (Page.all.map fun page =>
          ⟨pathOf s page.fileName, page.document (Stylesheet.hrefs s.basePath)⟩)
        ++ if s.writeManifest then [⟨pathOf s manifestName, (manifest s now).toJson⟩] else []
    (s.basePath.toList.head? ≠ some '/' → e = .invalidBasePath s.basePath ∧ d' = d) ∧
    (∀ base, e = .invalidBasePath base → s.basePath.toList.head? ≠ some '/') ∧
    (s.basePath.toList.head? = some '/' → ∃ k path cause, e = .io path cause ∧
      (k = 0 ∧ path = outputPath s ∨ ∃ t, files[k]? = some t ∧ path = t.path) ∧
      (∀ t ∈ files.take k, d'.read t.path = .ok (Bytes.ofString t.text)) ∧
      (∀ place content, d.kindAt place = some (.file content) →
        ¬ IsTarget d' (files.take k) place → d'.kindAt place = some (.file content)) ∧
      (∀ place, d.kindAt place = some .dir → d'.kindAt place = some .dir) ∧
      (∀ place, d.kindAt place ≠ none → d'.kindAt place ≠ none) ∧
      (∀ place content, d'.kindAt place = some (.file content) →
        (∃ old, d.kindAt place = some (.file old)) ∨ IsTarget d' (files.take k) place)) := by
  intro d' files
  rcases build_eq_error h with ⟨hhead, rfl, hdisk⟩ | ⟨hhead, d₁, hgrows, hcases⟩
  · exact ⟨fun _ => ⟨rfl, hdisk⟩, fun _ _ => hhead, fun h => absurd h hhead⟩
  · obtain ⟨k, path, cause, rfl, hpath, hok, hdisk⟩ : ∃ k path cause, e = .io path cause ∧
        (k = 0 ∧ path = outputPath s ∨ ∃ t, files[k]? = some t ∧ path = t.path) ∧
        ((writeTargets (files.take k)).run d₁).value = .ok () ∧
        d' = ((writeTargets (files.take k)).run d₁).disk := by
      rcases hcases with ⟨cause, he, hdisk⟩ | ⟨hout, hfailed, hdisk⟩
      · exact ⟨0, outputPath s, cause, he, .inl ⟨rfl, rfl⟩, rfl, hdisk⟩
      · obtain ⟨k, t, cause, ht, he, hok, hsame⟩ :=
          writeTargets_error (fun t ht => path_of_mem_targets ht) hout hfailed
        exact ⟨k, t.path, cause, he, .inr ⟨t, ht, rfl⟩, hok, hdisk.trans hsame⟩
    have hnames : ((files.take k).map Target.name?).Nodup := by
      refine List.Nodup.sublist ((List.take_sublist k files).map Target.name?) ?_
      rw [show files.map Target.name? = _ from map_name?_targets s now]
      exact (fileNames_plain s).2
    have hfills : Fills (files.take k) d d' := hdisk ▸ fills_of_grows hgrows hok
    refine ⟨fun hnot => absurd hhead hnot, by simp, fun _ => ⟨k, path, cause, rfl, hpath, ?_,
      fun _ _ => hfills.file_kept, hfills.keepsDirs, fun _ => hfills.entry_kept,
      fun _ _ => hfills.file_new⟩⟩
    rw [hdisk]
    exact read_writeTargets hnames hok

/-- A site whose second page cannot be written, for a directory is in its place. -/
theorem build_failed_directory_in_the_way :
    let out : Tree := .dir [(.ofString "404.html", .dir [])]
    let d : Disk := ⟨.dir [(.ofString "out", out)], []⟩
    let s : Settings := { outputDirectory := "out" }
    let now : Time.Instant := ⟨0, 0, 0, 0, by decide, by decide, by decide, by decide, by decide⟩
    let e : HostError := .io (pathOf s "404.html") .isADirectory
    let d' := ((build s now).run d).disk
    ((build s now).run d).value = .error e ∧
      ∃ k, (∃ t, (targets s now)[k]? = some t ∧ t.path = pathOf s "404.html") ∧
        ∀ t ∈ (targets s now).take k, d'.read t.path = .ok (Bytes.ofString t.text) := by
  intro out d s now e d'
  have h : ((build s now).run d).value = .error e := by decide +kernel
  obtain ⟨k, path, cause, he, hpath, hread, -⟩ := (build_failed d s now e h).2.2 (by decide)
  obtain ⟨rfl, -⟩ := HostError.io.inj he
  refine ⟨h, k, ?_, hread⟩
  rcases hpath with ⟨-, hout⟩ | ⟨t, ht, hpath⟩
  · exact absurd hout (by decide)
  · exact ⟨t, ht, hpath.symm⟩

end StaticHost.Site
