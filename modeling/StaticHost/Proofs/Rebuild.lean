import StaticHost.Proofs.FailedBuild

/-!
Building a site where it was built before.

The second build finds its output directory, and every file that it writes is there: so it makes no
directory, and each write only puts a text in place of the one that is there. All texts but the
manifest's are the same whatever the time is, and a text put over itself changes nothing; so the
manifest is all that can differ between the two disks.
-/

namespace StaticHost.Site

open Files

variable {d : Disk} {s : Settings} {now later : Time.Instant}

/-! ### Writing files that are there -/

/-- Files that have their texts already are written without a trace. -/
lemma writeTargets_same {ts : List Target}
    (h : ∀ t ∈ ts, d.read t.path = .ok (Bytes.ofString t.text)) :
    ((writeTargets ts).run d).value = .ok () ∧ ((writeTargets ts).run d).disk = d := by
  induction ts with
  | nil => exact ⟨rfl, rfl⟩
  | cons t rest ih =>
    obtain ⟨dir, name, hlead, hfile⟩ := Disk.read_eq_ok_iff.mp (h t (by simp))
    have hsave : (Job.saveText t.path t.text).run d = ⟨.ok (), d, []⟩ := by
      rw [Job.run_saveText_of_leadsTo hlead (by simp [hfile]), Disk.put_file_self hfile]
    obtain ⟨hvalue, hdisk⟩ := run_writeTargets_cons_of_ok rest (by rw [hsave])
    rw [hvalue, hdisk, hsave]
    exact ih fun t' ht' => h t' (List.mem_cons_of_mem t ht')

/-- The files written last find the disk that the others left. -/
lemma run_writeTargets_append {ts : List Target} (us : List Target)
    (h : ((writeTargets ts).run d).value = .ok ()) :
    ((writeTargets (ts ++ us)).run d).value =
        ((writeTargets us).run ((writeTargets ts).run d).disk).value ∧
      ((writeTargets (ts ++ us)).run d).disk =
        ((writeTargets us).run ((writeTargets ts).run d).disk).disk := by
  induction ts generalizing d with
  | nil => exact ⟨rfl, rfl⟩
  | cons t rest ih =>
    obtain ⟨hfirst, hrest, hdisk⟩ := writeTargets_cons_eq_ok h
    obtain ⟨hvalue', hdisk'⟩ := run_writeTargets_cons_of_ok (rest ++ us) hfirst
    rw [List.cons_append, hvalue', hdisk', hdisk]
    exact ih hrest

/-- One file that is there gets another text, and nothing else changes. -/
lemma writeTargets_singleton {t : Target} {dir : List Name} {name : Name}
    (hlead : d.LeadsTo t.path dir name false) (hold : d.kindAt (dir ++ [name]) ≠ some .dir) :
    ((writeTargets [t]).run d).value = .ok () ∧
      ((writeTargets [t]).run d).disk = d.put dir name (.file (Bytes.ofString t.text)) := by
  have hsave := Job.run_saveText_of_leadsTo hlead hold t.text
  obtain ⟨hvalue, hdisk⟩ := run_writeTargets_cons_of_ok [] (by rw [hsave])
  rw [hvalue, hdisk, hsave]
  exact ⟨rfl, rfl⟩

/-! ### The second build -/

/-- A build finds the output directory of an earlier one, and goes straight to its files. -/
lemma build_after_build {r : Report} (h : ((build s now).run d).value = .ok r)
    (hok : ((writeTargets (targets s later)).run ((build s now).run d).disk).value = .ok ()) :
    let d₁ := ((build s now).run d).disk
    ((build s later).run d₁).value = .ok r ∧
      ((build s later).run d₁).disk = ((writeTargets (targets s later)).run d₁).disk := by
  intro d₁
  obtain ⟨rfl, hbase, hmade, hwritten, hdisk⟩ := build_eq_ok h
  have hout : outputPath s = [] ∨ d₁.isDir (outputPath s) = true := by
    have hfills := fills_writeTargets hwritten
    rw [← hdisk] at hfills
    exact (Job.isDir_of_makeDirs hmade).imp id (Disk.isDir_mono hfills.keepsDirs hfills.cwd_eq)
  exact build_of_made hbase (Job.run_makeDirs_of_isDir hout) hok

/-- Where the same files are to be written, nothing changes. -/
lemma rebuild_same {r : Report} (h : ((build s now).run d).value = .ok r)
    (htargets : targets s later = targets s now) :
    ((build s later).run ((build s now).run d).disk).value = .ok r ∧
      ((build s later).run ((build s now).run d).disk).disk = ((build s now).run d).disk := by
  have hsame := writeTargets_same (read_of_build h)
  rw [← htargets] at hsame
  obtain ⟨hvalue, hdisk⟩ := build_after_build h hsame.1
  exact ⟨hvalue, hdisk.trans hsame.2⟩

/-- The manifest comes last, and only its text depends on the time. -/
lemma targets_of_writeManifest (hm : s.writeManifest = true) (now : Time.Instant) :
    targets s now = (stylesheetTargets s ++ pageTargets s) ++ [manifestTarget s now] := by
  rw [targets, if_pos hm]

/-- **Another time** changes the manifest, and nothing else. -/
lemma rebuild_manifest {r : Report} (h : ((build s now).run d).value = .ok r)
    (hm : s.writeManifest = true) (later : Time.Instant) :
    let d₁ := ((build s now).run d).disk
    ∃ dir name, d₁.LeadsTo (pathOf s manifestName) dir name false ∧
      d₁.kindAt (dir ++ [name]) = some (.file (Bytes.ofString (manifest s now).toJson)) ∧
      ((build s later).run d₁).value = .ok r ∧
      ((build s later).run d₁).disk =
        d₁.put dir name (.file (Bytes.ofString (manifest s later).toJson)) := by
  intro d₁
  have hread := read_of_build h
  rw [targets_of_writeManifest hm] at hread
  obtain ⟨dir, name, hlead, hfile⟩ :=
    Disk.read_eq_ok_iff.mp (hread (manifestTarget s now) (by simp))
  refine ⟨dir, name, hlead, hfile, ?_⟩
  -- the files before the manifest are written without a trace, and then the manifest is
  obtain ⟨hok, hsame⟩ :=
    writeTargets_same fun t ht => hread t (List.mem_append_left [manifestTarget s now] ht)
  obtain ⟨hvalue, hdisk⟩ := run_writeTargets_append [manifestTarget s later] hok
  obtain ⟨hlast, hput⟩ := writeTargets_singleton (t := manifestTarget s later) hlead
    (by simp [hfile])
  rw [← targets_of_writeManifest hm, hsame] at hvalue hdisk
  rw [hlast] at hvalue
  rw [hput] at hdisk
  obtain ⟨hbuilt, hdisk₁⟩ := build_after_build h hvalue
  exact ⟨hbuilt, hdisk₁.trans hdisk⟩

/-- Without a manifest, a build writes no file of its name. -/
lemma not_isTarget_manifest {d' : Disk} {dir : List Name} {name : Name}
    (hm : s.writeManifest = false) (hlead : d.LeadsTo (pathOf s manifestName) dir name false) :
    ¬ IsTarget d' (targets s now) (dir ++ [name]) := by
  rintro ⟨t, ht, dir', name', hlead', hplace⟩
  obtain ⟨-, hname⟩ := List.append_inj' hplace rfl
  have hlast : (pathOf s manifestName).components.getLast? = some (Bytes.ofString manifestName) :=
    Path.getLast?_components_join (by decide) (by decide)
  have hmem : t.name? ∈ (targets s now).map Target.name? := List.mem_map_of_mem ht
  rw [Target.name?, hlead'.parts.1, ← List.singleton_inj.mp hname, ← hlead.parts.1, hlast,
    map_name?_targets, fileNames, if_neg (by simp [hm])] at hmem
  exact absurd hmem (by decide)

/-- **Building again** goes well, with the same report, and changes nothing but the text of the
manifest. At the same time, or without a manifest, it changes nothing at all; and without one, what
stands in its place stays as it is through both builds. -/
theorem rebuild (d : Disk) (s : Settings) (now later : Time.Instant) (r : Report)
    (h : ((build s now).run d).value = .ok r) :
    let d₁ := ((build s now).run d).disk
    let d₂ := ((build s later).run d₁).disk
    ((build s later).run d₁).value = .ok r ∧
    d₂.cwd = d₁.cwd ∧
    (∀ place, d₂.kindAt place = d₁.kindAt place ∨
      s.writeManifest = true ∧
        (∃ dir name, d₁.LeadsTo (pathOf s manifestName) dir name false ∧ place = dir ++ [name]) ∧
        d₁.kindAt place = some (.file (Bytes.ofString (manifest s now).toJson)) ∧
        d₂.kindAt place = some (.file (Bytes.ofString (manifest s later).toJson))) ∧
    (now = later ∨ s.writeManifest = false → d₂ = d₁) ∧
    (s.writeManifest = false → ∀ dir name,
      d₁.LeadsTo (pathOf s manifestName) dir name false → d.kindAt (dir ++ [name]) ≠ none →
      d₁.kindAt (dir ++ [name]) = d.kindAt (dir ++ [name]) ∧
        d₂.kindAt (dir ++ [name]) = d.kindAt (dir ++ [name])) := by
  intro d₁ d₂
  have hsame : now = later ∨ s.writeManifest = false → targets s later = targets s now := by
    rintro (rfl | hm)
    · rfl
    · simp [targets, hm]
  -- only the manifest holds the time
  by_cases hm : s.writeManifest = true
  · obtain ⟨dir, name, hlead, hfile, hvalue, hdisk⟩ := rebuild_manifest h hm later
    have hold : d₁.kindAt (dir ++ [name]) ≠ some .dir := by simp [d₁, hfile]
    have hcwd : d₂.cwd = d₁.cwd := by
      rw [show d₂ = _ from hdisk]
      rfl
    refine ⟨hvalue, hcwd, fun place => ?_, fun heq => (rebuild_same h (hsame heq)).2, by simp [hm]⟩
    rw [show d₂ = _ from hdisk, Disk.kindAt_put_file hlead.isDir hold]
    by_cases hplace : place = dir ++ [name]
    · subst hplace
      exact .inr ⟨hm, ⟨dir, name, hlead, rfl⟩, hfile, if_pos rfl⟩
    · exact .inl (if_neg hplace)
  · rw [Bool.not_eq_true] at hm
    obtain ⟨hvalue, hdisk⟩ := rebuild_same h (hsame (.inr hm))
    rw [show d₂ = d₁ from hdisk]
    refine ⟨hvalue, rfl, fun _ => .inl rfl, fun _ => rfl, fun _ dir name hlead hthere => ?_⟩
    have hkept := (fills_build h).kept hthere (not_isTarget_manifest hm hlead)
    exact ⟨hkept, hkept⟩

/-- A site built an hour later, over a way that goes up: only the manifest is new. -/
theorem rebuild_an_hour_later :
    let d : Disk := ⟨.dir [], []⟩
    let s : Settings := { outputDirectory := "new/.././out/" }
    let now : Time.Instant := ⟨0, 0, 0, 0, by decide, by decide, by decide, by decide, by decide⟩
    let later : Time.Instant :=
      ⟨0, 60, 0, 0, by decide, by decide, by decide, by decide, by decide⟩
    let d₁ := ((build s now).run d).disk
    ((build s now).run d).value = .ok (report s) ∧
      ((build s later).run d₁).value = .ok (report s) ∧
      ((build s later).run d₁).disk.kindAt [.ofString "out", .ofString "index.html"] =
        d₁.kindAt [.ofString "out", .ofString "index.html"] := by
  intro d s now later d₁
  have h : ((build s now).run d).value = .ok (report s) := by decide +kernel
  obtain ⟨hvalue, -, hplaces, -⟩ := rebuild d s now later (report s) h
  refine ⟨h, hvalue, ?_⟩
  rcases hplaces [.ofString "out", .ofString "index.html"] with
    hsame | ⟨-, ⟨dir, name, hlead, hplace⟩, -⟩
  · exact hsame
  · have hname : some (Bytes.ofString "index.html") = some name := by
      simpa using congrArg List.getLast? hplace
    have hlast := hlead.parts.1
    rw [← hname] at hlast
    exact absurd hlast (by decide +kernel)

end StaticHost.Site
