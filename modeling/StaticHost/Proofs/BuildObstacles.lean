import Mathlib.Data.List.Infix
import StaticHost.Proofs.FailedBuild

/-!
What can be in the way of a build.

A way of names goes down from where it starts, and can be paved exactly if no file stands on it:
what is missing is made, and a directory that is there is passed. Once the output directory is
there, a file can be written unless a directory has its name. So a build goes well exactly if there
is neither obstacle, and both can be told from the disk as it was before the build.
-/

namespace StaticHost.Files.Disk

variable {d d' : Disk} {here parts : List Name}

/-! ### Ways of names -/

lemma follow_names (h : ∀ part ∈ parts, Ordinary part) : follow here parts = here ++ parts := by
  induction parts generalizing here with
  | nil => simp [follow]
  | cons part rest ih =>
    have hpart := h part (by simp)
    rw [follow, if_neg hpart.1, if_neg hpart.2, ih fun x hx => h x (List.mem_cons_of_mem part hx)]
    simp

lemma ensureDir_eq_none_iff {name : Name} (hdir : d.kindAt here = some .dir)
    (hlen : name.length ≤ 255) :
    d.ensureDir here name = none ↔ ∃ content, d.kindAt (here ++ [name]) = some (.file content) := by
  rw [ensureDir, if_pos ⟨hdir, hlen⟩]
  rcases d.kindAt (here ++ [name]) with _ | ⟨content⟩ | _ <;> simp

/-- **A way of names can be paved** exactly if no file stands on it. -/
lemma exists_pave_iff (hdir : d.kindAt here = some .dir)
    (hparts : ∀ part ∈ parts, Ordinary part ∧ part.length ≤ 255) :
    (∃ d', d.pave here parts = some d') ↔
      ∀ front, front <+: parts → ∀ content, d.kindAt (here ++ front) ≠ some (.file content) := by
  induction parts generalizing d here with
  | nil => simp [hdir]
  | cons part rest ih =>
    obtain ⟨hpart, hlen⟩ := hparts part (by simp)
    rw [pave_ordinary hpart]
    cases hmade : d.ensureDir here part with
    | none =>
      -- the file stands on the first part already
      obtain ⟨content, hfile⟩ := (ensureDir_eq_none_iff hdir hlen).mp hmade
      refine ⟨by simp, fun hclear => absurd hfile (hclear [part] ?_ content)⟩
      exact ⟨rest, rfl⟩
    | some d₁ =>
      obtain ⟨hgrows, hdir₁, -⟩ := ensureDir_spec hmade
      rw [Option.bind_some, ih hdir₁ fun x hx => hparts x (List.mem_cons_of_mem part hx)]
      constructor
      · -- directories that are made put no file on the way, and remove none
        intro hclear front hfront content hfile
        rcases List.prefix_cons_iff.mp hfront with rfl | ⟨inner, rfl, hinner⟩
        · simp [hdir] at hfile
        · refine hclear inner hinner content (hgrows.file_iff.mpr ?_)
          rwa [List.append_assoc, List.singleton_append]
      · intro hclear front hfront content hfile
        refine hclear (part :: front) (List.cons_prefix_cons.mpr ⟨rfl, hfront⟩) content ?_
        rw [← hgrows.file_iff, ← hfile, List.append_assoc, List.singleton_append]

/-- Where a way of names starts, a directory has to be. -/
lemma kindAt_of_pave_cons {part : Name} {rest : List Name} (hpart : Ordinary part)
    (h : d.pave here (part :: rest) = some d') : d.kindAt here = some .dir := by
  rw [pave_ordinary hpart] at h
  obtain ⟨d₁, h₁, -⟩ := Option.bind_eq_some_iff.mp h
  by_contra hdir
  simp [ensureDir, hdir] at h₁

lemma kindAt_ensureDir {name : Name} {place : List Name} (h : d.ensureDir here name = some d')
    (hne : place ≠ here ++ [name]) : d'.kindAt place = d.kindAt place := by
  unfold ensureDir at h
  split_ifs at h with hdir
  rcases hk : d.kindAt (here ++ [name]) with _ | ⟨content⟩ | _
  · simp only [hk, Option.some.injEq] at h
    rw [← h, kindAt_put get?_dir_nil hdir.1 (by simp [hk]), if_neg hne]
  · simp [hk] at h
  · simp only [hk, Option.some.injEq] at h
    rw [h]

/-- Paving a way of names makes no directory beside it or beyond its end. -/
lemma kindAt_pave {place : List Name} (hparts : ∀ part ∈ parts, Ordinary part)
    (h : d.pave here parts = some d') (hplace : ¬ place <+: here ++ parts) :
    d'.kindAt place = d.kindAt place := by
  induction parts generalizing d here with
  | nil =>
    cases h
    rfl
  | cons part rest ih =>
    rw [pave_ordinary (hparts part (by simp))] at h
    obtain ⟨d₁, h₁, h⟩ := Option.bind_eq_some_iff.mp h
    have hne : place ≠ here ++ [part] := by
      rintro rfl
      exact hplace ⟨rest, by simp⟩
    rw [← kindAt_ensureDir h₁ hne]
    refine ih (fun x hx => hparts x (List.mem_cons_of_mem part hx)) h ?_
    rwa [List.append_assoc, List.singleton_append]

/-- A paved way of names ends at a directory. -/
lemma kindAt_end_of_pave (hdir : d.kindAt here = some .dir)
    (hparts : ∀ part ∈ parts, Ordinary part) (h : d.pave here parts = some d') :
    d'.kindAt (here ++ parts) = some .dir := by
  induction parts generalizing d here with
  | nil =>
    cases h
    simpa using hdir
  | cons part rest ih =>
    rw [pave_ordinary (hparts part (by simp))] at h
    obtain ⟨d₁, h₁, h⟩ := Option.bind_eq_some_iff.mp h
    have hend := ih (ensureDir_spec h₁).2.1 (fun x hx => hparts x (List.mem_cons_of_mem part hx)) h
    rwa [List.append_assoc, List.singleton_append] at hend

/-- Where a way of names leads to a directory, a path to a name in it leads there. -/
lemma leadsTo_join {base : Path} {name : Name} {dir : List Name} (hs : Path.slash ∉ name)
    (hne : name ≠ []) (hname : Ordinary name ∧ name.length ≤ 255) (hu : Usable (base.join name))
    (hwalk : d.walk (d.start base) base.components = .ok dir) (hdir : d.kindAt dir = some .dir) :
    d.LeadsTo (base.join name) dir name false := by
  refine ⟨?_, hdir, hname.2⟩
  have hstart : d.start (base.join name) = d.start base := by
    rw [start, start, Path.isAbsolute_join hs]
  have hend : (base.join name).getLast? ≠ some Path.slash := by
    obtain ⟨front, hjoin, -⟩ := Path.exists_join_eq base hs
    rw [hjoin, List.getLast?_append_of_ne_nil _ hne]
    exact fun hlast => hs (List.mem_of_getLast? hlast)
  rw [locate_of_usable hu, Path.components_join (Path.isAbsolute_of_slash_not_mem hs),
    Path.components_name hs hne, List.getLast?_concat, List.dropLast_concat, hstart, hwalk]
  simp [Except.map, hname.1.1, hname.1.2, hend]

/-- A path of names leads to the place that it spells. -/
lemma LeadsTo.place_eq {p : Path} {dir : List Name} {name : Name} {slash : Bool}
    (h : d.LeadsTo p dir name slash) (hparts : ∀ part ∈ p.components, Ordinary part) :
    dir ++ [name] = d.start p ++ p.components := by
  obtain ⟨hlast, -, hwalk⟩ := h.parts
  obtain ⟨init, hinit⟩ := List.getLast?_eq_some_iff.mp hlast
  rw [hinit] at hparts ⊢
  rw [hinit, List.dropLast_concat] at hwalk
  rw [walk_eq_follow hwalk, follow_names fun part hpart => hparts part (by simp [hpart]),
    List.append_assoc]

end StaticHost.Files.Disk

namespace StaticHost.Files.Path

/-- A path of names: it has no NUL in it, nowhere a dot or two, and no name is too long. -/
structure OfNames (p : Path) : Prop where
  noNul : 0 ∉ p
  names : ∀ part ∈ p.components, Disk.Ordinary part ∧ part.length ≤ 255

lemma OfNames.ordinary {p : Path} (h : p.OfNames) : ∀ part ∈ p.components, Disk.Ordinary part :=
  fun part hpart => (h.names part hpart).1

lemma OfNames.solid_eq {p : Path} (h : p.OfNames) : p.solid = p.components :=
  List.filter_eq_self.mpr fun part hpart => by simpa using (h.names part hpart).1.1

lemma OfNames.tidy {p : Path} (h : p.OfNames) : p.Tidy := fun hdot =>
  absurd rfl (h.names _ (List.mem_of_getLast? hdot)).1.1

end StaticHost.Files.Path

namespace StaticHost.Site

open Files

variable {d : Disk} {s : Settings} {now : Time.Instant}

/-! ### The files of a build -/

/-- Making a directory at a path of names paves it. -/
lemma paves_makeDirs {p : Path} (hp : p.OfNames) (hshort : p.length < 4096) (d : Disk) :
    Job.Paves ((Job.makeDirs p).run d) (d.pave (d.start p) p.components) := by
  have hu : p = [] ∨ Disk.Usable p :=
    or_iff_not_imp_left.mpr fun hne => ⟨hp.noNul, hne, hshort⟩
  have hpaves := Job.run_makeDirs p hp.tidy hu d
  rwa [hp.solid_eq] at hpaves

/-- **Files whose paths lead to names** that no directory has can all be written. -/
lemma writeTargets_eq_ok {ts : List Target}
    (h : ∀ t ∈ ts, ∃ dir name, d.LeadsTo t.path dir name false ∧
      d.kindAt (dir ++ [name]) ≠ some .dir) :
    ((writeTargets ts).run d).value = .ok () := by
  induction ts generalizing d with
  | nil => rfl
  | cons t rest ih =>
    obtain ⟨dir, name, hlead, hold⟩ := h t (by simp)
    have hsave := Job.run_saveText_of_leadsTo hlead hold t.text
    rw [(run_writeTargets_cons_of_ok rest (by rw [hsave])).1, hsave]
    refine ih fun t' ht' => ?_
    obtain ⟨dir', name', hlead', hold'⟩ := h t' (List.mem_cons_of_mem t ht')
    refine ⟨dir', name', hlead'.mono (Disk.keepsDirs_put_file hlead.isDir hold) rfl, ?_⟩
    rw [Disk.kindAt_put_file hlead.isDir hold]
    split_ifs
    · simp
    · exact hold'

/-- The name by which the path of a file goes on from the output directory. -/
structure IsInside (t : Target) (s : Settings) (name : Name) : Prop where
  path_eq : t.path = (outputPath s).join name
  noSlash : Path.slash ∉ name
  noNul : 0 ∉ name
  isName : Disk.Ordinary name ∧ name.length ≤ 255
  ne_nil : name ≠ []

lemma exists_isInside {t : Target} (h : t ∈ targets s now) : ∃ name, IsInside t s name := by
  obtain ⟨name, hname, hpath⟩ := exists_fileName h
  have hplain : ∀ name ∈ fileNames s, 0 ∉ Bytes.ofString name ∧
      Disk.Ordinary (Bytes.ofString name) ∧ (Bytes.ofString name).length ≤ 255 := by
    unfold fileNames
    cases s.writeManifest <;> decide
  obtain ⟨hslash, hne⟩ := (fileNames_plain s).1 name hname
  exact ⟨_, hpath, hslash, (hplain name hname).1, (hplain name hname).2, hne⟩

lemma exists_targets_cons (s : Settings) (now : Time.Instant) :
    ∃ t rest, targets s now = t :: rest :=
  ⟨_, _, rfl⟩

section Inside

variable {t : Target} {name : Name}

lemma IsInside.components_eq (h : IsInside t s name) :
    t.path.components = (outputPath s).components ++ [name] := by
  rw [h.path_eq, Path.components_join (Path.isAbsolute_of_slash_not_mem h.noSlash),
    Path.components_name h.noSlash h.ne_nil]

lemma IsInside.start_eq (h : IsInside t s name) (d : Disk) :
    d.start t.path = d.start (outputPath s) := by
  rw [h.path_eq, Disk.start, Disk.start, Path.isAbsolute_join h.noSlash]

lemma IsInside.ordinary (h : IsInside t s name) (hout : (outputPath s).OfNames) :
    ∀ part ∈ t.path.components, Disk.Ordinary part := by
  intro part hpart
  rw [h.components_eq, List.mem_append, List.mem_singleton] at hpart
  rcases hpart with hpart | rfl
  · exact hout.ordinary part hpart
  · exact h.isName.1

lemma IsInside.usable (h : IsInside t s name) (hout : (outputPath s).OfNames)
    (hshort : t.path.length < 4096) : Disk.Usable t.path := by
  obtain ⟨front, hjoin, -, hfront⟩ := Path.exists_join_eq (outputPath s) h.noSlash
  refine ⟨?_, ?_, hshort⟩
  · rw [h.path_eq, hjoin, List.mem_append, not_or]
    refine ⟨?_, h.noNul⟩
    rcases hfront with rfl | ⟨-, rfl⟩
    · exact hout.noNul
    · simpa [Path.slash] using hout.noNul
  · rw [h.path_eq, hjoin]
    simp [h.ne_nil]

lemma IsInside.length_lt (h : IsInside t s name) : (outputPath s).length < t.path.length := by
  obtain ⟨front, hjoin, -, hfront⟩ := Path.exists_join_eq (outputPath s) h.noSlash
  have hname := List.length_pos_iff.mpr h.ne_nil
  rw [h.path_eq, hjoin, List.length_append]
  rcases hfront with rfl | ⟨-, rfl⟩ <;> simp <;> omega

/-- Once the output directory is made, the path of a file leads to a name in it. -/
lemma IsInside.leadsTo {d₁ : Disk} (h : IsInside t s name) (hout : (outputPath s).OfNames)
    (hshort : t.path.length < 4096) (hstart : d.kindAt (d.start (outputPath s)) = some .dir)
    (hpaved : d.pave (d.start (outputPath s)) (outputPath s).components = some d₁) :
    d₁.LeadsTo t.path (d.start (outputPath s) ++ (outputPath s).components) name false := by
  have hu := h.usable hout hshort
  have hsame := (Disk.grows_pave hpaved).start_eq (outputPath s)
  have hdir := Disk.kindAt_end_of_pave hstart hout.ordinary hpaved
  have hwalk := Disk.walk_of_pave hpaved
  rw [Disk.follow_names hout.ordinary] at hwalk
  rw [← hsame] at hwalk hdir ⊢
  rw [h.path_eq] at hu ⊢
  exact Disk.leadsTo_join h.noSlash h.ne_nil h.isName hu hwalk hdir

end Inside

/-! ### The build -/

section Obstacles

variable {r : Report} (hout : (outputPath s).OfNames)
  (hshort : ∀ t ∈ targets s now, t.path.length < 4096)

include hshort in
lemma outputPath_short : (outputPath s).length < 4096 := by
  obtain ⟨t, rest, htargets⟩ := exists_targets_cons s now
  have ht : t ∈ targets s now := by simp [htargets]
  obtain ⟨name, hinside⟩ := exists_isInside ht
  exact hinside.length_lt.trans (hshort t ht)

include hout hshort in
/-- A build that went well has paved the way to its output directory. -/
lemma pave_of_build (h : ((build s now).run d).value = .ok r) :
    d.pave (d.start (outputPath s)) (outputPath s).components =
      some ((Job.makeDirs (outputPath s)).run d).disk := by
  obtain ⟨-, -, hmade, -⟩ := build_eq_ok h
  have hpaves := paves_makeDirs hout (outputPath_short hshort) d
  cases hd : d.pave (d.start (outputPath s)) (outputPath s).components with
  | none =>
    rw [hd] at hpaves
    obtain ⟨e, he⟩ := hpaves
    rw [hmade] at he
    cases he
  | some d₁ =>
    rw [hd] at hpaves
    rw [show (Job.makeDirs (outputPath s)).run d = _ from hpaves]

include hout hshort in
/-- Where the way to the output directory starts, a build needs a directory. -/
lemma kindAt_start_of_build (h : ((build s now).run d).value = .ok r) :
    d.kindAt (d.start (outputPath s)) = some .dir := by
  have hpaved := pave_of_build hout hshort h
  cases hparts : (outputPath s).components with
  | cons part rest =>
    rw [hparts] at hpaved
    exact Disk.kindAt_of_pave_cons (hout.names part (by simp [hparts])).1 hpaved
  | nil =>
    -- nothing had to be made, so the first file was written where the way starts
    rw [hparts, Disk.pave_nil, Option.some_inj] at hpaved
    obtain ⟨-, -, -, hwritten, -⟩ := build_eq_ok h
    obtain ⟨t, rest, htargets⟩ := exists_targets_cons s now
    have ht : t ∈ targets s now := by simp [htargets]
    obtain ⟨name, hinside⟩ := exists_isInside ht
    rw [← hpaved, htargets] at hwritten
    obtain ⟨hfirst, -, -⟩ := writeTargets_cons_eq_ok hwritten
    obtain ⟨d₁, dir, last, hpave, hlead⟩ := Job.leadsTo_of_saveText hfirst
    rw [hinside.components_eq, List.dropLast_concat, hparts, Disk.pave_nil,
      Option.some_inj] at hpave
    subst hpave
    have hplace := hlead.place_eq (hinside.ordinary hout)
    rw [hinside.components_eq, hparts, hinside.start_eq] at hplace
    rw [← (List.append_inj' hplace rfl).1]
    exact hlead.isDir

include hout in
/-- No directory has the name of a file that a build has written. -/
lemma kindAt_target_of_build (h : ((build s now).run d).value = .ok r) {t : Target}
    (ht : t ∈ targets s now) : d.kindAt (d.start t.path ++ t.path.components) ≠ some .dir := by
  intro hdir
  obtain ⟨name, hinside⟩ := exists_isInside ht
  have hfills := fills_build h
  obtain ⟨dir, last, hlead, hfile⟩ := Disk.read_eq_ok_iff.mp (read_of_build h t ht)
  rw [hlead.place_eq (hinside.ordinary hout), Disk.start, hfills.cwd_eq, ← Disk.start] at hfile
  rw [hfills.keepsDirs _ hdir] at hfile
  cases hfile

include hout hshort in
/-- Where nothing is in the way, a build goes well. -/
lemma build_of_clear (hbase : s.basePath.toList.head? = some '/')
    (hstart : d.kindAt (d.start (outputPath s)) = some .dir)
    (hclear : ∀ front, front <+: (outputPath s).components →
      ∀ content, d.kindAt (d.start (outputPath s) ++ front) ≠ some (.file content))
    (hfree : ∀ t ∈ targets s now, d.kindAt (d.start t.path ++ t.path.components) ≠ some .dir) :
    ((build s now).run d).value = .ok (report s) := by
  obtain ⟨d₁, hpaved⟩ := (Disk.exists_pave_iff hstart hout.names).mpr hclear
  have hmade := paves_makeDirs hout (outputPath_short hshort) d
  rw [hpaved] at hmade
  have hwritten : ((writeTargets (targets s now)).run d₁).value = .ok () := by
    refine writeTargets_eq_ok fun t ht => ?_
    obtain ⟨name, hinside⟩ := exists_isInside ht
    refine ⟨_, name, hinside.leadsTo hout (hshort t ht) hstart hpaved, ?_⟩
    have hlong : ¬ d.start (outputPath s) ++ (outputPath s).components ++ [name] <+:
        d.start (outputPath s) ++ (outputPath s).components := by
      intro hprefix
      have hle := hprefix.length_le
      rw [List.length_append, List.length_singleton] at hle
      omega
    rw [Disk.kindAt_pave hout.ordinary hpaved hlong]
    have hnodir := hfree t ht
    rwa [hinside.start_eq, hinside.components_eq, ← List.append_assoc] at hnodir
  exact (build_of_made hbase hmade hwritten).1

end Obstacles

/-- **What is in the way of a build.** Below a base path, and with an output directory of names, a
build goes well if and only if no file stands on the way to its output directory or at the end of
it, and no directory in place of one of its files. The way starts at the root or at the working
directory; where that was taken away, every build fails. -/
theorem build_succeeds_iff (d : Disk) (s : Settings) (now : Time.Instant)
    (hbase : s.basePath.toList.head? = some '/') (hout : (outputPath s).OfNames)
    (hshort : ∀ t ∈ targets s now, t.path.length < 4096) :
    let out := outputPath s
    (d.kindAt (d.start out) = some .dir →
      ((∃ r, ((build s now).run d).value = .ok r) ↔
        (∀ front, front <+: out.components →
          ∀ content, d.kindAt (d.start out ++ front) ≠ some (.file content)) ∧
        ∀ t ∈ targets s now, d.kindAt (d.start t.path ++ t.path.components) ≠ some .dir)) ∧
    (d.kindAt (d.start out) ≠ some .dir → ∃ e, ((build s now).run d).value = .error e) := by
  intro out
  refine ⟨fun hstart => ⟨?_, ?_⟩, fun hstart => ?_⟩
  · rintro ⟨r, h⟩
    have hpaved := pave_of_build hout hshort h
    exact ⟨(Disk.exists_pave_iff hstart hout.names).mp ⟨_, hpaved⟩,
      fun t ht => kindAt_target_of_build hout h ht⟩
  · rintro ⟨hclear, hfree⟩
    exact ⟨report s, build_of_clear hout hshort hbase hstart hclear hfree⟩
  · cases h : ((build s now).run d).value with
    | error e => exact ⟨e, rfl⟩
    | ok r => exact absurd (kindAt_start_of_build hout hshort h) hstart

/-- A site built into a directory that has to be made, below one with an old page in it; and one
that is not built, for a file has the name of a directory on the way. -/
theorem build_succeeds_iff_on_two_disks :
    let s : Settings := { outputDirectory := "srv//new/" }
    let now : Time.Instant := ⟨0, 0, 0, 0, by decide, by decide, by decide, by decide, by decide⟩
    let old : Tree := .dir [(.ofString "index.html", .file (.ofString "old"))]
    let home : Tree := .dir [(.ofString "srv", old)]
    let free : Disk := ⟨.dir [(.ofString "home", home)], [.ofString "home"]⟩
    let blocked : Disk := ⟨.dir [(.ofString "srv", .file [])], []⟩
    (∃ r, ((build s now).run free).value = .ok r) ∧
      ¬ ∃ r, ((build s now).run blocked).value = .ok r := by
  intro s now old home free blocked
  have hbase : s.basePath.toList.head? = some '/' := by decide
  have hout : (outputPath s).OfNames := ⟨by decide, by decide⟩
  have hshort : ∀ t ∈ targets s now, t.path.length < 4096 := by decide +kernel
  constructor
  · refine ((build_succeeds_iff free s now hbase hout hshort).1 (by decide)).mpr ⟨?_, ?_⟩
    · intro front hfront content hfile
      have hnone : ∀ front ∈ (outputPath s).components.inits,
          free.kindAt (free.start (outputPath s) ++ front) ∈ [none, some .dir] := by
        decide +kernel
      simpa [hfile] using hnone front ((List.mem_inits _ _).mpr hfront)
    · decide +kernel
  · rw [(build_succeeds_iff blocked s now hbase hout hshort).1 (by decide)]
    rintro ⟨hclear, -⟩
    exact hclear [.ofString "srv"] (by decide +kernel) [] (by decide)

end StaticHost.Site
