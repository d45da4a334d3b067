import StaticHost.Proofs.MakingDirs

/-!
Saving a text to a file: what is on the disk afterwards.

Saving makes directories and then writes one file, or fails and has only made directories. What was
saved can be read back, and a file of another name is not disturbed. Where a path leads to a name
already, saving changes what stands there and nothing else; and saving that failed has nothing more
to make the next time.
-/

namespace StaticHost.Job

open Files

variable {d : Disk} {p q : Path} {text : String}

/-! ### One file -/

lemma run_makeParent (p : Path) (d : Disk) :
    d.Grows ((makeParent p).run d).disk ∧ ((makeParent p).run d).events = [] := by
  unfold makeParent
  cases p.parent with
  | none => exact ⟨.refl d, rfl⟩
  | some dir =>
    simp only [run_bind, run, List.append_nil]
    exact run_makeChain dir.ancestors d

/-- What a file should be in is made from left to right along its path. -/
lemma paves_makeParent {name : Name} (hu : Disk.Usable p)
    (hlast : p.components.getLast? = some name) (hname : Disk.Ordinary name) (d : Disk) :
    match d.pave (d.start p) p.components.dropLast with
    | some d₁ => (makeParent p).run d = ⟨.ok (), d₁, []⟩
    | none => ∃ e, ((makeParent p).run d).value = .error e := by
  obtain ⟨init, hparts⟩ := List.getLast?_eq_some_iff.mp hlast
  have hsolid : p.solid = init.filter (· ≠ Path.dot) ++ [name] := by
    rw [Path.solid, hparts, List.filter_append, List.filter_cons_of_pos (by simpa using hname.1),
      List.filter_nil]
  rw [hparts, List.dropLast_concat, ← Disk.pave_filter]
  unfold makeParent
  -- the parent has all parts but the last, apart from dots
  cases hq : p.parent with
  | none => simp [Path.solid_of_parent_none hq] at hsolid
  | some q =>
    have hparent := Path.isParent_of_parent hq
    have hpaves := run_makeDirs q hparent.tidy (Disk.usable_parent hparent hu) d
    rw [hparent.solid_eq, hsolid, List.dropLast_concat, Disk.start, hparent.isAbsolute_eq]
      at hpaves
    rw [Disk.start]
    simp only [run_bind, run, List.append_nil]
    cases hd : d.pave (if p.isAbsolute then [] else d.cwd) (init.filter (· ≠ Path.dot)) with
    | none =>
      rw [hd] at hpaves
      obtain ⟨e, he⟩ := hpaves
      exact ⟨.io q e, by rw [he]; rfl⟩
    | some d₁ =>
      rw [hd] at hpaves
      rw [show (makeDirs q).run d = _ from hpaves]
      rfl

/-- Where the directory of a file is there, nothing has to be made for the file. -/
lemma run_makeParent_join {base : Path} {name : Name} (hs : Path.slash ∉ name)
    (hidle : Path.isIdle name = false) (h : base = [] ∨ d.isDir base = true) :
    (makeParent (base.join name)).run d = ⟨.ok (), d, []⟩ := by
  unfold makeParent
  cases hq : (base.join name).parent with
  | none => rfl
  | some q =>
    have hparent := Path.isParent_of_parent hq
    have hpre := Path.isPrefix_of_parent_join hs hidle hq
    have hu : q = [] ∨ Disk.Usable q := by
      rcases h with rfl | h
      · exact .inl (List.prefix_nil.mp hpre)
      · have hbase := Disk.usable_of_isDir h
        have hshort := hbase.short
        have hle := hpre.length_le
        exact or_iff_not_imp_left.mpr fun hne =>
          ⟨fun h0 => hbase.noNul (hpre.subset h0), hne, by omega⟩
    have hsolid : q.solid = base.solid := by
      rw [hparent.solid_eq, Path.solid_join hs hidle, List.dropLast_concat]
    have hstart : d.start q = d.start base := by
      rw [Disk.start, Disk.start, hparent.isAbsolute_eq, Path.isAbsolute_join hs]
    obtain ⟨place, hwalk⟩ : ∃ place, d.walk (d.start base) base.solid = .ok place := by
      rcases h with rfl | h
      · exact ⟨_, rfl⟩
      · exact Disk.walk_of_isDir h
    have hpaves := run_makeDirs q hparent.tidy hu d
    rw [hstart, hsolid, Disk.pave_of_walk hwalk] at hpaves
    simp only [run_bind, show (makeDirs q).run d = _ from hpaves]
    rfl

/-- Saving is making what the file should be in, and writing the file. -/
lemma run_saveText (p : Path) (text : String) (d : Disk) :
    (saveText p text).run d =
      match ((makeParent p).run d).value with
      | .error e => ⟨.error e, ((makeParent p).run d).disk, []⟩
      | .ok () =>
        match ((makeParent p).run d).disk.write p (Bytes.ofString text) with
        | .ok d' => ⟨.ok (), d', []⟩
        | .error e => ⟨.error (.io p e), ((makeParent p).run d).disk, []⟩ := by
  have hwrite : ∀ d₁ : Disk, (write p (Bytes.ofString text) fun x => done (blame p x)).run d₁ =
      match d₁.write p (Bytes.ofString text) with
      | .ok d' => ⟨.ok (), d', []⟩
      | .error e => ⟨.error (.io p e), d₁, []⟩ := by
    intro d₁
    rw [run]
    cases d₁.write p (Bytes.ofString text) <;> rfl
  have hevents := (run_makeParent p d).2
  change ((makeParent p).bind fun
    | .error e => done (.error e)
    | .ok () => write p (Bytes.ofString text) fun x => done (blame p x)).run d = _
  rw [run_bind, hevents]
  rcases ((makeParent p).run d).value with e | ⟨⟩
  · rfl
  · simp only [hwrite, List.nil_append]

/-- **What saving can do**: it adds directories, and then fails or puts the file at the name that
the path leads to. -/
theorem saveText_cases (p : Path) (text : String) (d : Disk) :
    (∃ e, (saveText p text).run d = ⟨.error e, ((makeParent p).run d).disk, []⟩) ∨
    ∃ dir name, ((makeParent p).run d).value = .ok () ∧
      ((makeParent p).run d).disk.LeadsTo p dir name false ∧
      ((makeParent p).run d).disk.kindAt (dir ++ [name]) ≠ some .dir ∧
      (saveText p text).run d =
        ⟨.ok (), ((makeParent p).run d).disk.put dir name (.file (Bytes.ofString text)), []⟩ := by
  rw [run_saveText]
  rcases hv : ((makeParent p).run d).value with e | ⟨⟩
  · exact .inl ⟨e, rfl⟩
  · cases hw : ((makeParent p).run d).disk.write p (Bytes.ofString text) with
    | error e => exact .inl ⟨_, rfl⟩
    | ok d' =>
      obtain ⟨dir, name, hlead, hold, rfl⟩ := Disk.write_eq_ok_iff.mp hw
      exact .inr ⟨dir, name, rfl, hlead, hold, rfl⟩

/-- What saving that went well has done. -/
lemma saveText_eq_ok (h : ((saveText p text).run d).value = .ok ()) :
    let made := (makeParent p).run d
    ∃ dir name, made.value = .ok () ∧ made.disk.LeadsTo p dir name false ∧
      made.disk.kindAt (dir ++ [name]) ≠ some .dir ∧
      (saveText p text).run d =
        ⟨.ok (), made.disk.put dir name (.file (Bytes.ofString text)), []⟩ := by
  rcases saveText_cases p text d with ⟨e, he⟩ | hdone
  · rw [he] at h
    cases h
  · exact hdone

/-- Saving that went well has paved the way, and found a name at its end. -/
lemma leadsTo_of_saveText (h : ((saveText p text).run d).value = .ok ()) :
    ∃ d₁ dir name, d.pave (d.start p) p.components.dropLast = some d₁ ∧
      d₁.LeadsTo p dir name false := by
  obtain ⟨dir, name, hok, hlead, -, -⟩ := saveText_eq_ok h
  obtain ⟨hlast, hname, -⟩ := hlead.parts
  have hparent := paves_makeParent (Disk.usable_of_locate hlead.located) hlast hname d
  cases hd : d.pave (d.start p) p.components.dropLast with
  | none =>
    simp only [hd, hok] at hparent
    obtain ⟨e, he⟩ := hparent
    cases he
  | some d₁ =>
    simp only [hd] at hparent
    rw [hparent] at hlead
    exact ⟨d₁, dir, name, rfl, hlead⟩

/-- **What saving changes**: some directories are new, and one place, where no directory was, may
hold the text. -/
theorem saveText_changes (p : Path) (text : String) (d : Disk) :
    ((saveText p text).run d).disk.cwd = d.cwd ∧
    ∃ file : List Name, ∀ place,
      ((saveText p text).run d).disk.kindAt place = d.kindAt place ∨
      (d.kindAt place = none ∧ ((saveText p text).run d).disk.kindAt place = some .dir) ∨
      (place = file ∧ d.kindAt place ≠ some .dir ∧
        ((saveText p text).run d).disk.kindAt place = some (.file (Bytes.ofString text))) := by
  have hgrows := (run_makeParent p d).1
  have hmade : ∀ place, ((makeParent p).run d).disk.kindAt place = d.kindAt place ∨
      d.kindAt place = none ∧ ((makeParent p).run d).disk.kindAt place = some .dir := by
    intro place
    cases hk : d.kindAt place with
    | none => exact (hgrows.new place hk).imp id fun h => ⟨rfl, h⟩
    | some k => exact .inl (by rw [hgrows.old place (by simp [hk]), hk])
  rcases saveText_cases p text d with ⟨e, he⟩ | ⟨dir, name, -, hlead, hold, hrun⟩
  · rw [he]
    exact ⟨hgrows.cwd_eq, [], fun place => (hmade place).imp id .inl⟩
  · rw [hrun]
    refine ⟨hgrows.cwd_eq, dir ++ [name], fun place => ?_⟩
    rw [Disk.kindAt_put_file hlead.isDir hold]
    split_ifs with hplace
    · refine .inr (.inr ⟨hplace, fun hdir => hold ?_, rfl⟩)
      rw [← hplace]
      exact hgrows.keepsDirs place hdir
    · exact (hmade place).imp id .inl

lemma keepsDirs_saveText (p : Path) (text : String) (d : Disk) :
    Disk.KeepsDirs d ((saveText p text).run d).disk := by
  obtain ⟨-, file, hchanges⟩ := saveText_changes p text d
  intro place hdir
  rcases hchanges place with h | ⟨h, -⟩ | ⟨-, h, -⟩
  · exact h.trans hdir
  · simp [h] at hdir
  · exact absurd hdir h

/-- **What was saved** can be read back. -/
theorem read_saveText (h : ((saveText p text).run d).value = .ok ()) :
    ((saveText p text).run d).disk.read p = .ok (Bytes.ofString text) := by
  obtain ⟨dir, name, -, hlead, hold, hrun⟩ := saveText_eq_ok h
  rw [hrun]
  exact hlead.read_put_file hold _

/-- **A file of another name** is not disturbed, whether saving goes well or not. -/
theorem read_saveText_of_ne (text : String) {content : Bytes} (hq : d.read q = .ok content)
    (hne : q.components.getLast? ≠ p.components.getLast?) :
    ((saveText p text).run d).disk.read q = .ok content := by
  obtain ⟨dir, name, hlead, hfile⟩ := Disk.read_eq_ok_iff.mp hq
  have hgrows := (run_makeParent p d).1
  have hlead₁ := hlead.mono hgrows.keepsDirs hgrows.cwd_eq
  have hfile₁ := hgrows.file_iff.mpr hfile
  refine Disk.read_eq_ok_iff.mpr ⟨dir, name, ?_⟩
  rcases saveText_cases p text d with ⟨e, he⟩ | ⟨dir', name', -, hlead', hold, hrun⟩
  · rw [he]
    exact ⟨hlead₁, hfile₁⟩
  · have hplace : dir ++ [name] ≠ dir' ++ [name'] := by
      intro h
      rw [hlead.parts.1, hlead'.parts.1] at hne
      exact hne (congrArg some (by simpa using congrArg List.getLast? h))
    rw [hrun]
    refine ⟨hlead₁.mono (Disk.keepsDirs_put_file hlead'.isDir hold) rfl, ?_⟩
    rw [Disk.kindAt_put_file hlead'.isDir hold, if_neg hplace, hfile₁]

/-! ### Saving where something was saved before -/

/-- **Where the path leads to a name already**, the file is put there and nothing else happens. -/
lemma run_saveText_of_leadsTo {dir : List Name} {name : Name} (h : d.LeadsTo p dir name false)
    (hold : d.kindAt (dir ++ [name]) ≠ some .dir) (text : String) :
    (saveText p text).run d = ⟨.ok (), d.put dir name (.file (Bytes.ofString text)), []⟩ := by
  obtain ⟨hlast, hname, hwalk⟩ := h.parts
  have hparent := paves_makeParent (Disk.usable_of_locate h.located) hlast hname d
  simp only [Disk.pave_of_walk hwalk] at hparent
  have hwrite : d.write p (Bytes.ofString text) =
      .ok (d.put dir name (.file (Bytes.ofString text))) :=
    Disk.write_eq_ok_iff.mpr ⟨dir, name, h, hold, rfl⟩
  rw [run_saveText, hparent]
  simp only [hwrite]

lemma makeParent_again (hu : p = [] ∨ Disk.Usable p) (d : Disk) :
    let r := (makeParent p).run d
    ((makeParent p).run r.disk).disk = r.disk ∧
      (((makeParent p).run r.disk).value = .ok () → r.value = .ok ()) := by
  unfold makeParent
  cases hq : p.parent with
  | none => exact ⟨rfl, fun _ => rfl⟩
  | some q =>
    have hparent := Path.isParent_of_parent hq
    have hp : p ≠ [] := by
      rintro rfl
      cases hq
    obtain ⟨hdisk, hvalue⟩ :=
      makeDirs_again hparent.tidy (Disk.usable_parent hparent (hu.resolve_left hp)) d
    simp only [run_bind, run]
    refine ⟨hdisk, fun hok => ?_⟩
    rcases hv : ((makeDirs q).run ((makeDirs q).run d).disk).value with e | ⟨⟩
    · rw [hv] at hok
      cases hok
    · rw [hvalue hv]
      rfl

/-- **Saving that failed** fails again, and has nothing more to make. -/
theorem saveText_again {e : HostError} (hu : p = [] ∨ Disk.Usable p)
    (h : ((saveText p text).run d).value = .error e) :
    let d₁ := ((saveText p text).run d).disk
    ((saveText p text).run d₁).disk = d₁ ∧ ((saveText p text).run d₁).value ≠ .ok () := by
  intro d₁
  have hd₁ : d₁ = ((makeParent p).run d).disk := by
    rcases saveText_cases p text d with ⟨e', he'⟩ | ⟨dir, name, -, -, -, hrun⟩
    · simp only [d₁, he']
    · rw [hrun] at h
      cases h
  obtain ⟨hdisk, hvalue⟩ := makeParent_again hu d
  rw [← hd₁] at hdisk hvalue
  rw [run_saveText] at h
  rw [run_saveText, hdisk]
  rcases hv : ((makeParent p).run d₁).value with e' | ⟨⟩
  · exact ⟨rfl, nofun⟩
  · -- the parent was there the first time, so it was the write that failed, on the same disk
    rw [hvalue hv, ← hd₁] at h
    cases hw : d₁.write p (Bytes.ofString text) with
    | ok d' =>
      rw [hw] at h
      cases h
    | error e' => exact ⟨rfl, nofun⟩

end StaticHost.Job
