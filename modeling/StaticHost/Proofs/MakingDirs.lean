import StaticHost.Job
import StaticHost.Proofs.DiskView
import StaticHost.Proofs.PathParts

/-!
Making a directory and all that it should be in.

The job asks for the directory itself first, and climbs up the path only as far as that fails. What
comes out is the same as walking along the path from left to right and making every directory that
is missing on the way: `Disk.pave` is that walk, and `run_makeDirs` says that the two agree. Where
the walk meets an obstacle, what lies before it is made all the same; so a second attempt finds
nothing left to make (`makeDirs_again`).
-/

namespace StaticHost.Files

namespace Disk

variable {d d' d'' : Disk}

/-! ### Disks with more directories -/

/-- The second disk is the first with some directories added. -/
structure Grows (d d' : Disk) : Prop where
  cwd_eq : d'.cwd = d.cwd
  old : ∀ place, d.kindAt place ≠ none → d'.kindAt place = d.kindAt place
  new : ∀ place, d.kindAt place = none → d'.kindAt place = none ∨ d'.kindAt place = some .dir

lemma Grows.refl (d : Disk) : Grows d d := ⟨rfl, fun _ _ => rfl, fun _ h => .inl h⟩

lemma Grows.trans (h : Grows d d') (h' : Grows d' d'') : Grows d d'' := by
  refine ⟨h'.cwd_eq.trans h.cwd_eq, fun place hp => ?_, fun place hp => ?_⟩
  · have hp' : d'.kindAt place ≠ none := by rwa [h.old place hp]
    rw [h'.old place hp', h.old place hp]
  · rcases h.new place hp with hp' | hp'
    · exact h'.new place hp'
    · right
      rw [h'.old place (by simp [hp']), hp']

lemma Grows.keepsDirs (h : Grows d d') : KeepsDirs d d' := fun place hp => by
  rw [h.old place (by simp [hp]), hp]

lemma Grows.start_eq (h : Grows d d') (p : Path) : d'.start p = d.start p := by
  rw [start, start, h.cwd_eq]

lemma Grows.file_iff (h : Grows d d') {place : List Name} {content : Bytes} :
    d'.kindAt place = some (.file content) ↔ d.kindAt place = some (.file content) := by
  constructor
  · intro hp
    cases hd : d.kindAt place with
    | none => rcases h.new place hd with h' | h' <;> simp [h'] at hp
    | some k => rw [← hd, ← h.old place (by simp [hd]), hp]
  · intro hp
    rw [h.old place (by simp [hp]), hp]

lemma grows_put {dir : List Name} {name : Name} (hdir : d.kindAt dir = some .dir)
    (hfree : d.kindAt (dir ++ [name]) = none) : Grows d (d.put dir name (.dir [])) := by
  have hold : d.kindAt (dir ++ [name]) ≠ some .dir := by simp [hfree]
  have hk := kindAt_put get?_dir_nil hdir hold
  refine ⟨rfl, fun place hp => ?_, fun place hp => ?_⟩
  · rw [hk, if_neg (by rintro rfl; exact hp hfree)]
  · rw [hk]
    split_ifs
    · exact .inr rfl
    · exact .inl hp

lemma grows_makeDir {p : Path} (h : d.makeDir p = .ok d') : Grows d d' := by
  obtain ⟨dir, name, slash, hlead, hfree, rfl⟩ := makeDir_eq_ok_iff.mp h
  exact grows_put hlead.isDir hfree

/-! ### Directories from left to right -/

/-- The disk with a directory at a name in a directory: the one that is there, or a new one. -/
def ensureDir (d : Disk) (dir : List Name) (name : Name) : Option Disk :=
  if d.kindAt dir = some .dir ∧ name.length ≤ 255 then
    match d.kindAt (dir ++ [name]) with
    | none => some (d.put dir name (.dir []))
    | some .dir => some d
    | some (.file _) => none
  else none

/-- The disk on which parts can be followed from a place, with the directories made that they lead
through and that are missing. -/
def pave : Disk → List Name → List Name → Option Disk
  | d, _, [] => some d
  | d, here, part :: rest =>
    if part = Path.dot then pave d here rest
    else if part = Path.dotDot then pave d here.dropLast rest
    else (d.ensureDir here part).bind fun d => pave d (here ++ [part]) rest

@[simp] lemma pave_nil (here : List Name) : d.pave here [] = some d := rfl

@[simp] lemma pave_dot (here rest : List Name) :
    d.pave here (Path.dot :: rest) = d.pave here rest := by
  rw [pave, if_pos rfl]

@[simp] lemma pave_dotDot (here rest : List Name) :
    d.pave here (Path.dotDot :: rest) = d.pave here.dropLast rest := by
  rw [pave, if_neg dotDot_ne_dot, if_pos rfl]

lemma pave_ordinary {part : Name} (hp : Ordinary part) (here rest : List Name) :
    d.pave here (part :: rest) =
      (d.ensureDir here part).bind fun d => d.pave (here ++ [part]) rest := by
  rw [pave, if_neg hp.1, if_neg hp.2]

lemma ensureDir_spec {dir : List Name} {name : Name} (h : d.ensureDir dir name = some d') :
    Grows d d' ∧ d'.kindAt (dir ++ [name]) = some .dir ∧ name.length ≤ 255 := by
  unfold ensureDir at h
  split_ifs at h with hdir
  cases hk : d.kindAt (dir ++ [name]) with
  | none =>
    simp only [hk, Option.some.injEq] at h
    subst h
    refine ⟨grows_put hdir.1 hk, ?_, hdir.2⟩
    rw [kindAt_put get?_dir_nil hdir.1 (by simp [hk]), if_pos rfl]
    rfl
  | some k =>
    cases k with
    | file content => simp [hk] at h
    | dir =>
      simp only [hk, Option.some.injEq] at h
      subst h
      exact ⟨.refl d, hk, hdir.2⟩

lemma ensureDir_of_dir {dir : List Name} {name : Name}
    (hdir : d.kindAt (dir ++ [name]) = some .dir) (hlen : name.length ≤ 255) :
    d.ensureDir dir name = some d := by
  have hup : d.kindAt dir = some .dir := kindAt_of_append (q := [name]) (by simp) (by simp [hdir])
  rw [ensureDir, if_pos ⟨hup, hlen⟩, hdir]

lemma pave_append (here parts more : List Name) :
    d.pave here (parts ++ more) = (d.pave here parts).bind (·.pave (follow here parts) more) := by
  induction parts generalizing d here with
  | nil => rfl
  | cons part parts ih =>
    rw [List.cons_append]
    rcases parts_cases part with rfl | rfl | hp
    · simpa [follow] using ih here
    · simpa [follow, dotDot_ne_dot] using ih here.dropLast
    · rw [pave_ordinary hp, pave_ordinary hp, follow, if_neg hp.1, if_neg hp.2]
      cases d.ensureDir here part with
      | none => rfl
      | some d => exact ih (here ++ [part])

lemma grows_pave {here parts : List Name} (h : d.pave here parts = some d') : Grows d d' := by
  induction parts generalizing d here with
  | nil =>
    cases h
    exact .refl _
  | cons part parts ih =>
    rcases parts_cases part with rfl | rfl | hp
    · exact ih (by simpa using h)
    · exact ih (by simpa using h)
    · rw [pave_ordinary hp] at h
      obtain ⟨d₁, h₁, h⟩ := Option.bind_eq_some_iff.mp h
      exact (ensureDir_spec h₁).1.trans (ih h)

/-- **A paved way** can be walked. -/
lemma walk_of_pave {here parts : List Name} (h : d.pave here parts = some d') :
    d'.walk here parts = .ok (follow here parts) := by
  induction parts generalizing d here with
  | nil => rfl
  | cons part parts ih =>
    rcases parts_cases part with rfl | rfl | hp
    · simpa [follow] using ih (by simpa using h)
    · simpa [follow, dotDot_ne_dot] using ih (by simpa using h)
    · rw [pave_ordinary hp] at h
      obtain ⟨d₁, h₁, h⟩ := Option.bind_eq_some_iff.mp h
      obtain ⟨-, hdir, hlen⟩ := ensureDir_spec h₁
      rw [walk_ordinary_eq_ok_iff hp, follow, if_neg hp.1, if_neg hp.2]
      exact ⟨hlen, (grows_pave h).keepsDirs _ hdir, ih h⟩

/-- A way that can be walked is paved. -/
lemma pave_of_walk {here parts place : List Name} (h : d.walk here parts = .ok place) :
    d.pave here parts = some d := by
  induction parts generalizing here with
  | nil => rfl
  | cons part parts ih =>
    rcases parts_cases part with rfl | rfl | hp
    · simpa using ih (by simpa using h)
    · simpa using ih (by simpa using h)
    · obtain ⟨hlen, hdir, h⟩ := (walk_ordinary_eq_ok_iff hp).mp h
      rw [pave_ordinary hp, ensureDir_of_dir hdir hlen, Option.bind_some, ih h]

/-- A way that was paved needs nothing more. -/
lemma pave_of_pave {here parts : List Name} (h : d.pave here parts = some d') :
    d'.pave here parts = some d' :=
  pave_of_walk (walk_of_pave h)

/-- A way on which something else than a missing directory is met cannot be paved. -/
lemma pave_of_walk_error {here parts : List Name} {e : FileError}
    (h : d.walk here parts = .error e) (he : e ≠ .notFound) : d.pave here parts = none := by
  induction parts generalizing here with
  | nil => cases h
  | cons part parts ih =>
    rcases parts_cases part with rfl | rfl | hp
    · simpa using ih (by simpa using h)
    · simpa using ih (by simpa using h)
    · rw [walk_ordinary hp] at h
      rw [pave_ordinary hp]
      split_ifs at h with hdir hlen
      · rw [ensureDir, if_neg (by omega), Option.bind_none]
      · cases hk : d.kindAt (here ++ [part]) with
        | none => exact absurd (by simpa [hk] using h.symm) he
        | some k =>
          cases k with
          | file content => simp [ensureDir, hk]
          | dir =>
            rw [ensureDir_of_dir hk (by omega), Option.bind_some]
            exact ih (by simpa [hk] using h)
      · exact absurd (by simpa using h.symm) he

lemma walk_append {here parts place : List Name} (h : d.walk here parts = .ok place)
    (more : List Name) : d.walk here (parts ++ more) = d.walk place more := by
  induction parts generalizing here with
  | nil =>
    cases h
    rfl
  | cons part parts ih =>
    rw [List.cons_append]
    rcases parts_cases part with rfl | rfl | hp
    · simpa using ih (by simpa using h)
    · simpa using ih (by simpa using h)
    · obtain ⟨hlen, hdir, h⟩ := (walk_ordinary_eq_ok_iff hp).mp h
      have hup : d.kindAt here = some .dir :=
        kindAt_of_append (q := [part]) (by simp) (by simp [hdir])
      rw [walk_ordinary hp, if_pos hup, if_neg (by omega), hdir]
      exact ih h

/-- Dots do not count. -/
lemma walk_filter (here parts : List Name) :
    d.walk here (parts.filter (· ≠ Path.dot)) = d.walk here parts := by
  induction parts generalizing here with
  | nil => rfl
  | cons part parts ih =>
    rcases parts_cases part with rfl | rfl | hp
    · simpa using ih here
    · simpa [dotDot_ne_dot] using ih here.dropLast
    · rw [List.filter_cons_of_pos (by simpa using hp.1), walk_ordinary hp, walk_ordinary hp, ih]

lemma pave_filter (here parts : List Name) :
    d.pave here (parts.filter (· ≠ Path.dot)) = d.pave here parts := by
  induction parts generalizing d here with
  | nil => rfl
  | cons part parts ih =>
    rcases parts_cases part with rfl | rfl | hp
    · simpa using ih here
    · simpa [dotDot_ne_dot] using ih here.dropLast
    · rw [List.filter_cons_of_pos (by simpa using hp.1), pave_ordinary hp, pave_ordinary hp]
      simp only [ih]

/-! ### Where a path without dots at its end leads -/

/-- A path of dots leads to where it starts. -/
lemma locate_of_solid_nil {p : Path} (hu : Usable p) (hs : p.solid = []) :
    d.locate p = .ok (.place (d.start p)) := by
  have hdots : ∀ part ∈ p.components, part = Path.dot := by
    simpa [Path.solid, List.filter_eq_nil_iff] using hs
  rw [locate_of_usable hu]
  cases hlast : p.components.getLast? with
  | none => rfl
  | some last =>
    obtain rfl := hdots last (List.mem_of_getLast? hlast)
    have hinit : p.components.dropLast.filter (· ≠ Path.dot) = [] := by
      simpa [List.filter_eq_nil_iff] using fun part hpart =>
        hdots part (List.dropLast_subset _ hpart)
    rw [← walk_filter, hinit]
    rfl

/-- What follows the last part that counts is decided there. -/
lemma locate_of_tidy {p : Path} (hu : Usable p) (ht : p.Tidy) {init : List Name} {last : Name}
    (hs : p.solid = init ++ [last]) :
    d.locate p = (d.walk (d.start p) init).map fun dir =>
      if last = Path.dotDot then .place dir.dropLast
      else .entry dir last (p.getLast? == some Path.slash) := by
  have hne : p.components ≠ [] := by
    intro h
    simp [Path.solid, h] at hs
  obtain ⟨parts, part, hparts⟩ := List.eq_nil_or_concat p.components |>.resolve_left hne
  rw [List.concat_eq_append] at hparts
  have hpart : part ≠ Path.dot := by
    rintro rfl
    simp [ht (by rw [hparts, List.getLast?_concat])] at hs
  rw [Path.solid, hparts, List.filter_append, List.filter_cons_of_pos (by simpa using hpart)] at hs
  obtain ⟨rfl, hlast⟩ := List.append_inj' hs rfl
  obtain rfl : part = last := by simpa using hlast
  rw [locate_of_usable hu, hparts, List.getLast?_concat, List.dropLast_concat, walk_filter]
  simp only [if_neg hpart]

lemma usable_parent {p q : Path} (h : Path.IsParent q p) (hu : Usable p) : q = [] ∨ Usable q := by
  have hlt := h.length_lt
  have hshort := hu.short
  refine or_iff_not_imp_left.mpr fun hne => ⟨fun h0 => hu.noNul ?_, hne, by omega⟩
  exact h.isPrefix.subset h0

lemma isDir_place {p : Path} {names : List Name} (h : d.locate p = .ok (.place names)) :
    d.isDir p = true := by
  unfold isDir; rw [h]

lemma isDir_error {p : Path} {e : FileError} (h : d.locate p = .error e) :
    d.isDir p = false := by
  unfold isDir; rw [h]

/-- A name is a directory if one is found there. -/
lemma isDir_entry {p : Path} {dir : List Name} {name : Name} {slash : Bool}
    (h : d.locate p = .ok (.entry dir name slash)) :
    d.isDir p = true ↔ ∃ entries, d.entry? dir name = .ok (some (.dir entries)) := by
  unfold isDir
  rw [h]
  rcases he : d.entry? dir name with e | _ | ⟨content⟩ | ⟨entries⟩ <;> simp [he, Tree.isDir]

/-- A directory that a path leads to is there as long as no directory goes away. -/
lemma isDir_mono (hk : KeepsDirs d d') (hc : d'.cwd = d.cwd) {p : Path} (h : d.isDir p = true) :
    d'.isDir p = true := by
  rcases hl : d.locate p with e | ⟨names⟩ | ⟨dir, name, slash⟩
  · simp [isDir_error hl] at h
  · exact isDir_place (locate_mono hk hc hl)
  · obtain ⟨entries, hentries⟩ := (isDir_entry hl).mp h
    obtain ⟨hlead, hat⟩ := leadsTo_of_entry? hl hentries
    have hlead' := hlead.mono hk hc
    obtain ⟨entries', hat'⟩ := kindAt_eq_dir_iff.mp
      (hk _ (kindAt_eq_dir_iff.mpr ⟨entries, hat⟩))
    exact (isDir_entry hlead'.located).mpr ⟨entries', by rw [hlead'.entry?, hat']⟩

lemma usable_of_isDir {p : Path} (h : d.isDir p = true) : Usable p := by
  cases hl : d.locate p with
  | error e => simp [isDir_error hl] at h
  | ok t => exact usable_of_locate hl

/-- **A directory that a path leads to** can be walked to along the path. -/
lemma walk_of_isDir {p : Path} (h : d.isDir p = true) :
    ∃ place, d.walk (d.start p) p.solid = .ok place := by
  obtain ⟨t, hl⟩ : ∃ t, d.locate p = .ok t := by
    cases hl : d.locate p with
    | error e => simp [isDir_error hl] at h
    | ok t => exact ⟨t, rfl⟩
  have hlocate := hl
  rw [locate_of_usable (usable_of_locate hl)] at hlocate
  rw [Path.solid, walk_filter]
  rcases List.eq_nil_or_concat p.components with hparts | ⟨init, last, hparts⟩
  · exact ⟨d.start p, by rw [hparts, walk_nil]⟩
  · rw [List.concat_eq_append] at hparts
    simp only [hparts, List.getLast?_concat, List.dropLast_concat] at hlocate ⊢
    cases hw : d.walk (d.start p) init with
    | error e => simp [hw, Except.map] at hlocate
    | ok dir =>
      rw [walk_append hw]
      -- dots lead somewhere by themselves; a name has to be looked at
      rcases parts_cases last with rfl | rfl | hlast
      · exact ⟨dir, by rw [walk_dot, walk_nil]⟩
      · exact ⟨dir.dropLast, by rw [walk_dotDot, walk_nil]⟩
      · simp only [hw, Except.map, if_neg hlast.1, if_neg hlast.2, Except.ok.injEq] at hlocate
        subst hlocate
        obtain ⟨entries, hentries⟩ := (isDir_entry hl).mp h
        obtain ⟨hlead, hat⟩ := leadsTo_of_entry? hl hentries
        exact ⟨dir ++ [last], (walk_ordinary_eq_ok_iff hlast).mpr
          ⟨hlead.short, kindAt_eq_dir_iff.mpr ⟨entries, hat⟩, rfl⟩⟩

end Disk

end StaticHost.Files

namespace StaticHost.Job

open Files

variable {d : Disk}

/-! ### Runs that make directories -/

lemma run_orIsDir (p : Path) (answer : Except FileError Unit) (d : Disk) :
    (orIsDir p answer).run d =
      ⟨match answer with
        | .ok () => .ok ()
        | .error e => if d.isDir p then .ok () else .error e, d, []⟩ := by
  rcases answer with e | ⟨⟩ <;> rfl

lemma run_makeDir_orIsDir (p : Path) (d : Disk) :
    (makeDir p (orIsDir p)).run d =
      match d.makeDir p with
      | .ok d' => ⟨.ok (), d', []⟩
      | .error e => ⟨if d.isDir p then .ok () else .error e, d, []⟩ := by
  rw [run]
  cases d.makeDir p <;> simp [run_orIsDir]

/-- Where something is missing, the next path up is made first. -/
lemma run_makeChain_missing {p : Path} (above : List Path) (h : d.makeDir p = .error .notFound) :
    (makeChain (p :: above)).run d =
      ((makeChain above).bind fun
        | .ok () => makeDir p (orIsDir p)
        | .error e => done (.error e)).run d := by
  rw [makeChain, run, h]
  congr 2

/-- Otherwise one try decides. -/
lemma run_makeChain_tried {p : Path} (above : List Path) (h : d.makeDir p ≠ .error .notFound) :
    (makeChain (p :: above)).run d = (makeDir p (orIsDir p)).run d := by
  rw [makeChain, run, run]
  cases hm : d.makeDir p with
  | ok d' => rfl
  | error e => cases e <;> first | rfl | exact absurd hm h

lemma grows_run_makeDir_orIsDir (p : Path) (d : Disk) :
    d.Grows ((makeDir p (orIsDir p)).run d).disk := by
  rw [run_makeDir_orIsDir]
  cases h : d.makeDir p with
  | ok d' => exact Disk.grows_makeDir h
  | error e => exact .refl d

lemma events_run_makeDir_orIsDir (p : Path) (d : Disk) :
    ((makeDir p (orIsDir p)).run d).events = [] := by
  rw [run_makeDir_orIsDir]
  cases d.makeDir p <;> rfl

/-- **Making directories** adds directories, logs nothing and leaves all else alone, also when it
fails. -/
theorem run_makeChain (paths : List Path) (d : Disk) :
    d.Grows ((makeChain paths).run d).disk ∧ ((makeChain paths).run d).events = [] := by
  induction paths generalizing d with
  | nil => exact ⟨.refl d, rfl⟩
  | cons p above ih =>
    -- only a missing parent sends the run up the chain
    by_cases h : d.makeDir p = .error .notFound
    · obtain ⟨hgrows, hevents⟩ := ih d
      rw [run_makeChain_missing above h, run_bind]
      rcases hv : ((makeChain above).run d).value with e | ⟨⟩
      · exact ⟨hgrows, by simp [hevents, run]⟩
      · exact ⟨hgrows.trans (grows_run_makeDir_orIsDir p _),
          by simp [hevents, events_run_makeDir_orIsDir]⟩
    · rw [run_makeChain_tried above h]
      exact ⟨grows_run_makeDir_orIsDir p d, events_run_makeDir_orIsDir p d⟩

/-- What one try made, or found, is there. -/
lemma isDir_makeDir_orIsDir {p : Path}
    (h : ((makeDir p (orIsDir p)).run d).value = .ok ()) :
    ((makeDir p (orIsDir p)).run d).disk.isDir p = true := by
  rw [run_makeDir_orIsDir] at h ⊢
  cases hm : d.makeDir p with
  | ok d' =>
    obtain ⟨dir, name, slash, hlead, hfree, rfl⟩ := Disk.makeDir_eq_ok_iff.mp hm
    have hlead' := hlead.mono (Disk.grows_makeDir hm).keepsDirs rfl
    simp only
    rw [Disk.isDir_entry hlead'.located, hlead'.entry?]
    have hk : (d.put dir name (.dir [])).kindAt (dir ++ [name]) = some .dir := by
      rw [Disk.kindAt_put Disk.get?_dir_nil hlead.isDir (by simp [hfree]), if_pos rfl]
      rfl
    obtain ⟨entries, hentries⟩ := Disk.kindAt_eq_dir_iff.mp hk
    exact ⟨entries, by rw [hentries]⟩
  | error e =>
    simp only [hm] at h ⊢
    by_contra hdir
    simp [hdir] at h

/-- **A directory that was made** is there. -/
lemma isDir_of_makeDirs {p : Path} (h : ((makeDirs p).run d).value = .ok ()) :
    p = [] ∨ ((makeDirs p).run d).disk.isDir p = true := by
  refine or_iff_not_imp_left.mpr fun hp => ?_
  obtain ⟨above, habove⟩ : ∃ above, p.ancestors = p :: above := by
    rw [Path.ancestors, Path.ancestorsIn, if_neg hp]
    exact ⟨_, rfl⟩
  unfold makeDirs at h ⊢
  rw [habove] at h ⊢
  by_cases hmissing : d.makeDir p = .error .notFound
  · rw [run_makeChain_missing _ hmissing, run_bind] at h ⊢
    rcases hv : ((makeChain above).run d).value with e | ⟨⟩
    · simp [hv, run] at h
    · rw [hv] at h
      exact isDir_makeDir_orIsDir h
  · rw [run_makeChain_tried _ hmissing] at h ⊢
    exact isDir_makeDir_orIsDir h

/-! ### The chain of paths paves the way -/

/-- The run made the directories of the paved disk; if there is none, it failed. -/
def Paves (r : Run (Except FileError Unit)) : Option Disk → Prop
  | some d' => r = ⟨.ok (), d', []⟩
  | none => ∃ e, r.value = .error e

section OnePath

variable {p : Path} {init dir : List Name} {last : Name}

lemma ne_dot_of_solid (hs : p.solid = init ++ [last]) : last ≠ Path.dot := by
  have hmem : last ∈ p.solid := by simp [hs]
  simpa [Path.solid] using (List.mem_filter.mp hmem).2

/-- One try makes the last part, where all before it is there. -/
lemma paves_of_walk (hu : Disk.Usable p) (ht : p.Tidy) (hs : p.solid = init ++ [last])
    (hw : d.walk (d.start p) init = .ok dir) :
    Paves ((makeDir p (orIsDir p)).run d) (d.pave dir [last]) := by
  have hlocate := Disk.locate_of_tidy (d := d) hu ht hs
  rw [hw, Except.map] at hlocate
  rw [run_makeDir_orIsDir]
  -- two dots name a place that is there, so nothing is made for them
  by_cases hup : last = Path.dotDot
  · subst hup
    rw [if_pos rfl] at hlocate
    rw [Disk.makeDir_place hlocate, Disk.isDir_place hlocate, Disk.pave_dotDot]
    rfl
  · rw [if_neg hup] at hlocate
    have hfound := Disk.isDir_entry hlocate
    rw [Disk.entry?_eq] at hfound
    rw [Disk.makeDir_entry hlocate, Disk.entry?_eq,
      Disk.pave_ordinary ⟨ne_dot_of_solid hs, hup⟩, Disk.ensureDir]
    by_cases hdir : d.kindAt dir = some .dir
    · by_cases hlen : 255 < last.length
      · simp only [if_pos hdir, if_pos hlen, reduceCtorEq, exists_false, iff_false] at hfound
        simp [hdir, hlen, hfound, Paves, Nat.not_le.mpr hlen]
      · have hk : d.kindAt (dir ++ [last]) = (d.at? (dir ++ [last])).map Tree.kind := rfl
        rw [if_pos hdir, if_neg hlen] at hfound ⊢
        rw [if_pos ⟨hdir, Nat.not_lt.mp hlen⟩, hk]
        rcases hat : d.at? (dir ++ [last]) with _ | ⟨content⟩ | ⟨entries⟩
        · rfl
        · have hfile : d.isDir p = false := by simpa [hat] using hfound
          exact ⟨.alreadyExists, by simp [hfile]⟩
        · have hthere : d.isDir p = true := hfound.mpr ⟨entries, by rw [hat]⟩
          simp [hthere, Paves, Tree.kind]
    · simp only [if_neg hdir, reduceCtorEq, exists_false, iff_false] at hfound
      simp [hdir, hfound, Paves]

/-- Where all before it is there, the last part blocks the way if one try at it fails. -/
lemma pave_eq_none_of_try {e : FileError} (hu : Disk.Usable p) (ht : p.Tidy)
    (hs : p.solid = init ++ [last]) (hthere : d.pave (d.start p) init = some d)
    (h : ((makeDir p (orIsDir p)).run d).value = .error e) :
    d.pave (d.start p) p.solid = none := by
  have hlast := paves_of_walk hu ht hs (Disk.walk_of_pave hthere)
  rw [hs, Disk.pave_append, hthere, Option.bind_some]
  cases hl : d.pave (Disk.follow (d.start p) init) [last] with
  | none => rfl
  | some d' =>
    rw [hl] at hlast
    rw [show (makeDir p (orIsDir p)).run d = _ from hlast] at h
    cases h

lemma not_paved_of_walk_error {e : FileError} (hu : Disk.Usable p) (ht : p.Tidy)
    (hs : p.solid = init ++ [last]) (hw : d.walk (d.start p) init = .error e) :
    d.makeDir p = .error e ∧ ((makeDir p (orIsDir p)).run d).value = .error e := by
  have hlocate := Disk.locate_of_tidy (d := d) hu ht hs
  rw [hw, Except.map] at hlocate
  rw [run_makeDir_orIsDir, Disk.makeDir_error hlocate, Disk.isDir_error hlocate]
  exact ⟨rfl, rfl⟩

end OnePath

/-- What comes next in the chain above a path paves all but its last part. -/
lemma exists_above {p : Path} (hp : p ≠ []) (hu : Disk.Usable p) : ∃ q : Path,
    p.ancestors = p :: q.ancestors ∧ q.length < p.length ∧ q.Tidy ∧ (q = [] ∨ Disk.Usable q) ∧
      ∀ d : Disk, d.pave (d.start q) q.solid = d.pave (d.start p) p.solid.dropLast := by
  cases hq : p.parent with
  | none =>
    refine ⟨[], Path.ancestors_of_parent_none hq hp, List.length_pos_iff.mpr hp, fun _ => rfl,
      .inl rfl, fun d => ?_⟩
    rw [Path.solid_of_parent_none hq]
    rfl
  | some q =>
    have h := Path.isParent_of_parent hq
    refine ⟨q, Path.ancestors_of_parent hq hp, h.length_lt, h.tidy, Disk.usable_parent h hu,
      fun d => ?_⟩
    rw [h.solid_eq, Disk.start, Disk.start, h.isAbsolute_eq]

/-- **Making a directory and all above it** comes to the same as making what is missing from left to
right along the path. -/
theorem run_makeDirs (p : Path) (ht : p.Tidy) (hu : p = [] ∨ Disk.Usable p) (d : Disk) :
    Paves ((makeDirs p).run d) (d.pave (d.start p) p.solid) := by
  induction hn : p.length using Nat.strongRecOn generalizing p d with
  | _ n ih =>
  subst hn
  by_cases hp : p = []
  · subst hp
    rfl
  · replace hu := hu.resolve_left hp
    obtain ⟨q, habove, hlt, htq, huq, hpave⟩ := exists_above hp hu
    have ihq := fun d => ih q.length hlt q htq huq d rfl
    unfold makeDirs at ihq ⊢
    rw [habove]
    rcases List.eq_nil_or_concat p.solid with hs | ⟨init, last, hs⟩
    · -- nothing but dots: one try finds the directory there
      have hlocate := Disk.locate_of_solid_nil (d := d) hu hs
      have hmake := Disk.makeDir_place hlocate
      rw [run_makeChain_tried _ (by simp [hmake]), run_makeDir_orIsDir, hmake,
        Disk.isDir_place hlocate, hs]
      rfl
    · rw [List.concat_eq_append] at hs
      simp only [hs, List.dropLast_concat] at hpave
      rw [hs, Disk.pave_append]
      by_cases hmissing : d.makeDir p = .error .notFound
      · -- what is above is made first, and then the path is tried once more
        have hchain := ihq d
        rw [hpave] at hchain
        rw [run_makeChain_missing _ hmissing, run_bind]
        cases hd : d.pave (d.start p) init with
        | none =>
          rw [hd] at hchain
          obtain ⟨e, he⟩ := hchain
          exact ⟨e, by simp [he, run]⟩
        | some d₁ =>
          rw [hd] at hchain
          rw [show (makeChain q.ancestors).run d = _ from hchain, Option.bind_some]
          have hgrows := Disk.grows_pave hd
          have hw := Disk.walk_of_pave hd
          rw [← hgrows.start_eq p] at hw ⊢
          exact paves_of_walk hu ht hs hw
      · rw [run_makeChain_tried _ hmissing]
        cases hw : d.walk (d.start p) init with
        | ok dir =>
          rw [Disk.pave_of_walk hw, Option.bind_some, ← Disk.walk_eq_follow hw]
          exact paves_of_walk hu ht hs hw
        | error e =>
          obtain ⟨hmake, hvalue⟩ := not_paved_of_walk_error hu ht hs hw
          have he : e ≠ .notFound := by
            rintro rfl
            exact hmissing hmake
          rw [Disk.pave_of_walk_error hw he, Option.bind_none]
          exact ⟨e, hvalue⟩

/-! ### Asking once more -/

section Again

variable {p : Path} {above : List Path} {e : FileError}

/-- A directory that is there does not have to be made. -/
lemma run_makeDirs_of_isDir (h : p = [] ∨ d.isDir p = true) :
    (makeDirs p).run d = ⟨.ok (), d, []⟩ := by
  rcases h with rfl | h
  · rfl
  · have hp := (Disk.usable_of_isDir h).ne_nil
    have hmake : d.makeDir p = .error .alreadyExists := by
      rcases hl : d.locate p with e | ⟨names⟩ | ⟨dir, name, slash⟩
      · simp [Disk.isDir_error hl] at h
      · exact Disk.makeDir_place hl
      · obtain ⟨entries, hentries⟩ := (Disk.isDir_entry hl).mp h
        rw [Disk.makeDir_entry hl, hentries]
    rw [makeDirs, Path.ancestors, Path.ancestorsIn, if_neg hp,
      run_makeChain_tried _ (by simp [hmake]), run_makeDir_orIsDir, hmake]
    simp [h]

lemma disk_makeDir_orIsDir (h : ((makeDir p (orIsDir p)).run d).value = .error e) :
    ((makeDir p (orIsDir p)).run d).disk = d := by
  rw [run_makeDir_orIsDir] at h ⊢
  cases hm : d.makeDir p with
  | ok d' => simp [hm] at h
  | error e => rfl

/-- What fails at a path leaves what was made above it. -/
lemma disk_makeChain_missing (hmissing : d.makeDir p = .error .notFound)
    (h : ((makeChain (p :: above)).run d).value = .error e) :
    ((makeChain (p :: above)).run d).disk = ((makeChain above).run d).disk ∧
      (((makeChain above).run d).value = .ok () →
        ((makeDir p (orIsDir p)).run ((makeChain above).run d).disk).value = .error e) := by
  rw [run_makeChain_missing _ hmissing, run_bind] at h ⊢
  rcases hv : ((makeChain above).run d).value with e' | ⟨⟩
  · exact ⟨rfl, nofun⟩
  · rw [hv] at h
    exact ⟨disk_makeDir_orIsDir h, fun _ => h⟩

/-- Where nothing is left to be made above a path, failing at it changes nothing. -/
lemma disk_makeChain_of_error (habove : ((makeChain above).run d).disk = d)
    (h : ((makeChain (p :: above)).run d).value = .error e) :
    ((makeChain (p :: above)).run d).disk = d := by
  by_cases hmissing : d.makeDir p = .error .notFound
  · rw [(disk_makeChain_missing hmissing h).1, habove]
  · rw [run_makeChain_tried _ hmissing] at h ⊢
    exact disk_makeDir_orIsDir h

/-- A way that can be paved is there after the first time. -/
lemma makeDirs_paved {d' : Disk} (ht : p.Tidy) (hu : p = [] ∨ Disk.Usable p)
    (h : d.pave (d.start p) p.solid = some d') :
    (makeDirs p).run d = ⟨.ok (), d', []⟩ ∧ (makeDirs p).run d' = ⟨.ok (), d', []⟩ ∧
      d'.pave (d'.start p) p.solid = some d' := by
  have hthere : d'.pave (d'.start p) p.solid = some d' := by
    rw [(Disk.grows_pave h).start_eq, Disk.pave_of_pave h]
  have hmade := run_makeDirs p ht hu d
  have hagain := run_makeDirs p ht hu d'
  rw [h] at hmade
  rw [hthere] at hagain
  exact ⟨hmade, hagain, hthere⟩

/-- **A way that is blocked** stays blocked, and all that can be made of it is there after the first
time: asking once more makes nothing new. -/
lemma makeDirs_blocked (p : Path) (ht : p.Tidy) (hu : p = [] ∨ Disk.Usable p) (d : Disk)
    (h : d.pave (d.start p) p.solid = none) :
    let d₁ := ((makeDirs p).run d).disk
    d₁.pave (d₁.start p) p.solid = none ∧ ((makeDirs p).run d₁).disk = d₁ := by
  induction hn : p.length using Nat.strongRecOn generalizing p d with
  | _ n ih =>
  subst hn
  have hp : p ≠ [] := by
    rintro rfl
    cases h
  replace hu := hu.resolve_left hp
  obtain ⟨init, last, hs⟩ : ∃ init last, p.solid = init ++ [last] := by
    rcases List.eq_nil_or_concat p.solid with hs | ⟨init, last, hs⟩
    · rw [hs] at h
      cases h
    · exact ⟨init, last, by rw [hs, List.concat_eq_append]⟩
  obtain ⟨q, habove, hlt, htq, huq, hpave⟩ := exists_above hp hu
  simp only [hs, List.dropLast_concat] at hpave
  have hfails : ∀ d : Disk, d.pave (d.start p) p.solid = none →
      ∃ e, ((makeChain (p :: q.ancestors)).run d).value = .error e := by
    intro d hnone
    have hpaves := run_makeDirs p ht (.inr hu) d
    rwa [hnone, makeDirs, habove] at hpaves
  obtain ⟨e, he⟩ := hfails d h
  rw [makeDirs, habove]
  intro d₁
  by_cases hmissing : d.makeDir p = .error .notFound
  · obtain ⟨hdisk, htry⟩ := disk_makeChain_missing hmissing he
    obtain ⟨hsettled, hblocked⟩ : ((makeChain q.ancestors).run d₁).disk = d₁ ∧
        d₁.pave (d₁.start p) p.solid = none := by
      cases hd : d.pave (d.start q) q.solid with
      | none =>
        -- the obstacle is further up
        obtain ⟨hnone, hsame⟩ := ih q.length hlt q htq huq d hd rfl
        rw [makeDirs, ← hdisk] at hnone hsame
        rw [hs, Disk.pave_append, ← hpave, hnone]
        exact ⟨hsame, rfl⟩
      | some d' =>
        -- all above is there by now, so the obstacle is the last part
        obtain ⟨hmade, hagain, hthere⟩ := makeDirs_paved htq huq hd
        unfold makeDirs at hmade hagain
        rw [hmade] at hdisk htry
        rw [show d₁ = d' from hdisk, hagain]
        rw [hpave] at hthere
        exact ⟨rfl, pave_eq_none_of_try hu ht hs hthere (htry rfl)⟩
    obtain ⟨e', he'⟩ := hfails d₁ hblocked
    exact ⟨hblocked, disk_makeChain_of_error hsettled he'⟩
  · have hsame : d₁ = d := by
      rw [run_makeChain_tried _ hmissing] at he
      simp only [d₁, run_makeChain_tried _ hmissing, disk_makeDir_orIsDir he]
    rw [hsame]
    exact ⟨h, hsame⟩

/-- **Asking once more** for a directory makes nothing new, and goes well only if it did before. -/
theorem makeDirs_again (ht : p.Tidy) (hu : p = [] ∨ Disk.Usable p) (d : Disk) :
    let r := (makeDirs p).run d
    ((makeDirs p).run r.disk).disk = r.disk ∧
      (((makeDirs p).run r.disk).value = .ok () → r.value = .ok ()) := by
  intro r
  cases hd : d.pave (d.start p) p.solid with
  | none =>
    obtain ⟨hblocked, hsame⟩ := makeDirs_blocked p ht hu d hd
    have hagain := run_makeDirs p ht hu r.disk
    rw [hblocked] at hagain
    obtain ⟨e, he⟩ := hagain
    refine ⟨hsame, fun hok => ?_⟩
    rw [he] at hok
    cases hok
  | some d' =>
    obtain ⟨hmade, hagain, -⟩ := makeDirs_paved ht hu hd
    rw [show r = _ from hmade, hagain]
    exact ⟨rfl, fun _ => rfl⟩

end Again

end StaticHost.Job
