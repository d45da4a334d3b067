import Mathlib.Logic.Function.Basic
import Mathlib.Tactic.Common
import StaticHost.Files.Disk

/-!
A disk as a function from places to what stands there.

What an operation does to a disk is said through this view: writing a file and making a directory
change it at one place and nowhere else. Following a path depends on the directories alone, so a
path that leads somewhere leads to the same place on every disk that has those directories.
-/

namespace StaticHost.Files

/-- What stands at a place, without what is in it. -/
inductive Kind
  | file (content : Bytes)
  | dir
  deriving DecidableEq

def Tree.kind : Tree → Kind
  | file content => .file content
  | dir _ => .dir

namespace Disk

/-- What stands at a place of the disk, if anything does. -/
def kindAt (d : Disk) (place : List Name) : Option Kind :=
  (d.at? place).map Tree.kind

end Disk

/-! ### Trees -/

lemma Folder.find?_cons (n other : Name) (t : Tree) (f : Folder) :
    find? ((n, t) :: f) other = if other = n then some t else find? f other := by
  by_cases h : other = n
  · simp [find?, h]
  · simp [find?, List.lookup_cons, beq_eq_false_iff_ne.mpr h, h]

lemma Folder.find?_put (name other : Name) (t : Tree) (f : Folder) :
    find? (put name t f) other = if other = name then some t else find? f other := by
  induction f with
  | nil => rw [put, find?_cons]
  | cons e rest ih =>
    obtain ⟨n, u⟩ := e
    by_cases hn : n = name
    · subst hn
      rw [put, if_pos rfl, find?_cons, find?_cons]
      split_ifs <;> rfl
    · rw [put, if_neg hn, find?_cons, find?_cons, ih]
      by_cases h : other = n
      · subst h
        simp [hn]
      · simp [h]

/-- An entry put where it stands already changes nothing. -/
lemma Folder.put_of_find? {name : Name} {t : Tree} {f : Folder} (h : find? f name = some t) :
    put name t f = f := by
  induction f with
  | nil => cases h
  | cons e rest ih =>
    obtain ⟨n, u⟩ := e
    rw [find?_cons] at h
    by_cases hn : n = name
    · subst hn
      rw [if_pos rfl, Option.some_inj] at h
      rw [put, if_pos rfl, h]
    · rw [if_neg (Ne.symm hn)] at h
      rw [put, if_neg hn, ih h]

namespace Tree

lemma get?_append (p q : List Name) (t : Tree) :
    t.get? (p ++ q) = (t.get? p).bind (get? q) := by
  induction p generalizing t with
  | nil => rfl
  | cons name p ih =>
    cases t with
    | file content => rfl
    | dir entries =>
      simp only [List.cons_append, get?]
      cases Folder.find? entries name with
      | none => rfl
      | some u => exact ih u

/-- A tree put at a name in a directory stands there, and all else is as before, provided nothing
is below the name in either tree. -/
lemma kind_get?_modify_put {t x : Tree} {dir : List Name} {entries : Folder} {name : Name}
    (hdir : t.get? dir = some (.dir entries))
    (hx : ∀ n rest, x.get? (n :: rest) = none)
    (ht : ∀ n rest, t.get? (dir ++ name :: n :: rest) = none) (place : List Name) :
    ((t.modify (Folder.put name x) dir).get? place).map kind =
      if place = dir ++ [name] then some x.kind else (t.get? place).map kind := by
  induction dir generalizing t place with
  | nil =>
    obtain rfl : t = .dir entries := by simpa [get?] using hdir
    rcases place with _ | ⟨n, rest⟩
    · rfl
    · simp only [modify, get?, Folder.find?_put, List.nil_append]
      by_cases hn : n = name
      · subst hn
        rcases rest with _ | ⟨m, rest⟩
        · simp [get?]
        · have h := ht m rest
          simp only [List.nil_append, get?] at h
          simp [hx, h]
      · simp [hn]
  | cons first dir ih =>
    cases t with
    | file content => simp [get?] at hdir
    | dir es =>
      simp only [get?] at hdir
      cases hf : Folder.find? es first with
      | none => simp [hf] at hdir
      | some u =>
        simp only [hf, Option.bind_some] at hdir
        have hu : ∀ n rest, u.get? (dir ++ name :: n :: rest) = none := by
          intro n rest
          have h := ht n rest
          simpa [get?, hf] using h
        rcases place with _ | ⟨n, rest⟩
        · simp [modify, hf, get?, kind]
        · simp only [modify, hf, get?, Folder.find?_put]
          -- only places below the first part of the way can change
          by_cases hn : n = first
          · subst hn
            simpa [hf] using ih hdir hu rest
          · simp [hn]

/-- A tree put where it stands already changes nothing. -/
lemma modify_put_of_get? {t x : Tree} {dir : List Name} {name : Name}
    (h : t.get? (dir ++ [name]) = some x) : t.modify (Folder.put name x) dir = t := by
  induction dir generalizing t with
  | nil =>
    cases t with
    | file content => cases h
    | dir entries =>
      obtain ⟨u, hu, h⟩ := Option.bind_eq_some_iff.mp h
      obtain rfl : u = x := by simpa [get?] using h
      rw [modify, Folder.put_of_find? hu]
  | cons first dir ih =>
    cases t with
    | file content => cases h
    | dir entries =>
      obtain ⟨u, hu, h⟩ := Option.bind_eq_some_iff.mp h
      simp only [modify, hu]
      rw [ih h, Folder.put_of_find? hu]

end Tree

/-! ### Places of a disk -/

namespace Disk

variable {d d' : Disk}

lemma kindAt_eq_dir_iff {place : List Name} :
    d.kindAt place = some .dir ↔ ∃ entries, d.at? place = some (.dir entries) := by
  unfold kindAt
  cases d.at? place with
  | none => simp
  | some t => cases t <;> simp [Tree.kind]

lemma kindAt_eq_file_iff {place : List Name} {content : Bytes} :
    d.kindAt place = some (.file content) ↔ d.at? place = some (.file content) := by
  unfold kindAt
  cases d.at? place with
  | none => simp
  | some t => cases t <;> simp [Tree.kind]

lemma kindAt_eq_none_iff {place : List Name} : d.kindAt place = none ↔ d.at? place = none := by
  simp [kindAt]

/-- What a place is in is a directory. -/
lemma kindAt_of_append {p q : List Name} (hq : q ≠ []) (h : d.kindAt (p ++ q) ≠ none) :
    d.kindAt p = some .dir := by
  obtain ⟨n, q, rfl⟩ := List.exists_cons_of_ne_nil hq
  rw [ne_eq, kindAt_eq_none_iff, at?, Tree.get?_append] at h
  unfold kindAt at?
  cases hp : d.root.get? p with
  | none => simp [hp] at h
  | some t =>
    cases t with
    | file content => simp [hp, Tree.get?] at h
    | dir entries => rfl

/-- A name is looked up in a directory that is there, and must not be too long. -/
lemma entry?_eq (d : Disk) (dir : List Name) (name : Name) :
    d.entry? dir name =
      if d.kindAt dir = some .dir then
        if 255 < name.length then .error .nameTooLong else .ok (d.at? (dir ++ [name]))
      else .error .notFound := by
  unfold entry?
  cases h : d.at? dir with
  | none => simp [kindAt, h]
  | some t =>
    cases t with
    | file content => simp [kindAt, h, Tree.kind]
    | dir entries =>
      have hname : d.at? (dir ++ [name]) = Folder.find? entries name := by
        have h' : d.root.get? dir = some (.dir entries) := h
        rw [at?, Tree.get?_append, h', Option.bind_some, Tree.get?]
        cases Folder.find? entries name <;> rfl
      simp [kindAt, h, Tree.kind, hname]

/-! ### Following a path -/

/-- The part is a name, and not one or two dots. -/
def Ordinary (part : Name) : Prop := part ≠ Path.dot ∧ part ≠ Path.dotDot

instance (part : Name) : Decidable (Ordinary part) :=
  inferInstanceAs (Decidable (part ≠ Path.dot ∧ part ≠ Path.dotDot))

lemma dotDot_ne_dot : Path.dotDot ≠ Path.dot := by decide

@[simp] lemma walk_nil (here : List Name) : d.walk here [] = .ok here := rfl

@[simp] lemma walk_dot (here rest : List Name) :
    d.walk here (Path.dot :: rest) = d.walk here rest := by
  rw [walk, if_pos rfl]

@[simp] lemma walk_dotDot (here rest : List Name) :
    d.walk here (Path.dotDot :: rest) = d.walk here.dropLast rest := by
  rw [walk, if_neg dotDot_ne_dot, if_pos rfl]

lemma walk_ordinary {part : Name} (hp : Ordinary part) (here rest : List Name) :
    d.walk here (part :: rest) =
      if d.kindAt here = some .dir then
        if 255 < part.length then .error .nameTooLong
        else match d.kindAt (here ++ [part]) with
          | none => .error .notFound
          | some .dir => d.walk (here ++ [part]) rest
          | some (.file _) => .error .notADirectory
      else .error .notFound := by
  rw [walk, if_neg hp.1, if_neg hp.2, entry?_eq]
  by_cases hdir : d.kindAt here = some .dir
  · by_cases hlen : 255 < part.length
    · simp [hdir, hlen]
    · simp only [hdir, hlen, if_true, if_false]
      unfold kindAt
      cases d.at? (here ++ [part]) with
      | none => rfl
      | some t => cases t <;> rfl
  · simp [hdir]

lemma walk_ordinary_eq_ok_iff {part : Name} (hp : Ordinary part) {here rest place : List Name} :
    d.walk here (part :: rest) = .ok place ↔
      part.length ≤ 255 ∧ d.kindAt (here ++ [part]) = some .dir ∧
        d.walk (here ++ [part]) rest = .ok place := by
  have hup : d.kindAt (here ++ [part]) = some .dir → d.kindAt here = some .dir := fun h =>
    kindAt_of_append (q := [part]) (by simp) (by simp [h])
  rw [walk_ordinary hp]
  split_ifs with hdir hlen
  · simp; omega
  · cases hk : d.kindAt (here ++ [part]) with
    | none => simp
    | some k => cases k <;> simp; omega
  · simp; tauto

/-- The place that parts spell, from a place on, whatever is there. -/
def follow : List Name → List Name → List Name
  | here, [] => here
  | here, part :: rest =>
    if part = Path.dot then follow here rest
    else if part = Path.dotDot then follow here.dropLast rest
    else follow (here ++ [part]) rest

lemma parts_cases (part : Name) : part = Path.dot ∨ part = Path.dotDot ∨ Ordinary part := by
  unfold Ordinary
  tauto

lemma walk_eq_follow {here parts place : List Name} (h : d.walk here parts = .ok place) :
    place = follow here parts := by
  induction parts generalizing here with
  | nil => simpa [follow] using h.symm
  | cons part rest ih =>
    rcases parts_cases part with rfl | rfl | hp
    · simpa [follow] using ih (by simpa using h)
    · simpa [follow, dotDot_ne_dot] using ih (by simpa using h)
    · obtain ⟨-, -, h⟩ := (walk_ordinary_eq_ok_iff hp).mp h
      simpa [follow, hp.1, hp.2] using ih h

/-- The first disk's directories are all on the second. -/
def KeepsDirs (d d' : Disk) : Prop :=
  ∀ place, d.kindAt place = some .dir → d'.kindAt place = some .dir

/-- **A way through directories** stays open while they are there. -/
lemma walk_mono (hk : KeepsDirs d d') {here parts place : List Name}
    (h : d.walk here parts = .ok place) : d'.walk here parts = .ok place := by
  induction parts generalizing here with
  | nil => exact h
  | cons part rest ih =>
    rcases parts_cases part with rfl | rfl | hp
    · simpa using ih (by simpa using h)
    · simpa using ih (by simpa using h)
    · obtain ⟨hlen, hdir, h⟩ := (walk_ordinary_eq_ok_iff hp).mp h
      exact (walk_ordinary_eq_ok_iff hp).mpr ⟨hlen, hk _ hdir, ih h⟩

/-- A path that can be followed at all. -/
structure Usable (p : Path) : Prop where
  noNul : 0 ∉ p
  ne_nil : p ≠ []
  short : p.length < 4096

def start (d : Disk) (p : Path) : List Name :=
  if p.isAbsolute then [] else d.cwd

lemma locate_of_usable {p : Path} (h : Usable p) :
    d.locate p =
      match p.components.getLast? with
      | none => .ok (.place (d.start p))
      | some last => (d.walk (d.start p) p.components.dropLast).map fun dir =>
        if last = Path.dot then .place dir
        else if last = Path.dotDot then .place dir.dropLast
        else .entry dir last (p.getLast? == some Path.slash) := by
  have hlen := h.short
  unfold locate start
  rw [if_neg (by simpa using h.noNul), if_neg h.ne_nil, if_neg (by omega)]
  cases p.components.getLast? with
  | none => rfl
  | some last =>
    simp only [bind, Except.bind]
    cases d.walk (if p.isAbsolute then [] else d.cwd) p.components.dropLast with
    | error e => rfl
    | ok dir =>
      simp only [Except.map]
      split_ifs <;> rfl

lemma locate_of_not_usable {p : Path} (h : ¬ Usable p) :
    ∃ e, ∀ d : Disk, d.locate p = .error e := by
  unfold locate
  by_cases h0 : p.contains 0
  · exact ⟨_, fun d => if_pos h0⟩
  · by_cases h1 : p = []
    · exact ⟨_, fun d => by rw [if_neg h0, if_pos h1]⟩
    · by_cases h2 : 4096 ≤ p.length
      · exact ⟨_, fun d => by rw [if_neg h0, if_neg h1, if_pos h2]⟩
      · exact absurd ⟨by simpa using h0, h1, by omega⟩ h

lemma usable_of_locate {p : Path} {t : Target} (h : d.locate p = .ok t) : Usable p := by
  by_contra hu
  obtain ⟨e, he⟩ := locate_of_not_usable hu
  rw [he] at h
  cases h

/-- **A path leads to the same** while the directories on its way are there. -/
lemma locate_mono (hk : KeepsDirs d d') (hc : d'.cwd = d.cwd) {p : Path} {t : Target}
    (h : d.locate p = .ok t) : d'.locate p = .ok t := by
  have hu := usable_of_locate h
  have hs : d'.start p = d.start p := by rw [start, start, hc]
  rw [locate_of_usable hu] at h ⊢
  rw [hs]
  cases hl : p.components.getLast? with
  | none => simpa [hl] using h
  | some last =>
    simp only [hl] at h ⊢
    cases hw : d.walk (d.start p) p.components.dropLast with
    | error e => simp [hw, Except.map] at h
    | ok dir => rw [walk_mono hk hw, ← hw]; exact h

/-! ### Operations -/

/-- The path leads to a name in a directory that is there; `slash` says whether it ends in one. -/
structure LeadsTo (d : Disk) (p : Path) (dir : List Name) (name : Name) (slash : Bool) : Prop where
  located : d.locate p = .ok (.entry dir name slash)
  isDir : d.kindAt dir = some .dir
  short : name.length ≤ 255

lemma LeadsTo.mono {p : Path} {dir : List Name} {name : Name} {slash : Bool}
    (h : d.LeadsTo p dir name slash) (hk : KeepsDirs d d') (hc : d'.cwd = d.cwd) :
    d'.LeadsTo p dir name slash :=
  ⟨locate_mono hk hc h.located, hk _ h.isDir, h.short⟩

lemma LeadsTo.entry? {p : Path} {dir : List Name} {name : Name} {slash : Bool}
    (h : d.LeadsTo p dir name slash) : d.entry? dir name = .ok (d.at? (dir ++ [name])) := by
  have hlen := h.short
  rw [entry?_eq, if_pos h.isDir, if_neg (by omega)]

/-- Looking up the name at the end of a path. -/
lemma leadsTo_of_entry? {p : Path} {dir : List Name} {name : Name} {slash : Bool}
    {found : Option Tree} (hl : d.locate p = .ok (.entry dir name slash))
    (he : d.entry? dir name = .ok found) :
    d.LeadsTo p dir name slash ∧ d.at? (dir ++ [name]) = found := by
  rw [entry?_eq] at he
  split_ifs at he with hd hlen
  cases he
  exact ⟨⟨hl, hd, by omega⟩, rfl⟩

/-- **Putting** a file or an empty directory in place of no directory changes that place only. -/
lemma kindAt_put {dir : List Name} {name : Name} {x : Tree}
    (hx : ∀ n rest, x.get? (n :: rest) = none) (hdir : d.kindAt dir = some .dir)
    (hold : d.kindAt (dir ++ [name]) ≠ some .dir) (place : List Name) :
    (d.put dir name x).kindAt place =
      if place = dir ++ [name] then some x.kind else d.kindAt place := by
  obtain ⟨entries, hentries⟩ := kindAt_eq_dir_iff.mp hdir
  refine Tree.kind_get?_modify_put hentries hx (fun n rest => ?_) place
  by_contra hne
  have happ : dir ++ name :: n :: rest = (dir ++ [name]) ++ n :: rest := by simp
  rw [happ] at hne
  exact hold (kindAt_of_append (by simp) (mt kindAt_eq_none_iff.mp hne))

section Following

variable {p : Path} {dir : List Name} {name : Name} {slash : Bool}

lemma read_entry (h : d.locate p = .ok (.entry dir name slash)) :
    d.read p =
      match d.entry? dir name with
      | .error e => .error e
      | .ok none => .error .notFound
      | .ok (some (.dir _)) => .error .isADirectory
      | .ok (some (.file content)) => if slash then .error .notADirectory else .ok content := by
  unfold read
  rw [h]
  simp only [bind, Except.bind]
  rcases d.entry? dir name with e | _ | ⟨_⟩ | ⟨_⟩ <;> rfl

lemma write_entry (h : d.locate p = .ok (.entry dir name slash)) (content : Bytes) :
    d.write p content =
      if slash then .error .isADirectory
      else match d.entry? dir name with
        | .error e => .error e
        | .ok (some (.dir _)) => .error .isADirectory
        | .ok _ => .ok (d.put dir name (.file content)) := by
  unfold write
  rw [h]
  simp only [bind, Except.bind]
  cases slash with
  | true => rfl
  | false => rcases d.entry? dir name with e | _ | ⟨_⟩ | ⟨_⟩ <;> rfl

lemma makeDir_entry (h : d.locate p = .ok (.entry dir name slash)) :
    d.makeDir p =
      match d.entry? dir name with
      | .error e => .error e
      | .ok (some _) => .error .alreadyExists
      | .ok none => .ok (d.put dir name (.dir [])) := by
  unfold makeDir
  rw [h]
  simp only [bind, Except.bind]
  cases d.entry? dir name with
  | error e => rfl
  | ok found => cases found <;> rfl

lemma read_place {names : List Name} (h : d.locate p = .ok (.place names)) :
    d.read p = .error .isADirectory := by
  unfold read; rw [h]; rfl

lemma write_place {names : List Name} (h : d.locate p = .ok (.place names)) (content : Bytes) :
    d.write p content = .error .isADirectory := by
  unfold write; rw [h]; rfl

lemma makeDir_place {names : List Name} (h : d.locate p = .ok (.place names)) :
    d.makeDir p = .error .alreadyExists := by
  unfold makeDir; rw [h]; rfl

lemma read_error {e : FileError} (h : d.locate p = .error e) : d.read p = .error e := by
  unfold read; rw [h]; rfl

lemma write_error {e : FileError} (h : d.locate p = .error e) (content : Bytes) :
    d.write p content = .error e := by
  unfold write; rw [h]; rfl

lemma makeDir_error {e : FileError} (h : d.locate p = .error e) : d.makeDir p = .error e := by
  unfold makeDir; rw [h]; rfl

end Following

/-- Of the paths that cannot be followed, only the empty one is said to be missing. -/
lemma usable_of_notFound {p : Path} (h : d.read p = .error .notFound) : p = [] ∨ Usable p := by
  have hnul : 0 ∉ p := by
    intro hnul
    have hlocate : d.locate p = .error .nulInPath := by
      rw [locate, if_pos (by simpa using hnul)]
    simp [read_error hlocate] at h
  refine or_iff_not_imp_left.mpr fun hp => ⟨hnul, hp, ?_⟩
  by_contra hlong
  have hlocate : d.locate p = .error .nameTooLong := by
    rw [locate, if_neg (by simpa using hnul), if_neg hp, if_pos (by omega)]
  simp [read_error hlocate] at h

/-- A path to a file leads to a name in a directory, and the file is there. -/
lemma read_eq_ok_iff {p : Path} {content : Bytes} :
    d.read p = .ok content ↔ ∃ dir name, d.LeadsTo p dir name false ∧
      d.kindAt (dir ++ [name]) = some (.file content) := by
  constructor
  · intro h
    rcases hl : d.locate p with e | ⟨names⟩ | ⟨dir, name, slash⟩
    · simp [read_error hl] at h
    · simp [read_place hl] at h
    · rw [read_entry hl] at h
      rcases he : d.entry? dir name with e | _ | ⟨content'⟩ | ⟨entries⟩
      · simp [he] at h
      · simp [he] at h
      · obtain ⟨hlead, hat⟩ := leadsTo_of_entry? hl he
        cases slash with
        | true => simp [he] at h
        | false =>
          simp only [he, Bool.false_eq_true, if_false, Except.ok.injEq] at h
          exact ⟨dir, name, hlead, kindAt_eq_file_iff.mpr (h ▸ hat)⟩
      · simp [he] at h
  · rintro ⟨dir, name, hlead, hk⟩
    rw [read_entry hlead.located, hlead.entry?, kindAt_eq_file_iff.mp hk]
    rfl

/-- **Writing** puts the file at the name that the path leads to, unless a directory is there. -/
lemma write_eq_ok_iff {p : Path} {content : Bytes} :
    d.write p content = .ok d' ↔ ∃ dir name, d.LeadsTo p dir name false ∧
      d.kindAt (dir ++ [name]) ≠ some .dir ∧ d' = d.put dir name (.file content) := by
  constructor
  · intro h
    rcases hl : d.locate p with e | ⟨names⟩ | ⟨dir, name, slash⟩
    · simp [write_error hl] at h
    · simp [write_place hl] at h
    · rw [write_entry hl] at h
      cases slash with
      | true => simp at h
      | false =>
        rcases he : d.entry? dir name with e | _ | ⟨content'⟩ | ⟨entries⟩
        · simp [he] at h
        · obtain ⟨hlead, hat⟩ := leadsTo_of_entry? hl he
          simp only [he, Bool.false_eq_true, if_false, Except.ok.injEq] at h
          exact ⟨dir, name, hlead, by simp [kindAt_eq_none_iff.mpr hat], h.symm⟩
        · obtain ⟨hlead, hat⟩ := leadsTo_of_entry? hl he
          simp only [he, Bool.false_eq_true, if_false, Except.ok.injEq] at h
          exact ⟨dir, name, hlead, by simp [kindAt_eq_file_iff.mpr hat], h.symm⟩
        · simp [he] at h
  · rintro ⟨dir, name, hlead, hk, rfl⟩
    rw [write_entry hlead.located, hlead.entry?]
    rcases hat : d.at? (dir ++ [name]) with _ | ⟨content'⟩ | ⟨entries⟩
    · rfl
    · rfl
    · exact absurd (kindAt_eq_dir_iff.mpr ⟨entries, hat⟩) hk

/-- **Making a directory** puts one at the name that the path leads to, if the name is free. -/
lemma makeDir_eq_ok_iff {p : Path} :
    d.makeDir p = .ok d' ↔ ∃ dir name slash, d.LeadsTo p dir name slash ∧
      d.kindAt (dir ++ [name]) = none ∧ d' = d.put dir name (.dir []) := by
  constructor
  · intro h
    rcases hl : d.locate p with e | ⟨names⟩ | ⟨dir, name, slash⟩
    · simp [makeDir_error hl] at h
    · simp [makeDir_place hl] at h
    · rw [makeDir_entry hl] at h
      rcases he : d.entry? dir name with e | _ | t
      · simp [he] at h
      · obtain ⟨hlead, hat⟩ := leadsTo_of_entry? hl he
        simp only [he, Except.ok.injEq] at h
        exact ⟨dir, name, slash, hlead, kindAt_eq_none_iff.mpr hat, h.symm⟩
      · simp [he] at h
  · rintro ⟨dir, name, slash, hlead, hk, rfl⟩
    rw [makeDir_entry hlead.located, hlead.entry?, kindAt_eq_none_iff.mp hk]

section Leading

variable {p : Path} {dir : List Name} {name : Name} {slash : Bool}

/-- The name that a path leads to is its last part, and the parts before it lead to where it is. -/
lemma LeadsTo.parts (h : d.LeadsTo p dir name slash) :
    p.components.getLast? = some name ∧ Ordinary name ∧
      d.walk (d.start p) p.components.dropLast = .ok dir := by
  have hlocate := h.located
  rw [locate_of_usable (usable_of_locate hlocate)] at hlocate
  cases hl : p.components.getLast? with
  | none => simp [hl] at hlocate
  | some last =>
    simp only [hl] at hlocate
    cases hw : d.walk (d.start p) p.components.dropLast with
    | error e => simp [hw, Except.map] at hlocate
    | ok place =>
      simp only [hw, Except.map, Except.ok.injEq] at hlocate
      split_ifs at hlocate with hdot hup
      obtain ⟨rfl, rfl, -⟩ := Target.entry.inj hlocate
      exact ⟨rfl, ⟨hdot, hup⟩, rfl⟩

/-! ### Ways without two dots -/

lemma isPrefix_follow {here parts : List Name} (h : Path.dotDot ∉ parts) :
    here <+: follow here parts := by
  induction parts generalizing here with
  | nil => exact List.prefix_rfl
  | cons part parts ih =>
    rw [List.mem_cons, not_or] at h
    rw [follow, if_neg (Ne.symm h.1)]
    split_ifs
    · exact ih h.2
    · exact (List.prefix_append _ _).trans (ih h.2)

lemma kindAt_of_isPrefix {place inner : List Name} (hp : place <+: inner)
    (h : d.kindAt inner = some .dir) : d.kindAt place = some .dir := by
  obtain ⟨rest, rfl⟩ := hp
  by_cases hrest : rest = []
  · rwa [hrest, List.append_nil] at h
  · exact kindAt_of_append hrest (by simp [h])

/-- Parts that only go down lead through directories above the last one, so these are there on
every disk that has it. -/
lemma walk_of_end {here parts place : List Name} (hup : Path.dotDot ∉ parts)
    (h : d'.walk here parts = .ok place) (hdir : d.kindAt place = some .dir) :
    d.walk here parts = .ok place := by
  induction parts generalizing here with
  | nil => exact h
  | cons part parts ih =>
    rw [List.mem_cons, not_or] at hup
    rcases parts_cases part with rfl | rfl | hp
    · simpa using ih hup.2 (by simpa using h)
    · exact absurd rfl hup.1
    · obtain ⟨hlen, -, h⟩ := (walk_ordinary_eq_ok_iff hp).mp h
      have hbelow : here ++ [part] <+: place := by
        rw [walk_eq_follow h]
        exact isPrefix_follow hup.2
      exact (walk_ordinary_eq_ok_iff hp).mpr ⟨hlen, kindAt_of_isPrefix hbelow hdir, ih hup.2 h⟩

/-- **A path that only goes down** leads to a file wherever the file is there. -/
lemma read_of_end {content : Bytes} (hup : Path.dotDot ∉ p.components)
    (hcwd : d'.cwd = d.cwd) (h : d'.LeadsTo p dir name false)
    (hfile : d.kindAt (dir ++ [name]) = some (.file content)) : d.read p = .ok content := by
  have hdir : d.kindAt dir = some .dir := by
    refine kindAt_of_append (q := [name]) (by simp) ?_
    simp [hfile]
  obtain ⟨hlast, hname, hwalk⟩ := h.parts
  have hup' : Path.dotDot ∉ p.components.dropLast := fun hmem =>
    hup (List.dropLast_subset _ hmem)
  have hstart : d'.start p = d.start p := by rw [start, start, hcwd]
  have hlocate : d.locate p = d'.locate p := by
    have hu := usable_of_locate h.located
    rw [locate_of_usable hu, locate_of_usable hu, hwalk]
    rw [hstart] at hwalk ⊢
    rw [walk_of_end hup' hwalk hdir]
  refine read_eq_ok_iff.mpr ⟨dir, name, ⟨?_, hdir, h.short⟩, hfile⟩
  rw [hlocate, h.located]

/-! ### A file put on the disk -/

lemma get?_dir_nil (n : Name) (rest : List Name) : (Tree.dir []).get? (n :: rest) = none := rfl

lemma get?_file (content : Bytes) (n : Name) (rest : List Name) :
    (Tree.file content).get? (n :: rest) = none := rfl

/-- A file put where no directory is. -/
lemma kindAt_put_file {content : Bytes} (hdir : d.kindAt dir = some .dir)
    (hold : d.kindAt (dir ++ [name]) ≠ some .dir) (place : List Name) :
    (d.put dir name (.file content)).kindAt place =
      if place = dir ++ [name] then some (.file content) else d.kindAt place :=
  kindAt_put (get?_file content) hdir hold place

/-- Putting a file over itself leaves the disk as it is. -/
lemma put_file_self {content : Bytes} (h : d.kindAt (dir ++ [name]) = some (.file content)) :
    d.put dir name (.file content) = d := by
  rw [put, Tree.modify_put_of_get? (kindAt_eq_file_iff.mp h)]

lemma keepsDirs_put_file {content : Bytes} (hdir : d.kindAt dir = some .dir)
    (hold : d.kindAt (dir ++ [name]) ≠ some .dir) :
    KeepsDirs d (d.put dir name (.file content)) := by
  intro place hp
  rw [kindAt_put_file hdir hold, if_neg (by rintro rfl; exact hold hp), hp]

/-- A file that was put where a path leads can be read there. -/
lemma LeadsTo.read_put_file (h : d.LeadsTo p dir name false)
    (hold : d.kindAt (dir ++ [name]) ≠ some .dir) (content : Bytes) :
    (d.put dir name (.file content)).read p = .ok content := by
  refine read_eq_ok_iff.mpr ⟨dir, name, h.mono (keepsDirs_put_file h.isDir hold) rfl, ?_⟩
  rw [kindAt_put_file h.isDir hold, if_pos rfl]

end Leading

end Disk

end StaticHost.Files
