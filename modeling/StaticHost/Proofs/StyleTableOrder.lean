import Mathlib.Data.List.Nodup
import Mathlib.Data.List.Sort
import Mathlib.Data.Set.List
import StaticHost.StyleTable
import StaticHost.Proofs.DiskView
import StaticHost.Proofs.PathParts
import StaticHost.Proofs.QuotedText
import StaticHost.Proofs.Utf8

/-!
The stylesheets of a directory: which files the table lists, under which names and in which order.

A directory is visited name by name, so what is listed below it is sorted by the first name, and
for one name by the rest. The order is that of the lists of names and not that of the names with
slashes between them: what is in `a` comes before `a.css`, although a dot is less than a slash.
-/

namespace StaticHost

open Files (Name Path Tree Folder Disk)

/-! ### Bytes in order -/

lemma Bytes.le_iff {a b : Bytes} : Bytes.le a b = true ↔ a ≤ b := by
  induction a generalizing b with
  | nil => simp [Bytes.le]
  | cons x a ih =>
    cases b with
    | nil => simp [Bytes.le]
    | cons y b => simp [Bytes.le, List.cons_le_cons_iff, ih]

namespace Files

/-- Induction over the entries of directories. -/
theorem Tree.induct {motive : Tree → Prop} (file : ∀ content, motive (.file content))
    (dir : ∀ entries, (∀ e ∈ entries, motive e.2) → motive (.dir entries)) (t : Tree) : motive t :=
  @Tree.rec motive (fun entries => ∀ e ∈ entries, motive e.2) (fun e => motive e.2) file dir
    (by simp) (fun _ _ he hes => List.forall_mem_cons.mpr ⟨he, hes⟩) (fun _ _ h => h) t

/-- A name that an entry can have, if it is a text at all: not empty, and without a slash. -/
structure IsTextName (name : Name) : Prop where
  text : ∃ s, name = Bytes.ofString s
  slash_not_mem : Path.slash ∉ name
  ne_nil : name ≠ []

/-- The names in every directory are distinct, and they are texts. -/
inductive Tree.WellNamed : Tree → Prop
  | file (content : Bytes) : WellNamed (.file content)
  | dir {entries : List (Name × Tree)} (distinct : (entries.map (·.1)).Nodup)
      (names : ∀ e ∈ entries, IsTextName e.1)
      (below : ∀ e ∈ entries, WellNamed e.2) : WellNamed (.dir entries)

lemma Folder.find?_eq_some_iff {entries : List (Name × Tree)}
    (h : (entries.map (·.1)).Nodup) {name : Name} {t : Tree} :
    Folder.find? entries name = some t ↔ (name, t) ∈ entries := by
  induction entries with
  | nil => simp [Folder.find?]
  | cons e entries ih =>
    obtain ⟨n, x⟩ := e
    obtain ⟨hn, hrest⟩ := List.nodup_cons.mp h
    rw [Folder.find?_cons]
    by_cases hname : n = name
    · subst hname
      have hother : (n, t) ∉ entries := fun hmem => hn (List.mem_map.mpr ⟨_, hmem, rfl⟩)
      simp [hother, eq_comm]
    · simp [Ne.symm hname, ih hrest]

lemma Folder.find?_perm {entries entries' : List (Name × Tree)}
    (h : (entries.map (·.1)).Nodup) (hperm : entries.Perm entries') (name : Name) :
    Folder.find? entries' name = Folder.find? entries name := by
  have h' : (entries'.map (·.1)).Nodup := (hperm.map _).nodup_iff.mp h
  refine Option.ext fun t => ?_
  rw [find?_eq_some_iff h', find?_eq_some_iff h, hperm.mem_iff]

lemma Tree.WellNamed.perm {entries entries' : List (Name × Tree)}
    (hw : (Tree.dir entries).WellNamed) (hperm : entries.Perm entries') :
    (Tree.dir entries').WellNamed := by
  obtain _ | ⟨hdistinct, hnames, hbelow⟩ := hw
  exact .dir ((hperm.map _).nodup_iff.mp hdistinct) (fun e he => hnames e (hperm.mem_iff.mpr he))
    fun e he => hbelow e (hperm.mem_iff.mpr he)

end Files

namespace StyleTable

open Files (IsTextName)

/-! ### Which files are listed -/

lemma isStylesheetName_iff {name : Name} :
    isStylesheetName name = true ↔ ∃ stem, stem ≠ [] ∧ name = stem ++ Bytes.ofString ".css" := by
  simp only [isStylesheetName, Bool.and_eq_true, decide_eq_true_eq, List.isSuffixOf_iff_suffix]
  constructor
  · rintro ⟨hlength, stem, rfl⟩
    refine ⟨stem, ?_, rfl⟩
    rintro rfl
    simp at hlength
  · rintro ⟨stem, hne, rfl⟩
    have hpos := List.length_pos_iff.mpr hne
    exact ⟨by simp only [List.length_append]; omega, List.suffix_append _ _⟩

def foundBelow (name : Name) : Tree → List (List Name)
  | .file _ => if isStylesheetName name then [[]] else []
  | .dir entries => stylesheetsIn (.dir entries)

lemma visitEntries_eq (entries : List (Name × Tree)) :
    visitEntries entries = entries.map fun e => (e.1, foundBelow e.1 e.2) := by
  induction entries with
  | nil => rw [visitEntries, List.map_nil]
  | cons e entries ih =>
    obtain ⟨name, content | inner⟩ := e
    · rw [visitEntries, ih]
      rfl
    · rw [visitEntries, ih]
      rfl

lemma nil_not_mem_stylesheetsIn (t : Tree) : [] ∉ stylesheetsIn t := by
  cases t with
  | file content => simp [stylesheetsIn]
  | dir entries => simp [stylesheetsIn]

lemma cons_mem_stylesheetsIn {entries : List (Name × Tree)} {name : Name} {rest : List Name} :
    name :: rest ∈ stylesheetsIn (.dir entries) ↔
      ∃ t, (name, t) ∈ entries ∧ rest ∈ foundBelow name t := by
  rw [stylesheetsIn, sortByName, visitEntries_eq]
  simp only [List.mem_flatMap, List.mem_mergeSort, List.mem_map]
  constructor
  · rintro ⟨_, ⟨⟨_, t⟩, hmem, rfl⟩, _, hrest, heq⟩
    cases heq
    exact ⟨t, hmem, hrest⟩
  · rintro ⟨t, hmem, hrest⟩
    exact ⟨_, ⟨(name, t), hmem, rfl⟩, rest, hrest, rfl⟩

/-- The names lead to a stylesheet: a regular file whose name is `.css` with something before it. -/
def IsStylesheet (t : Tree) (names : List Name) : Prop :=
  (∃ content, t.get? names = some (.file content)) ∧
    ∃ dir stem, stem ≠ [] ∧ names = dir ++ [stem ++ Bytes.ofString ".css"]

lemma IsStylesheet.ne_nil {t : Tree} {names : List Name} (h : IsStylesheet t names) :
    names ≠ [] := by
  obtain ⟨-, dir, stem, -, rfl⟩ := h
  simp

lemma not_isStylesheet_file {content : Bytes} {names : List Name} :
    ¬ IsStylesheet (.file content) names := by
  intro h
  obtain ⟨name, rest, rfl⟩ := List.exists_cons_of_ne_nil h.ne_nil
  obtain ⟨⟨content', hget⟩, -⟩ := h
  cases hget

lemma isStylesheet_single {entries : List (Name × Tree)} {name : Name} :
    IsStylesheet (.dir entries) [name] ↔
      (∃ content, Folder.find? entries name = some (.file content)) ∧
        isStylesheetName name = true := by
  have hget : (Tree.dir entries).get? [name] = Folder.find? entries name := by
    rw [Tree.get?]
    cases Folder.find? entries name <;> rfl
  rw [IsStylesheet, hget, isStylesheetName_iff]
  refine and_congr_right fun _ => ⟨?_, ?_⟩
  · rintro ⟨dir, stem, hne, heq⟩
    cases dir with
    | nil => exact ⟨stem, hne, List.singleton_inj.mp heq⟩
    | cons x dir => simp at heq
  · rintro ⟨stem, hne, rfl⟩
    exact ⟨[], stem, hne, rfl⟩

lemma isStylesheet_cons {entries : List (Name × Tree)} {name : Name} {rest : List Name}
    (hrest : rest ≠ []) :
    IsStylesheet (.dir entries) (name :: rest) ↔
      ∃ t, Folder.find? entries name = some t ∧ IsStylesheet t rest := by
  have hname : (∃ dir stem, stem ≠ [] ∧ name :: rest = dir ++ [stem ++ Bytes.ofString ".css"]) ↔
      ∃ dir stem, stem ≠ [] ∧ rest = dir ++ [stem ++ Bytes.ofString ".css"] := by
    constructor
    · rintro ⟨dir, stem, hne, heq⟩
      cases dir with
      | nil => exact absurd (List.cons.inj heq).2 hrest
      | cons x dir => exact ⟨dir, stem, hne, (List.cons.inj heq).2⟩
    · rintro ⟨dir, stem, hne, rfl⟩
      exact ⟨name :: dir, stem, hne, rfl⟩
  simp only [IsStylesheet, Tree.get?, hname, Option.bind_eq_some_iff]
  constructor
  · rintro ⟨⟨content, t, hfind, hget⟩, hstem⟩
    exact ⟨t, hfind, ⟨content, hget⟩, hstem⟩
  · rintro ⟨t, hfind, ⟨content, hget⟩, hstem⟩
    exact ⟨⟨content, t, hfind, hget⟩, hstem⟩

lemma nil_mem_foundBelow {name : Name} {t : Tree} :
    [] ∈ foundBelow name t ↔ (∃ content, t = .file content) ∧ isStylesheetName name = true := by
  cases t with
  | file content => simp [foundBelow]
  | dir entries => simp [foundBelow, nil_not_mem_stylesheetsIn]

lemma mem_foundBelow {name : Name} {t : Tree} {rest : List Name} (hrest : rest ≠ []) :
    rest ∈ foundBelow name t ↔ rest ∈ stylesheetsIn t := by
  cases t with
  | file content => simp [foundBelow, stylesheetsIn, hrest]
  | dir entries => rfl

/-- **What is listed**: the stylesheets at every depth, and nothing else. -/
theorem mem_stylesheetsIn_iff {t : Tree} (hw : t.WellNamed) {names : List Name} :
    names ∈ stylesheetsIn t ↔ IsStylesheet t names := by
  induction t using Tree.induct generalizing names with
  | file content =>
    rw [stylesheetsIn]
    simp [not_isStylesheet_file]
  | dir entries ih =>
    obtain _ | ⟨hdistinct, -, hbelow⟩ := hw
    match names with
    | [] => exact iff_of_false (nil_not_mem_stylesheetsIn _) fun h => h.ne_nil rfl
    | [name] =>
      rw [cons_mem_stylesheetsIn, isStylesheet_single]
      simp only [nil_mem_foundBelow, Folder.find?_eq_some_iff hdistinct]
      constructor
      · rintro ⟨_, hmem, ⟨content, rfl⟩, hname⟩
        exact ⟨⟨content, hmem⟩, hname⟩
      · rintro ⟨⟨content, hmem⟩, hname⟩
        exact ⟨_, hmem, ⟨content, rfl⟩, hname⟩
    | name :: next :: rest =>
      rw [cons_mem_stylesheetsIn, isStylesheet_cons (List.cons_ne_nil _ _)]
      simp only [Folder.find?_eq_some_iff hdistinct]
      refine exists_congr fun t => and_congr_right fun hmem => ?_
      rw [mem_foundBelow (List.cons_ne_nil _ _)]
      exact ih (name, t) hmem (hbelow (name, t) hmem)

/-! ### In which order -/

/-- Sorting by distinct names leaves no two of them equal. -/
lemma pairwise_sortByName {α : Type} {entries : List (Name × α)} (h : (entries.map (·.1)).Nodup) :
    (sortByName entries).Pairwise fun a b => a.1 < b.1 := by
  have hperm : (sortByName entries).Perm entries := List.mergeSort_perm _ _
  have hnodup : (sortByName entries).Pairwise fun a b => a.1 ≠ b.1 :=
    List.pairwise_map.mp ((hperm.map _).nodup_iff.mpr h)
  have hsorted : (sortByName entries).Pairwise fun a b => Bytes.le a.1 b.1 = true := by
    refine List.pairwise_mergeSort ?_ ?_ _
    · intro a b c hab hbc
      rw [Bytes.le_iff] at hab hbc ⊢
      exact List.le_trans hab hbc
    · intro a b
      rw [Bool.or_eq_true, Bytes.le_iff, Bytes.le_iff]
      exact List.le_total _ _
  refine (hsorted.and hnodup).imp ?_
  rintro a b ⟨hle, hne⟩
  rcases List.le_iff_lt_or_eq.mp (Bytes.le_iff.mp hle) with hlt | heq
  · exact hlt
  · exact absurd heq hne

lemma pairwise_foundBelow {name : Name} {t : Tree} (h : (stylesheetsIn t).Pairwise (· < ·)) :
    (foundBelow name t).Pairwise (· < ·) := by
  cases t with
  | file content =>
    rw [foundBelow]
    split <;> simp
  | dir entries => exact h

/-- **The order**: name by name, each name byte by byte. -/
theorem pairwise_stylesheetsIn {t : Tree} (hw : t.WellNamed) :
    (stylesheetsIn t).Pairwise (· < ·) := by
  induction t using Tree.induct with
  | file content =>
    rw [stylesheetsIn]
    exact .nil
  | dir entries ih =>
    obtain _ | ⟨hdistinct, -, hbelow⟩ := hw
    have hnames : ((visitEntries entries).map (·.1)).Nodup := by
      rw [visitEntries_eq, List.map_map]
      exact hdistinct
    rw [stylesheetsIn, List.pairwise_flatMap]
    constructor
    · intro e he
      rw [sortByName, List.mem_mergeSort, visitEntries_eq] at he
      obtain ⟨e, hmem, rfl⟩ := List.mem_map.mp he
      refine List.pairwise_map.mpr ((pairwise_foundBelow (ih e hmem (hbelow e hmem))).imp ?_)
      intro a b hab
      exact List.cons_lt_cons_iff.mpr (.inr ⟨rfl, hab⟩)
    · refine (pairwise_sortByName hnames).imp fun hlt x hx y hy => ?_
      obtain ⟨x, -, rfl⟩ := List.mem_map.mp hx
      obtain ⟨y, -, rfl⟩ := List.mem_map.mp hy
      exact List.cons_lt_cons_iff.mpr (.inl hlt)

/-! ### Under which names -/

lemma names_of_get? {t : Tree} (hw : t.WellNamed) {names : List Name} (h : t.get? names ≠ none) :
    ∀ name ∈ names, IsTextName name := by
  induction names generalizing t with
  | nil => simp
  | cons name rest ih =>
    cases hw with
    | file content => exact absurd rfl h
    | @dir entries hdistinct hnames hbelow =>
      rw [Tree.get?] at h
      rcases hfind : Folder.find? entries name with _ | t'
      · rw [hfind] at h
        exact absurd rfl h
      · rw [hfind] at h
        have hmem := (Folder.find?_eq_some_iff hdistinct).mp hfind
        exact List.forall_mem_cons.mpr ⟨hnames _ hmem, ih (hbelow _ hmem) h⟩

lemma ofString_intercalate (ss : List String) :
    Bytes.ofString ("/".intercalate ss) = Path.glue (ss.map Bytes.ofString) := by
  rw [Bytes.ofString, String.toList_intercalate]
  induction ss with
  | nil => rfl
  | cons s ss ih =>
    cases ss with
    | nil =>
      rw [List.map_singleton, List.intercalate_singleton]
      rfl
    | cons next ss =>
      rw [List.map_cons, List.map_cons, List.intercalate_cons_cons, List.map_cons,
        Path.glue_cons (by simp), ← ih]
      simp only [Utf8.encode, List.flatMap_append, List.append_assoc]
      rfl

/-- **The name of an entry** is the path to the file, with slashes between the names. -/
theorem ofString_entry_name (base : Path) {names : List Name}
    (h : ∀ name ∈ names, ∃ s, name = Bytes.ofString s) :
    Bytes.ofString (Entry.ofNames base names).name = Path.glue names := by
  obtain ⟨ss, rfl⟩ : names ∈ Set.range (List.map Bytes.ofString) := by
    rw [Set.range_list_map]
    intro name hname
    obtain ⟨s, rfl⟩ := h name hname
    exact ⟨s, rfl⟩
  have hshow : (ss.map Bytes.ofString).map Bytes.show = ss := by
    rw [List.map_map]
    exact List.map_id'' Bytes.show_ofString ss
  rw [Entry.ofNames, hshow, ofString_intercalate]

/-! ### The table -/

/-- What is at a place is a directory in both trees, a file in both or nothing in either. -/
def SameKinds (t t' : Tree) : Prop :=
  ∀ names, (t.get? names).map Tree.isDir = (t'.get? names).map Tree.isDir

/-- Entries that are listed in another order are the same entries. -/
lemma sameKinds_of_perm {entries entries' : List (Name × Tree)}
    (hw : (Tree.dir entries).WellNamed) (hperm : entries.Perm entries') :
    SameKinds (.dir entries) (.dir entries') := by
  obtain _ | ⟨hdistinct, -, -⟩ := hw
  intro names
  cases names with
  | nil => rfl
  | cons name rest => rw [Tree.get?, Tree.get?, Folder.find?_perm hdistinct hperm]

lemma exists_get?_eq_file_iff {t : Tree} {names : List Name} :
    (∃ content, t.get? names = some (.file content)) ↔
      (t.get? names).map Tree.isDir = some false := by
  rcases t.get? names with _ | content | entries
  · simp
  · simp [Tree.isDir]
  · simp [Tree.isDir]

lemma generate_congr {t t' : Tree} (hw : t.WellNamed) (hw' : t'.WellNamed) (h : SameKinds t t')
    (base : Path) : generate base (some t) = generate base (some t') := by
  have hsame : stylesheetsIn t = stylesheetsIn t' := by
    refine (pairwise_stylesheetsIn hw).eq_of_mem_iff (pairwise_stylesheetsIn hw') fun names => ?_
    rw [mem_stylesheetsIn_iff hw, mem_stylesheetsIn_iff hw', IsStylesheet, IsStylesheet,
      exists_get?_eq_file_iff, exists_get?_eq_file_iff, h names]
  rw [generate, generate, Option.map_some, Option.map_some, hsame]

def stylesDir (project : Path) : Path :=
  project.join (.ofString "styles")

def tableFile (output : Path) : Path :=
  output.join (.ofString "stylesheets.rs")

/-- How a run ends, by the answer to writing the table. -/
def Run.ofAnswer (printed : String) (d : Disk) : Except Files.FileError Disk → Run
  | .ok d' => ⟨printed, d', none⟩
  | .error reason => ⟨printed, d, some (.unwritten reason)⟩

/-- A run that goes well leaves the table where it was asked for. -/
lemma read_run {project output : Path} {d : Disk}
    (h : (run (some project) (some output) d).fault = none) :
    (run (some project) (some output) d).disk.read (tableFile output) =
      .ok (Bytes.ofString (generate (stylesDir project) (d.treeAt? (stylesDir project)))) := by
  have hrun : ∃ printed, run (some project) (some output) d =
      .ofAnswer printed d (d.write (tableFile output)
        (Bytes.ofString (generate (stylesDir project) (d.treeAt? (stylesDir project))))) :=
    ⟨_, rfl⟩
  obtain ⟨printed, hrun⟩ := hrun
  rw [hrun] at h ⊢
  generalize Bytes.ofString (generate _ _) = content at h ⊢
  rcases hwrite : d.write (tableFile output) content with reason | d'
  · rw [hwrite] at h
    cases h
  · obtain ⟨dir, name, hlead, hold, rfl⟩ := Disk.write_eq_ok_iff.mp hwrite
    exact hlead.read_put_file hold content

/-- The entry of the file that names lead to: its name is these names with slashes between them,
and its path leads there from outside. -/
structure IsEntry (base : Path) (names : List Name) (e : Entry) : Prop where
  name : Bytes.ofString e.name = Path.glue names
  splits : Path.pieces (Bytes.ofString e.name) = names
  path : e.path = Bytes.show (base ++ Path.slash :: Path.glue names)

/-- The entries of a table for what is below a directory, and the names that lead to their files. -/
structure IsTable (base : Path) (t : Tree) (paths : List (List Name)) (entries : List Entry) :
    Prop where
  listed : ∀ names, names ∈ paths ↔ IsStylesheet t names
  sorted : paths.Pairwise (· < ·)
  described : List.Forall₂ (IsEntry base) paths entries
  distinct : (entries.map (·.name)).Nodup

lemma IsTable.exists_entry {base : Path} {t : Tree} {paths : List (List Name)}
    {entries : List Entry} (h : IsTable base t paths entries) {names : List Name}
    (hsheet : IsStylesheet t names) : ∃ e ∈ entries, IsEntry base names e := by
  obtain ⟨i, hi, rfl⟩ := List.mem_iff_getElem.mp ((h.listed names).mpr hsheet)
  obtain ⟨hlength, hget⟩ := List.forall₂_iff_get.mp h.described
  have hi' : i < entries.length := hlength ▸ hi
  exact ⟨entries.get ⟨i, hi'⟩, List.get_mem _ _, hget i hi hi'⟩

lemma stylesDir_ends (project : Path) :
    stylesDir project ≠ [] ∧ (stylesDir project).getLast? ≠ some Path.slash := by
  obtain ⟨front, hjoin, -⟩ := Path.exists_join_eq project
    (show Path.slash ∉ Path.ofString "styles" by decide)
  have hlast : (stylesDir project).getLast? = some 0x73 := by
    rw [stylesDir, hjoin, List.getLast?_append_of_ne_nil _ (by decide)]
    rfl
  refine ⟨fun hnil => ?_, ?_⟩
  · rw [hnil] at hlast
    cases hlast
  · rw [hlast]
    decide

lemma isEntry_ofNames {base : Path} (hbase : base ≠ []) (hlast : base.getLast? ≠ some Path.slash)
    {names : List Name} (hne : names ≠ []) (h : ∀ name ∈ names, IsTextName name) :
    IsEntry base names (.ofNames base names) := by
  have hname := ofString_entry_name base fun name hn => (h name hn).text
  refine ⟨hname, ?_, ?_⟩
  · rw [hname]
    exact Path.pieces_glue hne fun name hn => (h name hn).slash_not_mem
  · rw [Entry.ofNames, Path.foldl_join hbase hlast hne fun name hn =>
      ⟨(h name hn).slash_not_mem, (h name hn).ne_nil⟩]

lemma isTable_stylesheetsIn {base : Path} (hbase : base ≠ [])
    (hlast : base.getLast? ≠ some Path.slash) {t : Tree} (hw : t.WellNamed) :
    IsTable base t (stylesheetsIn t) ((stylesheetsIn t).map (Entry.ofNames base)) := by
  have hsorted := pairwise_stylesheetsIn hw
  have hentry : ∀ names ∈ stylesheetsIn t, IsEntry base names (.ofNames base names) := by
    intro names hmem
    have hsheet := (mem_stylesheetsIn_iff hw).mp hmem
    obtain ⟨content, hget⟩ := hsheet.1
    exact isEntry_ofNames hbase hlast hsheet.ne_nil
      (names_of_get? hw (by rw [hget]; simp : t.get? names ≠ none))
  refine ⟨fun names => mem_stylesheetsIn_iff hw, hsorted, ?_, ?_⟩
  · rw [List.forall₂_map_right_iff]
    exact List.forall₂_same.mpr hentry
  · -- the names of two entries lead apart as their paths do
    rw [List.map_map]
    refine List.Nodup.map_on (fun a ha b hb heq => ?_) hsorted.nodup
    rw [← (hentry a ha).splits, ← (hentry b hb).splits]
    exact congrArg (fun name => Path.pieces (Bytes.ofString name)) heq

/-- **The table** has one entry for each stylesheet below the directory, at any depth, and no other.
The entries stand in strict order, name by name; an entry's name is the path to its file, and
splitting it at the slashes leads back there. That is what is read back from the text of the table,
and from the file that a run writes. How the directories list their entries makes no difference. -/
theorem table_of_tree {d : Disk} {project : Path} {t : Tree}
    (ht : d.treeAt? (stylesDir project) = some t) (hw : t.WellNamed) :
    ∃ (paths : List (List Name)) (entries : List Entry),
      IsTable (stylesDir project) t paths entries ∧
      readTable (generate (stylesDir project) (d.treeAt? (stylesDir project))) = some entries ∧
      (∀ output, (run (some project) (some output) d).fault = none →
        ∃ table, (run (some project) (some output) d).disk.read (tableFile output) =
            .ok (Bytes.ofString table) ∧
          readTable table = some entries) ∧
      ∀ (d' : Disk) (t' : Tree), d'.treeAt? (stylesDir project) = some t' → t'.WellNamed →
        SameKinds t t' →
        generate (stylesDir project) (d'.treeAt? (stylesDir project)) =
          generate (stylesDir project) (d.treeAt? (stylesDir project)) := by
  obtain ⟨hbase, hlast⟩ := stylesDir_ends project
  have hread : readTable (generate (stylesDir project) (d.treeAt? (stylesDir project))) =
      some ((stylesheetsIn t).map (Entry.ofNames (stylesDir project))) := by
    rw [ht]
    exact readTable_text _
  refine ⟨_, _, isTable_stylesheetsIn hbase hlast hw, hread, fun output hrun => ?_, ?_⟩
  · exact ⟨_, read_run hrun, hread⟩
  · intro d' t' ht' hw' hsame
    rw [ht, ht', generate_congr hw hw' hsame]

/-- Names that look alike: a directory named like a stylesheet, a file that is nothing but the
ending, a hidden one, and two whose order is not that of the joined names. -/
def lookalikes : List (Name × Tree) :=
  [(Bytes.ofString "x.css",
      .dir [(Bytes.ofString ".css", .file []), (Bytes.ofString "b.css", .file [])]),
    (Bytes.ofString "a.css", .file []),
    (Bytes.ofString "a", .dir [(Bytes.ofString "x.css", .file [])]),
    (Bytes.ofString ".h.css", .file [])]

lemma isTextName_ofString (s : String)
    (h : Path.slash ∉ Bytes.ofString s ∧ Bytes.ofString s ≠ []) : IsTextName (Bytes.ofString s) :=
  ⟨⟨s, rfl⟩, h.1, h.2⟩

lemma wellNamed_lookalikes : (Tree.dir lookalikes).WellNamed := by
  have hx := isTextName_ofString "x.css" (by decide)
  refine .dir (by decide) ?_ ?_
  · simp only [lookalikes, List.forall_mem_cons]
    exact ⟨hx, isTextName_ofString "a.css" (by decide), isTextName_ofString "a" (by decide),
      isTextName_ofString ".h.css" (by decide), by simp⟩
  · simp only [lookalikes, List.forall_mem_cons]
    refine ⟨.dir (by decide) ?_ ?_, .file _, .dir (by decide) ?_ ?_, .file _, by simp⟩
    · simp only [List.forall_mem_cons]
      exact ⟨isTextName_ofString ".css" (by decide), isTextName_ofString "b.css" (by decide),
        by simp⟩
    · simp only [List.forall_mem_cons]
      exact ⟨.file _, .file _, by simp⟩
    · simp only [List.forall_mem_cons]
      exact ⟨hx, by simp⟩
    · simp only [List.forall_mem_cons]
      exact ⟨.file _, by simp⟩

/-- What is in `a` comes before `a.css`, and the directory `x.css` is not listed. The table is the
same if the directory lists its entries from the last to the first. -/
theorem table_of_tree_lookalikes :
    let base := stylesDir (.ofString "/p")
    let diskOf (entries : List (Name × Tree)) : Disk :=
      ⟨.dir [(Bytes.ofString "p", .dir [(Bytes.ofString "styles", .dir entries)])], []⟩
    let d := diskOf lookalikes
    let d' := diskOf lookalikes.reverse
    ∃ (paths : List (List Name)) (entries : List Entry) (table : String),
      IsTable base (.dir lookalikes) paths entries ∧
      readTable (generate base (d.treeAt? base)) = some entries ∧
      ⟨"a/x.css", "/p/styles/a/x.css"⟩ ∈ entries ∧
      [Bytes.ofString "a", Bytes.ofString "x.css"] ∈ paths ∧
      [Bytes.ofString "a.css"] ∈ paths ∧
      [Bytes.ofString "a", Bytes.ofString "x.css"] < [Bytes.ofString "a.css"] ∧
      [Bytes.ofString "x.css"] ∉ paths ∧
      (run (some (.ofString "/p")) (some (.ofString "/p")) d).disk.read
        (.ofString "/p/stylesheets.rs") = .ok (Bytes.ofString table) ∧
      readTable table = some entries ∧
      generate base (d'.treeAt? base) = generate base (d.treeAt? base) := by
  intro base diskOf d d'
  have ht : d.treeAt? base = some (.dir lookalikes) := by rfl
  have ht' : d'.treeAt? base = some (.dir lookalikes.reverse) := by rfl
  have hperm : lookalikes.Perm lookalikes.reverse := (List.reverse_perm _).symm
  have hrun : (run (some (.ofString "/p")) (some (.ofString "/p")) d).fault = none := by rfl
  have hinner : IsStylesheet (.dir lookalikes) [Bytes.ofString "a", Bytes.ofString "x.css"] :=
    ⟨⟨[], rfl⟩, [Bytes.ofString "a"], Bytes.ofString "x", by decide, rfl⟩
  have houter : IsStylesheet (.dir lookalikes) [Bytes.ofString "a.css"] :=
    ⟨⟨[], rfl⟩, [], Bytes.ofString "a", by decide, rfl⟩
  obtain ⟨paths, entries, htable, hread, hruns, hsame⟩ := table_of_tree ht wellNamed_lookalikes
  obtain ⟨table, hfile, htext⟩ := hruns (.ofString "/p") hrun
  refine ⟨paths, entries, table, htable, hread, ?_, (htable.listed _).mpr hinner,
    (htable.listed _).mpr houter, by decide, ?_, hfile, htext,
    hsame d' _ ht' (wellNamed_lookalikes.perm hperm) (sameKinds_of_perm wellNamed_lookalikes hperm)⟩
  · obtain ⟨⟨name, path⟩, hmem, hentry⟩ := htable.exists_entry hinner
    obtain rfl : name = "a/x.css" := Bytes.ofString_inj (hentry.name.trans (by decide))
    obtain rfl : path = "/p/styles/a/x.css" := hentry.path.trans (by decide +kernel)
    exact hmem
  · intro hmem
    obtain ⟨⟨content, hget⟩, -⟩ := (htable.listed _).mp hmem
    cases hget

end StyleTable

end StaticHost
