import Mathlib.Data.List.Basic
import Mathlib.Data.List.Induction
import Mathlib.Tactic.Common
import StaticHost.Files.Path

/-!
The parts of paths: what joining and taking the parent make of them.

Joining puts the parts of two paths one after another. Single dots lead nowhere, so what counts of
a path is its other parts; taking the parent removes the last of those, and what is left is a
prefix of the path.
-/

namespace StaticHost.Files.Path

/-! ### Pieces -/

@[simp] lemma pieces_slash_cons (p : Path) : pieces (slash :: p) = [] :: pieces p := by
  rw [pieces, if_pos rfl]

lemma pieces_ne_nil (p : Path) : pieces p ≠ [] := by
  cases p with
  | nil => simp [pieces]
  | cons b p =>
    rw [pieces]
    split_ifs
    · simp
    · split <;> simp

lemma pieces_cons {b : UInt8} (hb : b ≠ slash) (p : Path) :
    pieces (b :: p) = (b :: (pieces p).head (pieces_ne_nil p)) :: (pieces p).tail := by
  rw [pieces, if_neg hb]
  split
  next h => exact absurd h (pieces_ne_nil p)
  next piece more h => simp [h]

/-- **A slash divides** the pieces of a path. -/
lemma pieces_append_slash (p q : Path) : pieces (p ++ slash :: q) = pieces p ++ pieces q := by
  induction p with
  | nil => simp [pieces]
  | cons b p ih =>
    by_cases hb : b = slash
    · subst hb
      simp [ih]
    · obtain ⟨piece, more, hp⟩ := List.exists_cons_of_ne_nil (pieces_ne_nil p)
      simp [pieces_cons hb, ih, hp]

lemma slash_not_mem_pieces {p : Path} {piece : Bytes} (h : piece ∈ pieces p) : slash ∉ piece := by
  induction p generalizing piece with
  | nil => simp_all [pieces]
  | cons b p ih =>
    by_cases hb : b = slash
    · subst hb
      rcases List.mem_cons.mp (pieces_slash_cons p ▸ h) with rfl | h
      · simp
      · exact ih h
    · rw [pieces_cons hb] at h
      rcases List.mem_cons.mp h with rfl | h
      · simpa [Ne.symm hb] using ih (List.head_mem (pieces_ne_nil p))
      · exact ih (List.mem_of_mem_tail h)

lemma pieces_of_slash_not_mem {p : Path} (h : slash ∉ p) : pieces p = [p] := by
  induction p with
  | nil => rfl
  | cons b p ih =>
    rw [List.mem_cons, not_or] at h
    simp [pieces_cons (Ne.symm h.1), ih h.2]

lemma glue_cons {piece : Bytes} {more : List Bytes} (h : more ≠ []) :
    glue (piece :: more) = piece ++ slash :: glue more := by
  rw [glue]
  exact h

@[simp] lemma glue_pieces (p : Path) : glue (pieces p) = p := by
  induction p with
  | nil => rfl
  | cons b p ih =>
    by_cases hb : b = slash
    · subst hb
      rw [pieces_slash_cons, glue_cons (pieces_ne_nil p), ih]
      rfl
    · obtain ⟨piece, more, hp⟩ := List.exists_cons_of_ne_nil (pieces_ne_nil p)
      simp only [pieces_cons hb, hp, List.head_cons, List.tail_cons]
      rw [hp] at ih
      cases more with
      | nil => simpa [glue] using ih
      | cons next more =>
        rw [glue_cons (by simp)] at ih ⊢
        rw [List.cons_append, ih]

lemma pieces_glue {l : List Bytes} (hl : l ≠ []) (h : ∀ piece ∈ l, slash ∉ piece) :
    pieces (glue l) = l := by
  induction l with
  | nil => exact absurd rfl hl
  | cons piece more ih =>
    have hpiece := pieces_of_slash_not_mem (h piece (by simp))
    by_cases hmore : more = []
    · subst hmore
      simpa [glue] using hpiece
    · rw [glue_cons hmore, pieces_append_slash, hpiece,
        ih hmore fun x hx => h x (List.mem_cons_of_mem _ hx), List.singleton_append]

lemma glue_mono {l m : List Bytes} (h : l <+: m) : glue l <+: glue m := by
  induction l generalizing m with
  | nil => exact List.nil_prefix
  | cons piece l ih =>
    obtain ⟨rest, rfl⟩ := h
    by_cases hl : l = []
    · subst hl
      by_cases hrest : rest = []
      · simp [hrest]
      · rw [List.singleton_append, glue_cons hrest]
        exact List.prefix_append _ _
    · rw [List.cons_append, glue_cons hl, glue_cons (by simp [hl])]
      exact (List.prefix_append_right_inj _).mpr
        ((List.cons_prefix_cons).mpr ⟨rfl, ih (List.prefix_append _ _)⟩)

/-! ### Components -/

@[simp] lemma components_nil : components [] = [] := rfl

lemma components_append_slash (p q : Path) :
    components (p ++ slash :: q) = components p ++ components q := by
  rw [components, pieces_append_slash, List.filter_append, components, components]

/-- **The parts of a joined path** are the parts of both. -/
lemma components_join {base p : Path} (hp : p.isAbsolute = false) :
    (base.join p).components = base.components ++ p.components := by
  unfold join
  rw [hp, if_neg (by simp)]
  split_ifs with hbase
  · rcases hbase with rfl | hlast
    · rfl
    · obtain ⟨init, rfl⟩ := List.getLast?_eq_some_iff.mp hlast
      rw [List.append_assoc, List.singleton_append, components_append_slash,
        components_append_slash]
      simp
  · exact components_append_slash base p

lemma components_name {name : Name} (hs : slash ∉ name) (hne : name ≠ []) :
    components name = [name] := by
  simp [components, pieces_of_slash_not_mem hs, hne]

lemma isAbsolute_of_slash_not_mem {name : Name} (hs : slash ∉ name) : isAbsolute name = false := by
  cases name with
  | nil => rfl
  | cons b name =>
    rw [List.mem_cons, not_or] at hs
    simpa [isAbsolute] using Ne.symm hs.1

/-- Joining names one after another puts a slash before each of them. -/
lemma foldl_join {base : Path} {names : List Name} (hbase : base ≠ [])
    (hlast : base.getLast? ≠ some slash) (hne : names ≠ [])
    (h : ∀ name ∈ names, slash ∉ name ∧ name ≠ []) :
    names.foldl join base = base ++ slash :: glue names := by
  induction names generalizing base with
  | nil => exact absurd rfl hne
  | cons name rest ih =>
    obtain ⟨⟨hs, hname⟩, hrest⟩ := List.forall_mem_cons.mp h
    have hjoin : base.join name = base ++ slash :: name := by
      rw [join, isAbsolute_of_slash_not_mem hs, if_neg (by simp), if_neg (by simp [hbase, hlast])]
    rw [List.foldl_cons, hjoin]
    by_cases hmore : rest = []
    · subst hmore
      rfl
    · have hend : (base ++ slash :: name).getLast? ≠ some slash := by
        rw [List.getLast?_append_of_ne_nil _ (List.cons_ne_nil _ _),
          List.getLast?_cons_of_ne_nil hname]
        exact fun hlast => hs (List.mem_of_getLast? hlast)
      rw [ih (by simp) hend hmore hrest, glue_cons hmore, List.append_assoc, List.cons_append]

lemma isAbsolute_join {base : Path} {name : Name} (hs : slash ∉ name) :
    (base.join name).isAbsolute = base.isAbsolute := by
  have hrel := isAbsolute_of_slash_not_mem hs
  unfold join
  rw [hrel, if_neg (by simp)]
  cases base with
  | nil => exact hrel
  | cons b base => split_ifs <;> rfl

/-- The last part of a joined path is the name that was joined. -/
lemma getLast?_components_join {base : Path} {name : Name} (hs : slash ∉ name) (hne : name ≠ []) :
    (base.join name).components.getLast? = some name := by
  rw [components_join (isAbsolute_of_slash_not_mem hs), components_name hs hne,
    List.getLast?_concat]

/-! ### Parents -/

/-- The parts of a path but for single dots. -/
def solid (p : Path) : List Name :=
  p.components.filter (· ≠ dot)

lemma solid_eq (p : Path) : p.solid = (pieces p).filter (! isIdle ·) := by
  rw [solid, components, List.filter_filter]
  refine List.filter_congr fun piece _ => ?_
  by_cases h : piece = dot <;> simp [isIdle, h]

/-- Idle pieces at the end do not count. -/
lemma filter_trimIdle (l : List Bytes) :
    (trimIdle l).filter (! isIdle ·) = l.filter (! isIdle ·) := by
  induction l using List.reverseRecOn with
  | nil => rfl
  | append_singleton l piece ih =>
    unfold trimIdle at ih ⊢
    rw [List.reverse_append, List.reverse_singleton, List.singleton_append, List.dropWhile_cons]
    cases h : isIdle piece <;> simp [h, ih]

lemma trimIdle_isPrefix (l : List Bytes) : trimIdle l <+: l := by
  obtain ⟨idle, h⟩ := List.dropWhile_suffix (l := l.reverse) isIdle
  refine ⟨idle.reverse, ?_⟩
  rw [trimIdle, ← List.reverse_append, h, List.reverse_reverse]

lemma getLast?_trimIdle {l : List Bytes} {last : Bytes} (h : (trimIdle l).getLast? = some last) :
    isIdle last = false := by
  rw [trimIdle, List.getLast?_reverse] at h
  have := List.head?_dropWhile_not isIdle l.reverse
  simpa [h] using this

lemma trimIdle_eq_nil_iff {l : List Bytes} : trimIdle l = [] ↔ l.filter (! isIdle ·) = [] := by
  constructor
  · intro h
    rw [← filter_trimIdle, h, List.filter_nil]
  · intro h
    by_contra hne
    have hlast := getLast?_trimIdle (List.getLast?_eq_some_getLast hne)
    have hmem : (trimIdle l).getLast hne ∈ (trimIdle l).filter (! isIdle ·) := by
      simp [hlast]
    rw [filter_trimIdle, h] at hmem
    cases hmem

/-- The rest of a path starts behind a slash where its anchor is a dot. -/
def Fits (start : Bytes) (rest : Path) : Prop :=
  start = [slash] ∨ start = dot ∧ (pieces rest).head? = some [] ∨
    start = [] ∧ isAbsolute rest = false

lemma exists_fits (p : Path) : ∃ rest, p = anchor p ++ rest ∧ Fits (anchor p) rest := by
  unfold anchor Fits
  split_ifs with habs hdot
  · cases p with
    | nil => simp [isAbsolute] at habs
    | cons b p =>
      obtain rfl : b = slash := by simpa [isAbsolute] using habs
      exact ⟨p, rfl, .inl rfl⟩
  · cases p with
    | nil => simp [pieces, dot] at hdot
    | cons b p =>
      have hb : b ≠ slash := by simpa [isAbsolute] using habs
      rw [pieces_cons hb, List.head?_cons, Option.some_inj, dot, List.cons.injEq] at hdot
      obtain ⟨rfl, hhead⟩ := hdot
      exact ⟨p, rfl, .inr (.inl ⟨rfl, by rw [← hhead, List.head?_eq_some_head]⟩)⟩
  · exact ⟨p, rfl, .inr (.inr ⟨rfl, by simpa using habs⟩)⟩

lemma components_append_of_fits {start : Bytes} {rest : Path} (h : Fits start rest) :
    components (start ++ rest) = (if start = dot then [dot] else []) ++ components rest := by
  unfold components
  rcases h with rfl | ⟨rfl, hrest⟩ | ⟨rfl, -⟩
  · rw [List.singleton_append, pieces_slash_cons, if_neg (by decide)]
    rfl
  · obtain ⟨more, hmore⟩ := List.head?_eq_some_iff.mp hrest
    rw [dot, List.singleton_append, pieces_cons (by decide)]
    simp [hmore]
  · rfl

lemma isAbsolute_append_of_fits {start : Bytes} {rest : Path} (h : Fits start rest) :
    isAbsolute (start ++ rest) = decide (start = [slash]) := by
  rcases h with rfl | ⟨rfl, -⟩ | ⟨rfl, hrest⟩
  · rfl
  · rfl
  · simpa using hrest

lemma solid_append_of_fits {start : Bytes} {rest : Path} (h : Fits start rest) :
    solid (start ++ rest) = solid rest := by
  rw [solid, components_append_of_fits h, List.filter_append, solid]
  split_ifs <;> simp

section FirstPieces

variable {start : Bytes} {rest : Path} {l : List Bytes}

lemma pieces_glue_of_isPrefix (hl : l <+: pieces rest) (hne : l ≠ []) : pieces (glue l) = l :=
  pieces_glue hne fun _ hpiece => slash_not_mem_pieces (hl.subset hpiece)

lemma fits_glue (h : Fits start rest) (hl : l <+: pieces rest) : Fits start (glue l) := by
  rcases h with rfl | ⟨rfl, hrest⟩ | ⟨rfl, hrest⟩
  · exact .inl rfl
  · refine .inr (.inl ⟨rfl, ?_⟩)
    by_cases hne : l = []
    · subst hne
      rfl
    · rw [pieces_glue_of_isPrefix hl hne]
      obtain ⟨more, hmore⟩ := hl
      rwa [← hmore, List.head?_append_of_ne_nil _ hne] at hrest
  · refine .inr (.inr ⟨rfl, ?_⟩)
    have hpre := glue_mono hl
    rw [glue_pieces] at hpre
    by_cases hne : glue l = []
    · rw [hne]
      rfl
    · obtain ⟨more, rfl⟩ := hpre
      rwa [isAbsolute, List.head?_append_of_ne_nil _ hne] at hrest

lemma components_glue (hl : l <+: pieces rest) :
    components (glue l) = l.filter (! ·.isEmpty) := by
  by_cases hne : l = []
  · subst hne
    rfl
  · rw [components, pieces_glue_of_isPrefix hl hne]

lemma solid_glue (hl : l <+: pieces rest) : (glue l).solid = l.filter (! isIdle ·) := by
  by_cases hne : l = []
  · subst hne
    rfl
  · rw [solid_eq, pieces_glue_of_isPrefix hl hne]

end FirstPieces

/-- The path does not end in a single dot, unless there is nothing else in it. -/
def Tidy (p : Path) : Prop := p.components.getLast? = some dot → p.solid = []

lemma tidy_of_trimIdle {start : Bytes} {rest : Path} {l : List Bytes} (h : Fits start rest)
    (hl : trimIdle l <+: pieces rest) : Tidy (start ++ glue (trimIdle l)) := by
  intro hdot
  have hfits := fits_glue h hl
  rw [solid_append_of_fits hfits, solid_glue hl]
  by_cases hne : trimIdle l = []
  · rw [hne, List.filter_nil]
  · -- the last piece is a part, and no dot
    obtain ⟨init, last, hlast⟩ := List.eq_nil_or_concat _ |>.resolve_left hne
    rw [List.concat_eq_append] at hlast
    have hidle : isIdle last = false := getLast?_trimIdle (by rw [hlast, List.getLast?_concat])
    rw [isIdle, Bool.or_eq_false_iff] at hidle
    rw [components_append_of_fits hfits, components_glue hl, hlast, List.filter_append] at hdot
    simp [hidle.1] at hdot
    simp [hdot] at hidle

structure IsParent (q p : Path) : Prop where
  isPrefix : q <+: p
  ne : q ≠ p
  isAbsolute_eq : q.isAbsolute = p.isAbsolute
  solid_eq : q.solid = p.solid.dropLast
  tidy : q.Tidy

/-- Leaving out the last part that counts, and what is idle before it. -/
lemma filter_dropLast_trimIdle (l : List Bytes) :
    (trimIdle (trimIdle l).dropLast).filter (! isIdle ·) =
      (l.filter (! isIdle ·)).dropLast := by
  rw [filter_trimIdle, ← filter_trimIdle l]
  rcases List.eq_nil_or_concat (trimIdle l) with h | ⟨init, last, h⟩
  · rw [h]
    rfl
  · rw [List.concat_eq_append] at h
    have hlast : isIdle last = false := getLast?_trimIdle (by rw [h, List.getLast?_concat])
    simp [h, hlast]

/-- The parent, said of the start of a path and its rest. -/
lemma exists_parent_eq (p : Path) : ∃ start rest, p = start ++ rest ∧ Fits start rest ∧
    parent p =
      if trimIdle (pieces rest) = [] then if start = dot then some [] else none
      else some (start ++ glue (trimIdle (trimIdle (pieces rest)).dropLast)) := by
  obtain ⟨rest, hp, hfits⟩ := exists_fits p
  have hdrop : p.drop (anchor p).length = rest := by
    conv_lhs => rw [congrArg (List.drop _) hp]
    exact List.drop_left
  refine ⟨_, rest, hp, hfits, ?_⟩
  unfold parent
  simp only [hdrop]

/-- **The parent** is a prefix of the path, and has all but the last of its parts. -/
lemma isParent_of_parent {p q : Path} (h : parent p = some q) : IsParent q p := by
  obtain ⟨start, rest, rfl, hfits, heq⟩ := exists_parent_eq p
  have hsolid : solid (start ++ rest) = (pieces rest).filter (! isIdle ·) := by
    rw [solid_append_of_fits hfits, solid_eq]
  rw [heq] at h
  split_ifs at h with hbody hstart
  · -- nothing but a dot at the start
    cases h
    rw [trimIdle_eq_nil_iff, ← hsolid] at hbody
    refine ⟨List.nil_prefix, by simp [hstart, dot], ?_, by rw [hbody]; rfl, fun _ => rfl⟩
    rw [isAbsolute_append_of_fits hfits, hstart]
    rfl
  · cases h
    have hl := ((trimIdle_isPrefix _).trans (List.dropLast_prefix _)).trans
      (trimIdle_isPrefix (pieces rest))
    have hfits' := fits_glue hfits hl
    have hsolid' : solid (start ++ glue (trimIdle (trimIdle (pieces rest)).dropLast)) =
        (solid (start ++ rest)).dropLast := by
      rw [solid_append_of_fits hfits', solid_glue hl, filter_dropLast_trimIdle, hsolid]
    refine ⟨?_, ?_, ?_, hsolid', tidy_of_trimIdle hfits hl⟩
    · have hpre := glue_mono hl
      rw [glue_pieces] at hpre
      exact (List.prefix_append_right_inj _).mpr hpre
    · intro hself
      rw [trimIdle_eq_nil_iff, ← hsolid] at hbody
      rw [hself] at hsolid'
      have hlen := congrArg List.length hsolid'
      have hpos := List.length_pos_iff.mpr hbody
      rw [List.length_dropLast] at hlen
      omega
    · rw [isAbsolute_append_of_fits hfits, isAbsolute_append_of_fits hfits']

/-- A path without a parent has only dots. -/
lemma solid_of_parent_none {p : Path} (h : parent p = none) : p.solid = [] := by
  obtain ⟨start, rest, rfl, hfits, heq⟩ := exists_parent_eq p
  rw [heq] at h
  split_ifs at h with hbody hstart
  rwa [solid_append_of_fits hfits, solid_eq, ← trimIdle_eq_nil_iff]

lemma IsParent.length_lt {p q : Path} (h : IsParent q p) : q.length < p.length := by
  have hle := h.isPrefix.length_le
  have hne : q.length ≠ p.length := fun hlen => h.ne (h.isPrefix.eq_of_length hlen)
  omega

/-- What counts of a path in a directory. -/
lemma solid_join {base : Path} {name : Name} (hs : slash ∉ name) (hidle : isIdle name = false) :
    (base.join name).solid = base.solid ++ [name] := by
  rw [isIdle, Bool.or_eq_false_iff, List.isEmpty_eq_false_iff, beq_eq_false_iff_ne] at hidle
  rw [solid, components_join (isAbsolute_of_slash_not_mem hs), components_name hs hidle.1,
    List.filter_append, List.filter_cons_of_pos (by simpa using hidle.2), List.filter_nil, solid]

/-- A path in a directory is what leads there, and the name. -/
lemma exists_join_eq (base : Path) {name : Name} (hs : slash ∉ name) :
    ∃ front, base.join name = front ++ name ∧ (front = [] ∨ front.getLast? = some slash) ∧
      (front = base ∨ base ≠ [] ∧ front = base ++ [slash]) := by
  unfold join
  rw [isAbsolute_of_slash_not_mem hs, if_neg (by simp)]
  split_ifs with h
  · exact ⟨base, rfl, h, .inl rfl⟩
  · exact ⟨base ++ [slash], by simp, .inr (by simp), .inr ⟨fun h' => h (.inl h'), rfl⟩⟩

/-- The start of a path is one byte at most: a slash, or a dot with nothing before a slash. -/
lemma Fits.eq_nil_of_append {start front rest : Bytes} {b : UInt8} (hfits : Fits start rest)
    (h : start = front ++ [b]) :
    front = [] ∧ (b = slash ∨ [b] = dot ∧ (pieces rest).head? = some []) := by
  rcases hfits with rfl | ⟨rfl, hrest⟩ | ⟨rfl, -⟩
  · obtain ⟨hfront, hb⟩ := List.append_inj' (show [] ++ [slash] = front ++ [b] from h) rfl
    exact ⟨hfront.symm, .inl (by simpa using hb.symm)⟩
  · obtain ⟨hfront, hb⟩ := List.append_inj' (show [] ++ dot = front ++ [b] from h) rfl
    exact ⟨hfront.symm, .inr ⟨hb.symm, hrest⟩⟩
  · simp at h

/-- A name takes no part in the start of the path that it ends. -/
lemma exists_append_of_fits {start front rest : Bytes} {name : Name} (hfits : Fits start rest)
    (hs : slash ∉ name) (hidle : isIdle name = false) (h : front ++ name = start ++ rest) :
    ∃ mid, front = start ++ mid ∧ rest = mid ++ name := by
  rcases List.append_eq_append_iff.mp h with ⟨extra, hstart, hname⟩ | h
  · rcases List.eq_nil_or_concat extra with rfl | ⟨o, b, rfl⟩
    · exact ⟨[], by simpa using hstart.symm, by simpa using hname.symm⟩
    · rw [List.concat_eq_append] at hstart hname
      rw [← List.append_assoc] at hstart
      rcases hfits.eq_nil_of_append hstart with ⟨ho, rfl | ⟨hb, hrest⟩⟩
      · exact absurd (by simp [hname]) hs
      · -- then the name is the dot that the path starts with
        have hs' : slash ∉ rest := fun hmem => hs (by simp [hname, hmem])
        rw [pieces_of_slash_not_mem hs', List.head?_cons, Option.some_inj] at hrest
        rw [List.append_eq_nil_iff] at ho
        rw [hname, hb, ho.2, hrest] at hidle
        simp [isIdle] at hidle
  · exact h

/-- **The parent of a path in a directory** leads no further than the directory's own path. -/
lemma isPrefix_of_parent_join {base q : Path} {name : Name} (hs : slash ∉ name)
    (hidle : isIdle name = false) (h : parent (base.join name) = some q) : q <+: base := by
  obtain ⟨front, hjoin, hfront, hbase⟩ := exists_join_eq base hs
  obtain ⟨start, rest, hp, hfits, heq⟩ := exists_parent_eq (base.join name)
  obtain ⟨mid, rfl, rfl⟩ := exists_append_of_fits hfits hs hidle (hjoin.symm.trans hp)
  -- what is between the start and the name ends in a slash, if there is anything
  obtain ⟨l, hl, hpre⟩ : ∃ l, pieces (mid ++ name) = l ++ [name] ∧ start ++ glue l <+: base := by
    rcases List.eq_nil_or_concat mid with rfl | ⟨m, b, rfl⟩
    · refine ⟨[], by simpa using pieces_of_slash_not_mem hs, ?_⟩
      rw [List.append_nil] at hbase
      rw [glue, List.append_nil]
      rcases hbase with rfl | ⟨hne, hslash⟩
      · exact List.prefix_rfl
      · exact absurd (hfits.eq_nil_of_append hslash).1 hne
    · rw [List.concat_eq_append] at hfront hbase ⊢
      obtain rfl : b = slash := by simpa using hfront
      refine ⟨pieces m, ?_, ?_⟩
      · rw [List.append_assoc, List.singleton_append, pieces_append_slash,
          pieces_of_slash_not_mem hs]
      · rw [glue_pieces]
        rw [← List.append_assoc] at hbase
        rcases hbase with hbase | ⟨-, hbase⟩
        · exact ⟨_, hbase⟩
        · exact ⟨[], by rw [List.append_nil, List.append_cancel_right hbase]⟩
  have htrim : trimIdle (l ++ [name]) = l ++ [name] := by
    simp [trimIdle, hidle]
  rw [heq, hl, htrim, if_neg (by simp), List.dropLast_concat, Option.some_inj] at h
  rw [← h]
  exact ((List.prefix_append_right_inj _).mpr (glue_mono (trimIdle_isPrefix l))).trans hpre

/-! ### Ancestors -/

lemma ancestorsIn_congr {n m : Nat} {p : Path} (hn : p.length < n) (hm : p.length < m) :
    ancestorsIn n p = ancestorsIn m p := by
  induction n generalizing m p with
  | zero => omega
  | succ n ih =>
    obtain ⟨m, rfl⟩ : ∃ k, m = k + 1 := ⟨m - 1, by omega⟩
    simp only [ancestorsIn]
    cases hq : parent p with
    | none => rfl
    | some q =>
      have hlt := (isParent_of_parent hq).length_lt
      have hrest : ancestorsIn n q = ancestorsIn m q := ih (by omega) (by omega)
      simp only [hrest]

/-- The paths above a path are its parent and the paths above that. -/
lemma ancestors_of_parent {p q : Path} (h : parent p = some q) (hp : p ≠ []) :
    ancestors p = p :: ancestors q := by
  have hlt := (isParent_of_parent h).length_lt
  have hrest : ancestorsIn p.length q = ancestorsIn (q.length + 1) q :=
    ancestorsIn_congr hlt (by omega)
  simp only [ancestors, ancestorsIn, if_neg hp, h, hrest]

lemma ancestors_of_parent_none {p : Path} (h : parent p = none) (hp : p ≠ []) :
    ancestors p = [p] := by
  rw [ancestors, ancestorsIn, if_neg hp, h]

end StaticHost.Files.Path
