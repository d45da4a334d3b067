import Mathlib.Data.List.DropRight
import Mathlib.Data.List.Induction
import Mathlib.Tactic.Common
import StaticHost.Settings
import StaticHost.Stylesheet

/-!
Links to stylesheets, and what they tell of the base path.

A base path is a stem and slashes behind it, in one way if the stem does not end in a slash, and a
link keeps nothing of it but the stem. So base paths with the same stem have the same links. They
are the only ones, even for different stylesheets if their names hold no slash: the last slash of a
link is then the one that was put between the stem and the name.
-/

namespace StaticHost

/-! ### Trimming -/

/-- The longest beginning of a text that does not end in a slash. -/
structure IsStem (stem base : List Char) : Prop where
  isPrefix : stem <+: base
  open_end : stem.getLast? ≠ some '/'
  longest : ∀ p, p <+: base → p.getLast? ≠ some '/' → p.length ≤ stem.length

/-- Base paths that are the same up to the number of slashes at the end. -/
def SameButSlashes (base base' : String) : Prop :=
  ∃ (stem : List Char) (m n : Nat),
    base.toList = stem ++ List.replicate m '/' ∧ base'.toList = stem ++ List.replicate n '/'

lemma trimSlashes_eq (base : List Char) : trimSlashes base = base.rdropWhile (· == '/') := rfl

/-- Trimming goes on at a slash and stops at anything else. -/
lemma trimSlashes_concat (base : List Char) (c : Char) :
    trimSlashes (base ++ [c]) = if c = '/' then trimSlashes base else base ++ [c] := by
  simp only [trimSlashes_eq, List.rdropWhile_concat, beq_iff_eq]

lemma trimSlashes_eq_nil_iff {base : List Char} :
    trimSlashes base = [] ↔ ∀ c ∈ base, c = '/' := by
  simp only [trimSlashes_eq, List.rdropWhile_eq_nil_iff, beq_iff_eq]

/-- A base path is what is left of it, and slashes. -/
lemma trimSlashes_spec (base : List Char) :
    (∃ n, base = trimSlashes base ++ List.replicate n '/') ∧
      (trimSlashes base).getLast? ≠ some '/' := by
  induction base using List.reverseRecOn with
  | nil => exact ⟨⟨0, rfl⟩, by simp [trimSlashes]⟩
  | append_singleton base c ih =>
    rw [trimSlashes_concat]
    split_ifs with hc
    · obtain ⟨⟨n, hn⟩, hlast⟩ := ih
      refine ⟨⟨n + 1, ?_⟩, hlast⟩
      rw [hc, List.replicate_succ', ← List.append_assoc, ← hn]
    · exact ⟨⟨0, (List.append_nil _).symm⟩, by simpa using hc⟩

lemma trimSlashes_append_slashes (base : List Char) (n : Nat) :
    trimSlashes (base ++ List.replicate n '/') = trimSlashes base := by
  induction n with
  | zero => rw [List.replicate_zero, List.append_nil]
  | succ n ih =>
    rw [List.replicate_succ', ← List.append_assoc, trimSlashes_concat, if_pos rfl, ih]

lemma trimSlashes_of_open_end {p : List Char} (hp : p.getLast? ≠ some '/') : trimSlashes p = p := by
  rw [trimSlashes_eq, List.rdropWhile_eq_self_iff]
  intro hne hlast
  rw [List.getLast?_eq_some_getLast hne, beq_iff_eq.mp hlast] at hp
  exact hp rfl

/-- Whatever stands behind a text that does not end in a slash, trimming stops there at the
latest. -/
lemma isPrefix_trimSlashes {p : List Char} (hp : p.getLast? ≠ some '/') (rest : List Char) :
    p <+: trimSlashes (p ++ rest) := by
  induction rest using List.reverseRecOn with
  | nil => exact ⟨[], by rw [List.append_nil, trimSlashes_of_open_end hp]⟩
  | append_singleton rest c ih =>
    rw [← List.append_assoc, trimSlashes_concat]
    split_ifs
    · exact ih
    · exact ⟨rest ++ [c], (List.append_assoc p rest [c]).symm⟩

/-- **What trimming leaves** is the stem of a base path. -/
lemma isStem_trimSlashes (base : List Char) : IsStem (trimSlashes base) base where
  isPrefix := List.rdropWhile_prefix _ _
  open_end := (trimSlashes_spec base).2
  longest := by
    rintro p ⟨rest, rfl⟩ hp
    exact (isPrefix_trimSlashes hp rest).length_le

/-- **Trimming forgets** the number of slashes, and nothing else. -/
lemma trimSlashes_eq_iff {base base' : String} :
    trimSlashes base.toList = trimSlashes base'.toList ↔ SameButSlashes base base' := by
  constructor
  · intro h
    obtain ⟨m, hm⟩ := (trimSlashes_spec base.toList).1
    obtain ⟨n, hn⟩ := (trimSlashes_spec base'.toList).1
    exact ⟨trimSlashes base.toList, m, n, hm, h ▸ hn⟩
  · rintro ⟨stem, m, n, hm, hn⟩
    rw [hm, hn, trimSlashes_append_slashes, trimSlashes_append_slashes]

/-! ### Links -/

/-- A name without a slash is what a text holds behind its last slash. -/
lemma rtakeWhile_append_slash {name : List Char} (hname : '/' ∉ name) (p : List Char) :
    (p ++ '/' :: name).rtakeWhile (· != '/') = name := by
  have hpass : ∀ c ∈ name.reverse, (c != '/') = true := by
    intro c hc
    exact bne_iff_ne.mpr fun hslash => hname (hslash ▸ List.mem_reverse.mp hc)
  rw [List.rtakeWhile, List.reverse_append, List.reverse_cons, List.append_assoc,
    List.takeWhile_append_of_pos hpass]
  simp

lemma append_slash_inj {p p' name name' : List Char} (hname : '/' ∉ name) (hname' : '/' ∉ name')
    (h : p ++ '/' :: name = p' ++ '/' :: name') : p = p' ∧ name = name' := by
  obtain rfl : name = name' := by
    rw [← rtakeWhile_append_slash hname p, h, rtakeWhile_append_slash hname' p']
  exact ⟨List.append_cancel_right h, rfl⟩

/-- A base path that is accepted starts with a slash. -/
lemma Settings.head?_basePath {s : Settings} (h : s.validate = .ok ()) :
    s.basePath.toList.head? = some '/' := by
  by_contra hbase
  rw [validate, if_neg hbase] at h
  cases h

namespace Stylesheet

lemma toList_href (sheet : Stylesheet) (base : String) :
    (sheet.href base).toList = trimSlashes base.toList ++ '/' :: sheet.name.toList :=
  String.toList_ofList

lemma href_eq_href_iff (sheet sheet' : Stylesheet) (base base' : String) :
    sheet.href base = sheet'.href base' ↔
      trimSlashes base.toList ++ '/' :: sheet.name.toList =
        trimSlashes base'.toList ++ '/' :: sheet'.name.toList := by
  rw [← String.toList_inj, toList_href, toList_href]

/-- A base path that starts with a slash has links that do. -/
lemma head?_href (sheet : Stylesheet) {base : String} (h : base.toList.head? = some '/') :
    (sheet.href base).toList.head? = some '/' := by
  obtain ⟨n, hbase⟩ := (trimSlashes_spec base.toList).1
  rw [toList_href]
  cases hstem : trimSlashes base.toList with
  | nil => rfl
  | cons c stem =>
    rw [hbase, hstem] at h
    exact h

/-- **A link to a stylesheet** is the stem of the base path, a slash and the name of the stylesheet.
It tells the base path up to the slashes at its end, and also the name if this holds no slash; and
all links start with a slash below a base path that is accepted. -/
theorem href_stem (base base' : String) (sheet sheet' : Stylesheet) :
    (∃ stem, IsStem stem base.toList ∧ (stem = [] ↔ ∀ c ∈ base.toList, c = '/') ∧
      (sheet.href base).toList = stem ++ '/' :: sheet.name.toList) ∧
    (sheet.href base = sheet.href base' ↔ SameButSlashes base base') ∧
    (∀ s : Settings, s.validate = .ok () →
      ∀ link ∈ hrefs s.basePath, link.toList.head? = some '/') ∧
    ('/' ∉ sheet.name.toList → '/' ∉ sheet'.name.toList →
      (sheet.href base = sheet'.href base' ↔
        sheet.name = sheet'.name ∧ SameButSlashes base base')) := by
  have hsame : sheet.href base = sheet.href base' ↔ SameButSlashes base base' := by
    rw [href_eq_href_iff, List.append_left_inj, trimSlashes_eq_iff]
  refine ⟨?_, hsame, ?_, fun hname hname' => ⟨fun h => ?_, ?_⟩⟩
  · exact ⟨trimSlashes base.toList, isStem_trimSlashes _, trimSlashes_eq_nil_iff,
      sheet.toList_href base⟩
  · intro s hs link hlink
    obtain ⟨sheet, -, rfl⟩ := List.mem_map.mp hlink
    exact sheet.head?_href (Settings.head?_basePath hs)
  · obtain ⟨hstem, hnames⟩ := append_slash_inj hname hname' ((href_eq_href_iff ..).mp h)
    exact ⟨String.toList_inj.mp hnames, trimSlashes_eq_iff.mp hstem⟩
  · rintro ⟨hnames, hbases⟩
    rw [href_eq_href_iff, ← hnames, trimSlashes_eq_iff.mpr hbases]

/-- A base path with slashes inside and at its end, and two stylesheets below it. -/
theorem href_stem_inner_slashes :
    let s : Settings := { basePath := "/docs//v2//" }
    let print : Stylesheet := ⟨"print.css", ""⟩
    s.validate = .ok () ∧ '/' ∉ globals.name.toList ∧ '/' ∉ print.name.toList ∧
      (∀ link ∈ hrefs s.basePath, link.toList.head? = some '/') ∧
      globals.href s.basePath = globals.href "/docs//v2" ∧
      globals.href s.basePath ≠ print.href "/docs//v2" := by
  intro s print
  have hvalid : s.validate = .ok () := if_pos (by decide)
  have hglobals : '/' ∉ globals.name.toList := by decide
  have hprint : '/' ∉ print.name.toList := by decide
  obtain ⟨-, hsame, hhead, hnames⟩ := href_stem s.basePath "/docs//v2" globals print
  refine ⟨hvalid, hglobals, hprint, hhead s hvalid, ?_, fun h => ?_⟩
  · exact hsame.mpr ⟨"/docs//v2".toList, 2, 0, by decide, by decide⟩
  · exact absurd ((hnames hglobals hprint).mp h).1 (by decide)

-- A slash in a name can as well be one of the base path.
example : href ⟨"v2/print.css", ""⟩ "/docs" = href ⟨"print.css", ""⟩ "/docs/v2" := by decide

end Stylesheet

end StaticHost
