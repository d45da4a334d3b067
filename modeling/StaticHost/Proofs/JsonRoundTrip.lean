import Mathlib.Tactic.Common
import StaticHost.Json.Compound
import StaticHost.Json.Printer

/-!
What the printers write, the readers read back.

A reader is tied to a text by `Reads`: it takes the text off the front of whatever follows, also
behind white space. A printer writes a different text at every level, and `ReadsBack` asks for
`Reads` at each of them. String literals, booleans, lists and records read back in this sense; a
record does if its members fill a draft one by one, from the blank one to a finished one.
-/

namespace StaticHost.Json

/-! ### String literals -/

lemma hexDigit?_digitChar {n : Nat} (h : n < 16) : hexDigit? (Nat.digitChar n) = some n := by
  revert n
  decide

lemma scanText_control {c : Char} (h : c.toNat < 0x20) (rest : List Char) (offset : Nat) :
    scanText ('\\' :: 'u' :: '0' :: '0' :: Nat.digitChar (c.toNat / 16)
        :: Nat.digitChar (c.toNat % 16) :: rest) offset =
      (scanText rest (offset + 6)).map fun (text, k) => (c :: text, k) := by
  have h0 : hexDigit? '0' = some 0 := by decide
  have hq : hexQuad? '0' '0' (Nat.digitChar (c.toNat / 16)) (Nat.digitChar (c.toNat % 16)) =
      some c.toNat := by
    simp only [hexQuad?, h0, hexDigit?_digitChar (show c.toNat / 16 < 16 by omega),
      hexDigit?_digitChar (show c.toNat % 16 < 16 by omega)]
    congr 1
    omega
  have ht : isTrailingSurrogate c.toNat = false := by
    simp [isTrailingSurrogate]; omega
  have hl : isLeadingSurrogate c.toNat = false := by
    simp [isLeadingSurrogate]; omega
  rw [scanText]
  simp only [hq, ht, hl, Char.ofNat_toNat, Bool.false_eq_true, if_false]

lemma scanText_short {e c : Char} (hu : e ≠ 'u') (h : shortEscape? e = some c)
    (rest : List Char) (offset : Nat) :
    scanText ('\\' :: e :: rest) offset =
      (scanText rest (offset + 2)).map fun (text, k) => (c :: text, k) := by
  rw [scanText]
  · simp only [h]
  all_goals simp_all

lemma scanText_plain {c : Char} (hq : c ≠ '"') (hb : c ≠ '\\') (h : 0x20 ≤ c.toNat)
    (rest : List Char) (offset : Nat) :
    scanText (c :: rest) offset =
      (scanText rest (offset + c.utf8Size)).map fun (text, k) => (c :: text, k) := by
  rw [scanText]
  · rw [if_neg (by omega)]
  all_goals simp_all

/-- The written form of a character is read as that character. -/
lemma scanText_escape (c : Char) (rest : List Char) (offset : Nat) :
    ∃ offset', scanText (escape c ++ rest) offset =
      (scanText rest offset').map fun (text, k) => (c :: text, k) := by
  unfold escape
  split_ifs with h1 h2 h3 h4 h5 h6 h7 h8
  · exact ⟨_, scanText_short (by decide) (by rw [h1]; rfl) rest offset⟩
  · exact ⟨_, scanText_short (by decide) (by rw [h2]; rfl) rest offset⟩
  · exact ⟨_, scanText_short (by decide) (by rw [h3]; rfl) rest offset⟩
  · exact ⟨_, scanText_short (by decide) (by rw [h4]; rfl) rest offset⟩
  · exact ⟨_, scanText_short (by decide) (by rw [h5]; rfl) rest offset⟩
  · exact ⟨_, scanText_short (by decide) (by rw [h6]; rfl) rest offset⟩
  · exact ⟨_, scanText_short (by decide) (by rw [h7]; rfl) rest offset⟩
  · exact ⟨_, scanText_control h8 rest offset⟩
  · exact ⟨_, scanText_plain h1 h2 (by omega) rest offset⟩

/-- **A written literal is read back**, up to its closing quote. -/
theorem scanText_literal (text rest : List Char) (offset : Nat) :
    ∃ offset', scanText (text.flatMap escape ++ '"' :: rest) offset =
      .ok (text, ⟨rest, offset'⟩) := by
  induction text generalizing offset with
  | nil => exact ⟨offset + 1, by rw [List.flatMap_nil, List.nil_append, scanText]⟩
  | cons c text ih =>
    obtain ⟨o, ho⟩ := scanText_escape c (text.flatMap escape ++ '"' :: rest) offset
    obtain ⟨o', ho'⟩ := ih o
    refine ⟨o', ?_⟩
    rw [List.flatMap_cons, List.append_assoc, ho, ho']
    rfl

lemma literal_append (text rest : List Char) :
    literal text ++ rest = '"' :: (text.flatMap escape ++ '"' :: rest) := by
  simp [literal]

/-! ### Readers and the texts they take -/

variable {α β δ : Type}

def Blank (ws : List Char) : Prop := ∀ c ∈ ws, Cursor.isSpace c = true

lemma blank_nil : Blank [] := by simp [Blank]

lemma blank_space : Blank [' '] := by simp [Blank, Cursor.isSpace]

lemma blank_newline (level : Nat) : Blank (Printer.newline level) := by
  intro c hc
  rcases List.mem_cons.mp hc with rfl | hc
  · rfl
  · rw [List.eq_of_mem_replicate hc]
    rfl

lemma skipSpace_blank {ws : List Char} (hw : Blank ws) {x : Char} (hx : Cursor.isSpace x = false)
    (rest : List Char) (offset : Nat) :
    Cursor.skipSpace ⟨ws ++ x :: rest, offset⟩ = ⟨x :: rest, offset + ws.length⟩ := by
  have ht : (ws ++ x :: rest).takeWhile Cursor.isSpace = ws := by
    rw [List.takeWhile_append_of_pos hw, List.takeWhile_cons_of_neg (by simp [hx]),
      List.append_nil]
  have hd : (ws ++ x :: rest).dropWhile Cursor.isSpace = x :: rest := by
    rw [List.dropWhile_append_of_pos hw, List.dropWhile_cons_of_neg (by simp [hx])]
  rw [Cursor.skipSpace, ht, hd]

lemma skipSpace_self {x : Char} (hx : Cursor.isSpace x = false) (rest : List Char) (offset : Nat) :
    Cursor.skipSpace ⟨x :: rest, offset⟩ = ⟨x :: rest, offset⟩ :=
  skipSpace_blank blank_nil hx rest offset

/-- The text starts with a character that is neither white space nor ends a list. -/
def Opens (text : List Char) : Prop :=
  ∃ x rest, text = x :: rest ∧ Cursor.isSpace x = false ∧ x ≠ ']'

/-- The reader takes `text` for `a`, behind white space and whatever follows. -/
structure Reads (read : Reader α) (text : List Char) (a : α) : Prop where
  opens : Opens text
  takes : ∀ ws rest offset, Blank ws →
    ∃ offset', read ⟨ws ++ (text ++ rest), offset⟩ = .ok (a, ⟨rest, offset'⟩)

/-- At every level, the reader takes what the printer writes for `a`. -/
def ReadsBack (read : Reader α) (p : Printer) (a : α) : Prop := ∀ level, Reads read (p level) a

lemma Reads.map {read : Reader α} {text : List Char} {a : α} (h : Reads read text a) (f : α → β) :
    Reads (fun c => (read c).map fun (x, c) => (f x, c)) text (f a) where
  opens := h.opens
  takes := by
    intro ws rest offset hw
    obtain ⟨o, ho⟩ := h.takes ws rest offset hw
    exact ⟨o, by rw [ho]; rfl⟩

lemma ReadsBack.map {read : Reader α} {p : Printer} {a : α} (h : ReadsBack read p a) (f : α → β) :
    ReadsBack (fun c => (read c).map fun (x, c) => (f x, c)) p (f a) :=
  fun level => (h level).map f

/-! ### Strings and booleans -/

lemma readsBack_textAs {expected : String} {accept : String → Except Problem α} {s : String}
    {a : α} (h : accept s = .ok a) : ReadsBack (readTextAs expected accept) (.text s) a := by
  intro level
  refine ⟨⟨'"', s.toList.flatMap escape ++ ['"'], rfl, by decide, by decide⟩, ?_⟩
  intro ws rest offset hw
  obtain ⟨o, ho⟩ := scanText_literal s.toList rest (offset + ws.length + 1)
  refine ⟨o, ?_⟩
  unfold readTextAs Printer.text
  rw [literal_append, skipSpace_blank hw (by decide)]
  simp only [ho, bind, Except.bind, String.ofList_toList, h]
  rfl

lemma readsBack_text (s : String) : ReadsBack readText (.text s) s :=
  readsBack_textAs rfl

lemma passLetters_self (letters rest : List Char) (offset : Nat) :
    passLetters letters ⟨letters ++ rest, offset⟩ = .ok ⟨rest, offset + letters.length⟩ := by
  induction letters generalizing offset with
  | nil => rfl
  | cons x letters ih =>
    have h := ih (offset + 1)
    rw [List.cons_append, passLetters]
    simp only [if_true, h, List.length_cons]
    congr 2
    omega

lemma readsBack_flag (b : Bool) : ReadsBack readFlag (.flag b) b := by
  intro level
  cases b with
  | true =>
    refine ⟨⟨'t', ['r', 'u', 'e'], rfl, by decide, by decide⟩, fun ws rest offset hw => ?_⟩
    have hc : Cursor.skipSpace ⟨ws ++ (Printer.flag true level ++ rest), offset⟩ =
        ⟨'t' :: (['r', 'u', 'e'] ++ rest), offset + ws.length⟩ :=
      skipSpace_blank hw (by decide) _ offset
    refine ⟨offset + ws.length + 1 + 3, ?_⟩
    unfold readFlag
    simp only [hc, passLetters_self]
    rfl
  | false =>
    refine ⟨⟨'f', ['a', 'l', 's', 'e'], rfl, by decide, by decide⟩, fun ws rest offset hw => ?_⟩
    have hc : Cursor.skipSpace ⟨ws ++ (Printer.flag false level ++ rest), offset⟩ =
        ⟨'f' :: (['a', 'l', 's', 'e'] ++ rest), offset + ws.length⟩ :=
      skipSpace_blank hw (by decide) _ offset
    refine ⟨offset + ws.length + 1 + 4, ?_⟩
    unfold readFlag
    simp only [hc, passLetters_self]
    rfl

/-! ### Items on lines -/

/-- What follows an item, when the given items come after it. -/
def following (level : Nat) : List (List Char) → List Char
  | [] => []
  | items => ',' :: Printer.lines level items

lemma lines_cons (level : Nat) (item : List Char) (items : List (List Char)) :
    Printer.lines level (item :: items) =
      Printer.newline level ++ (item ++ following level items) := by
  cases items <;> simp [Printer.lines, following]

lemma length_le_lines (level : Nat) (items : List (List Char)) :
    items.length ≤ (Printer.lines level items).length := by
  induction items with
  | nil => simp
  | cons item items ih =>
    rw [lines_cons]
    cases items with
    | nil => simp [Printer.newline]
    | cons next items =>
      simp only [following, List.length_append, List.length_cons, Printer.newline] at ih ⊢
      omega

/-! ### Lists -/

section Lists

variable {read : Reader α} {print : α → Printer}

lemma nextElement_first {text : List Char} (h : Opens text) {ws : List Char} (hw : Blank ws)
    (rest : List Char) (offset : Nat) :
    nextElement true ⟨ws ++ (text ++ rest), offset⟩ =
      .ok (true, ⟨text ++ rest, offset + ws.length⟩) := by
  obtain ⟨x, t, rfl, hs, hb⟩ := h
  simp only [nextElement, List.cons_append, skipSpace_blank hw hs, if_neg hb, if_true]

lemma nextElement_comma {text : List Char} (h : Opens text) {ws : List Char} (hw : Blank ws)
    (rest : List Char) (offset : Nat) :
    nextElement false ⟨',' :: (ws ++ (text ++ rest)), offset⟩ =
      .ok (true, ⟨text ++ rest, offset + 1 + ws.length⟩) := by
  obtain ⟨x, t, rfl, hs, hb⟩ := h
  have hc : Cursor.isSpace ',' = false := by decide
  simp only [nextElement, List.cons_append, skipSpace_self hc, skipSpace_blank hw hs]
  simp [hb]

lemma nextElement_end (first : Bool) {ws : List Char} (hw : Blank ws) (rest : List Char)
    (offset : Nat) :
    nextElement first ⟨ws ++ ']' :: rest, offset⟩ =
      .ok (false, ⟨']' :: rest, offset + ws.length⟩) := by
  simp only [nextElement, skipSpace_blank hw (show Cursor.isSpace ']' = false by decide), if_true]

lemma readElements_cons {fuel : Nat} {first : Bool} {c c₁ c₂ c₃ : Cursor} {a : α} {as : List α}
    (hn : nextElement first c = .ok (true, c₁)) (ha : read c₁ = .ok (a, c₂))
    (has : readElements read fuel false c₂ = .ok (as, c₃)) :
    readElements read (fuel + 1) first c = .ok (a :: as, c₃) := by
  rw [readElements, hn]
  simp only [ha, has, bind, Except.bind]
  rfl

/-- Behind an element, the reader goes on to the end of the list. -/
lemma readElements_following (level : Nat) (rest : List Char) (as : List α)
    (h : ∀ a ∈ as, ReadsBack read (print a) a) (fuel offset : Nat) (hf : as.length < fuel) :
    ∃ offset', readElements read fuel false
        ⟨following (level + 1) (as.map fun a => print a (level + 1))
          ++ (Printer.newline level ++ ']' :: rest), offset⟩ =
      .ok (as, ⟨']' :: rest, offset'⟩) := by
  obtain ⟨fuel, rfl⟩ : ∃ n, fuel = n + 1 := ⟨fuel - 1, by omega⟩
  induction as generalizing fuel offset with
  | nil =>
    refine ⟨offset + (Printer.newline level).length, ?_⟩
    rw [List.map_nil, following, List.nil_append, readElements,
      nextElement_end _ (blank_newline level)]
  | cons a as ih =>
    have ha := h a (by simp) (level + 1)
    obtain ⟨fuel, rfl⟩ : ∃ n, fuel = n + 1 := ⟨fuel - 1, by simp at hf; omega⟩
    obtain ⟨o, ho⟩ := ha.takes [] _ (offset + 1 + (Printer.newline (level + 1)).length) blank_nil
    obtain ⟨o', ho'⟩ := ih (fun b hb => h b (by simp [hb])) o fuel (by simpa using hf)
    refine ⟨o', ?_⟩
    rw [List.map_cons, following, lines_cons, List.cons_append, List.append_assoc,
      List.append_assoc]
    · exact readElements_cons (nextElement_comma ha.opens (blank_newline _) _ _) ho ho'
    · simp

lemma readElements_lines (level : Nat) (rest : List Char) (a : α) (as : List α)
    (h : ∀ b ∈ a :: as, ReadsBack read (print b) b) (fuel offset : Nat) (hf : as.length < fuel) :
    ∃ offset', readElements read (fuel + 1) true
        ⟨Printer.lines (level + 1) ((a :: as).map fun b => print b (level + 1))
          ++ (Printer.newline level ++ ']' :: rest), offset⟩ =
      .ok (a :: as, ⟨']' :: rest, offset'⟩) := by
  have ha := h a (by simp) (level + 1)
  obtain ⟨o, ho⟩ := ha.takes [] _ (offset + (Printer.newline (level + 1)).length) blank_nil
  obtain ⟨o', ho'⟩ :=
    readElements_following level rest as (fun b hb => h b (by simp [hb])) fuel o hf
  refine ⟨o', ?_⟩
  rw [List.map_cons, lines_cons, List.append_assoc, List.append_assoc]
  exact readElements_cons (nextElement_first ha.opens (blank_newline _) _ _) ho ho'

lemma closeList_end (rest : List Char) (offset : Nat) :
    closeList ⟨']' :: rest, offset⟩ = (⟨rest, offset + 1⟩, none) := by
  simp only [closeList, skipSpace_self (show Cursor.isSpace ']' = false by decide)]

/-- **Lists read back** if their elements do. -/
theorem readsBack_list (as : List α) (h : ∀ a ∈ as, ReadsBack read (print a) a) :
    ReadsBack (readList read) (.list (as.map print)) as := by
  intro level
  have hb : Cursor.isSpace '[' = false := by decide
  cases as with
  | nil =>
    refine ⟨⟨'[', [']'], rfl, hb, by decide⟩, fun ws rest offset hw => ?_⟩
    refine ⟨offset + ws.length + 1 + 1, ?_⟩
    have ht : Printer.list (List.map print []) level ++ rest = '[' :: ']' :: rest := rfl
    have he := nextElement_end true blank_nil rest (offset + ws.length + 1)
    rw [List.nil_append] at he
    simp only [ht, readList, skipSpace_blank hw hb, readElements, he]
    rfl
  | cons a as =>
    refine ⟨⟨'[', _, rfl, hb, by decide⟩, fun ws rest offset hw => ?_⟩
    set items := (a :: as).map fun b => print b (level + 1) with hitems
    set body := Printer.lines (level + 1) items ++ (Printer.newline level ++ ']' :: rest) with hbody
    have ht : Printer.list (List.map print (a :: as)) level ++ rest = '[' :: body := by
      simp [Printer.list, hbody, hitems, Function.comp_def]
    have hf : as.length < body.length := by
      have hl := length_le_lines (level + 1) items
      have hi : items.length = as.length + 1 := by simp [hitems]
      simp only [hbody, List.length_append]
      omega
    obtain ⟨o, ho⟩ := readElements_lines level rest a as h body.length (offset + ws.length + 1) hf
    refine ⟨o + 1, ?_⟩
    simp only [ht, readList, skipSpace_blank hw hb]
    rw [ho]
    simp only [bind, Except.bind, closeList_end]
    rfl

end Lists

/-! ### Records -/

section Records

variable {r : Record δ α}

/-- The members, read one after another, take the record's draft from the first to the second. -/
inductive Fills (r : Record δ α) : δ → List (String × Printer) → δ → Prop
  | done (draft : δ) : Fills r draft [] draft
  | member {draft next last : δ} {name : String} {value : Printer}
      {members : List (String × Printer)} (field : Field δ)
      (known : r.fields.find? (·.name == name) = some field) (unset : field.isSet draft = false)
      (reads : ReadsBack (field.read draft) value next) (fills : Fills r next members last) :
      Fills r draft ((name, value) :: members) last

def memberText (level : Nat) (m : String × Printer) : List Char :=
  literal m.1.toList ++ [':', ' '] ++ m.2 level

lemma memberText_append (level : Nat) (name : String) (value : Printer) (rest : List Char) :
    memberText level (name, value) ++ rest =
      literal name.toList ++ ':' :: ([' '] ++ (value level ++ rest)) := by
  simp [memberText]

lemma nextKey_first (name : String) {ws : List Char} (hw : Blank ws) (rest : List Char)
    (offset : Nat) :
    ∃ offset', nextKey true ⟨ws ++ (literal name.toList ++ rest), offset⟩ =
      .ok (some name, ⟨rest, offset'⟩) := by
  obtain ⟨o, ho⟩ := scanText_literal name.toList rest (offset + ws.length + 1)
  refine ⟨o, ?_⟩
  simp only [nextKey, literal_append,
    skipSpace_blank hw (show Cursor.isSpace '"' = false by decide)]
  simp [ho, Except.map]

lemma nextKey_comma (name : String) {ws : List Char} (hw : Blank ws) (rest : List Char)
    (offset : Nat) :
    ∃ offset', nextKey false ⟨',' :: (ws ++ (literal name.toList ++ rest)), offset⟩ =
      .ok (some name, ⟨rest, offset'⟩) := by
  obtain ⟨o, ho⟩ := scanText_literal name.toList rest (offset + 1 + ws.length + 1)
  refine ⟨o, ?_⟩
  simp only [nextKey, literal_append, skipSpace_self (show Cursor.isSpace ',' = false by decide),
    skipSpace_blank hw (show Cursor.isSpace '"' = false by decide)]
  simp [ho, Except.map]

lemma nextKey_end (first : Bool) {ws : List Char} (hw : Blank ws) (rest : List Char)
    (offset : Nat) :
    nextKey first ⟨ws ++ '\x7d' :: rest, offset⟩ =
      .ok (none, ⟨'\x7d' :: rest, offset + ws.length⟩) := by
  simp only [nextKey, skipSpace_blank hw (show Cursor.isSpace '\x7d' = false by decide), if_true]

lemma passColon_self (rest : List Char) (offset : Nat) :
    passColon ⟨':' :: rest, offset⟩ = .ok ⟨rest, offset + 1⟩ := by
  simp only [passColon, skipSpace_self (show Cursor.isSpace ':' = false by decide)]

lemma readMembers_cons {fuel : Nat} {first : Bool} {c c₁ c₂ : Cursor} {draft next last : δ}
    {name : String} {field : Field δ} {rest : List Char} {offset : Nat}
    (hn : nextKey first c = .ok (some name, ⟨':' :: rest, offset⟩))
    (known : r.fields.find? (·.name == name) = some field) (unset : field.isSet draft = false)
    (hv : field.read draft ⟨rest, offset + 1⟩ = .ok (next, c₁))
    (hm : r.readMembers fuel false next c₁ = .ok (last, c₂)) :
    r.readMembers (fuel + 1) first draft c = .ok (last, c₂) := by
  rw [Record.readMembers, hn]
  simp only [known, unset, passColon_self]
  simp only [Bool.false_eq_true, if_false, bind, Except.bind, hv, hm]

/-- Behind a member, the reader goes on to the end of the object. -/
lemma readMembers_following (level : Nat) (rest : List Char) {draft last : δ}
    {members : List (String × Printer)} (h : Fills r draft members last) (fuel offset : Nat)
    (hf : members.length < fuel) :
    ∃ offset', r.readMembers fuel false draft
        ⟨following (level + 1) (members.map (memberText (level + 1)))
          ++ (Printer.newline level ++ '\x7d' :: rest), offset⟩ =
      .ok (last, ⟨'\x7d' :: rest, offset'⟩) := by
  obtain ⟨fuel, rfl⟩ : ∃ n, fuel = n + 1 := ⟨fuel - 1, by omega⟩
  induction h generalizing fuel offset with
  | done draft =>
    refine ⟨offset + (Printer.newline level).length, ?_⟩
    rw [List.map_nil, following, List.nil_append, Record.readMembers,
      nextKey_end _ (blank_newline level)]
  | @member draft next last name value members field known unset reads fills ih =>
    obtain ⟨fuel, rfl⟩ : ∃ n, fuel = n + 1 := ⟨fuel - 1, by simp at hf; omega⟩
    obtain ⟨o, ho⟩ := nextKey_comma name (blank_newline (level + 1)) _ offset
    obtain ⟨o', ho'⟩ := (reads (level + 1)).takes [' '] _ (o + 1) blank_space
    obtain ⟨o'', ho''⟩ := ih o' fuel (by simpa using hf)
    refine ⟨o'', ?_⟩
    rw [List.map_cons, following, lines_cons, List.cons_append, List.append_assoc,
      List.append_assoc, memberText_append]
    · exact readMembers_cons ho known unset ho' ho''
    · simp

lemma readMembers_lines (level : Nat) (rest : List Char) {draft last : δ}
    {members : List (String × Printer)} (h : Fills r draft members last) (fuel offset : Nat)
    (hf : members.length ≤ fuel) :
    ∃ offset', r.readMembers (fuel + 1) true draft
        ⟨Printer.lines (level + 1) (members.map (memberText (level + 1)))
          ++ (Printer.newline level ++ '\x7d' :: rest), offset⟩ =
      .ok (last, ⟨'\x7d' :: rest, offset'⟩) := by
  cases h with
  | done =>
    refine ⟨offset + (Printer.newline level).length, ?_⟩
    rw [List.map_nil, Printer.lines, List.nil_append, Record.readMembers,
      nextKey_end _ (blank_newline level)]
  | @member _ next _ name value members field known unset reads fills =>
    obtain ⟨o, ho⟩ := nextKey_first name (blank_newline (level + 1)) _ offset
    obtain ⟨o', ho'⟩ := (reads (level + 1)).takes [' '] _ (o + 1) blank_space
    obtain ⟨o'', ho''⟩ := readMembers_following level rest fills fuel o' hf
    refine ⟨o'', ?_⟩
    rw [List.map_cons, lines_cons, List.append_assoc, List.append_assoc, memberText_append]
    exact readMembers_cons ho known unset ho' ho''

lemma closeObject_end (rest : List Char) (offset : Nat) :
    closeObject ⟨'\x7d' :: rest, offset⟩ = (⟨rest, offset + 1⟩, none) := by
  simp only [closeObject, skipSpace_self (show Cursor.isSpace '\x7d' = false by decide)]

/-- **Records read back** if their members fill the blank draft and the draft gives the record. -/
theorem readsBack_object {members : List (String × Printer)} (last : δ) {a : α}
    (h : Fills r r.blank members last) (hr : r.finish last = .ok a) :
    ReadsBack r.read (.object members) a := by
  intro level
  have hb : Cursor.isSpace '\x7b' = false := by decide
  refine ⟨⟨'\x7b', _, rfl, hb, by decide⟩, fun ws rest offset hw => ?_⟩
  set items := members.map (memberText (level + 1)) with hitems
  set body := Printer.lines (level + 1) items ++ (Printer.newline level ++ '\x7d' :: rest)
    with hbody
  have ht : Printer.object members level ++ rest = '\x7b' :: body := by
    change '\x7b' :: Printer.lines (level + 1) items ++ Printer.newline level ++ ['\x7d'] ++ rest
      = _
    simp [hbody]
  have hf : members.length ≤ body.length := by
    have hl := length_le_lines (level + 1) items
    have hi : items.length = members.length := by simp [hitems]
    simp only [hbody, List.length_append]
    omega
  obtain ⟨o, ho⟩ := readMembers_lines level rest h body.length (offset + ws.length + 1) hf
  refine ⟨o + 1, ?_⟩
  simp only [ht, Record.read, skipSpace_blank hw hb]
  rw [ho]
  simp only [bind, Except.bind, closeObject_end, Record.complete, hr]
  rfl

end Records

/-! ### Whole texts -/

/-- **A printed text decodes** to what it was printed from. -/
theorem decode_run {read : Reader α} {p : Printer} {a : α} (h : ReadsBack read p a) :
    decode read p.run = .ok a := by
  obtain ⟨o, ho⟩ := (h 0).takes [] [] 0 blank_nil
  rw [List.nil_append, List.append_nil] at ho
  unfold decode
  rw [Printer.run, String.toList_ofList, ho]
  rfl

end StaticHost.Json
