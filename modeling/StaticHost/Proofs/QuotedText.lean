import Mathlib.Data.List.Forall2
import Mathlib.Tactic.Common
import StaticHost.Error
import StaticHost.StyleTable
import StaticHost.Text.Lines
import StaticHost.Proofs.JsonRoundTrip
import StaticHost.Proofs.Utf8

/-!
Quoted texts read back.

The reader is a machine that is fed the characters behind the opening quote one at a time: it stands
in plain text, behind a backslash, behind `\u`, or inside the braces of a number. Nothing that can
be written ends a literal early, and nothing in it breaks a line; so a text that is put together
from fixed words and literals, like a line of the table of stylesheets, is taken apart again.
-/

namespace StaticHost.Text.Quoted

/-! ### The reader -/

/-- Where the reader stands: in plain text, behind a backslash, behind `\u`, or inside braces, with
the value of so many digits. -/
inductive State
  | plain
  | escape
  | brace
  | number (value count : Nat)

/-- What may stand behind a backslash besides `u`, each with the character that is meant. -/
def shortEscapes : List (Char × Char) :=
  [('0', '\x00'), ('t', '\t'), ('r', '\r'), ('n', '\n'), ('\\', '\\'), ('"', '"')]

/-- A text up to its closing quote, and what follows that. A number has one to six digits and is
that of a character. -/
def scan : State → List Char → Option (List Char × List Char)
  | _, [] => none
  | .plain, c :: rest =>
    if c = '"' then some ([], rest)
    else if c = '\\' then scan .escape rest
    else (scan .plain rest).map fun (text, rest) => (c :: text, rest)
  | .escape, c :: rest =>
    if c = 'u' then scan .brace rest
    else match shortEscapes.lookup c with
      | some x => (scan .plain rest).map fun (text, rest) => (x :: text, rest)
      | none => none
  | .brace, c :: rest => if c = '\x7b' then scan (.number 0 0) rest else none
  | .number value count, c :: rest =>
    if c = '\x7d' then
      if 0 < count ∧ value.isValidChar then
        (scan .plain rest).map fun (text, rest) => (Char.ofNat value :: text, rest)
      else none
    else match Json.hexDigit? c with
      | some digit =>
        if count < 6 then scan (.number (value * 16 + digit) (count + 1)) rest else none
      | none => none

def read : List Char → Option (String × List Char)
  | '"' :: rest => (scan .plain rest).map fun (text, rest) => (String.ofList text, rest)
  | _ => none

/-! ### Reading back -/

lemma scan_short {e c : Char} (hu : e ≠ 'u') (h : shortEscapes.lookup e = some c)
    (rest : List Char) :
    scan .plain ('\\' :: e :: rest) =
      (scan .plain rest).map fun (text, rest) => (c :: text, rest) := by
  simp [scan, hu, h]

lemma hexDigit?_brace : Json.hexDigit? '\x7d' = none := by decide

/-- One digit more of a number. -/
lemma scan_digit {d : Nat} (hd : d < 16) {value count : Nat} (hc : count < 6) (rest : List Char) :
    scan (.number value count) (Nat.digitChar d :: rest) =
      scan (.number (value * 16 + d) (count + 1)) rest := by
  have hdigit := Json.hexDigit?_digitChar hd
  have hne : Nat.digitChar d ≠ '\x7d' := by
    intro h
    rw [h, hexDigit?_brace] at hdigit
    cases hdigit
  rw [scan]
  simp [hne, hdigit, hc]

lemma scan_digits {n : Nat} (hn : (Nat.toDigits 16 n).length ≤ 6) (rest : List Char) :
    scan (.number 0 0) (Nat.toDigits 16 n ++ rest) =
      scan (.number n (Nat.toDigits 16 n).length) rest := by
  induction n using Nat.strongRecOn generalizing rest with
  | _ n ih =>
  by_cases hlt : n < 16
  · rw [Nat.toDigits_of_lt_base hlt, List.singleton_append, scan_digit hlt (by decide)]
    simp
  · rw [Nat.toDigits_of_base_le (by decide) (by omega)] at hn ⊢
    rw [List.length_append, List.length_singleton] at hn ⊢
    rw [List.append_assoc, ih (n / 16) (by omega) (by omega), List.singleton_append,
      scan_digit (by omega) (by omega), show n / 16 * 16 + n % 16 = n by omega]

lemma length_toDigits_char (c : Char) : (Nat.toDigits 16 c.toNat).length ≤ 6 := by
  have hc := Utf8.scalar c
  exact (Nat.length_toDigits_le_iff (by decide) (by decide)).mpr (by omega)

lemma scan_numbered (c : Char) (rest : List Char) :
    scan .plain (numbered c ++ rest) =
      (scan .plain rest).map fun (text, rest) => (c :: text, rest) := by
  have hvalid : c.toNat.isValidChar := c.valid
  have hpos : 0 < (Nat.toDigits 16 c.toNat).length := Nat.length_toDigits_pos
  have htext : numbered c ++ rest =
      '\\' :: 'u' :: '\x7b' :: (Nat.toDigits 16 c.toNat ++ '\x7d' :: rest) := by
    simp [numbered]
  have hdigits := scan_digits (length_toDigits_char c) ('\x7d' :: rest)
  rw [htext]
  simp [scan, hdigits, hvalid, hpos]

/-- The written form of a character is read as that character. -/
lemma scan_escape (c : Char) (rest : List Char) :
    scan .plain (escape c ++ rest) =
      (scan .plain rest).map fun (text, rest) => (c :: text, rest) := by
  unfold escape
  split_ifs with h₁ h₂ h₃ h₄ h₅ h₆ h₇ h₈
  · exact scan_short (by decide) (by rw [h₁]; rfl) rest
  · exact scan_short (by decide) (by rw [h₂]; rfl) rest
  · exact scan_short (by decide) (by rw [h₃]; rfl) rest
  · exact scan_short (by decide) (by rw [h₄]; rfl) rest
  · exact scan_short (by decide) (by rw [h₅]; rfl) rest
  · exact scan_short (by decide) (by rw [h₆]; rfl) rest
  · exact scan_numbered c rest
  · simp [scan, h₅, h₆]
  · exact scan_numbered c rest

/-- **A quoted text is read back**, up to its closing quote and whatever follows. -/
theorem read_encode (s : String) (rest : List Char) :
    read (encode s.toList ++ rest) = some (s, rest) := by
  have hscan (text : List Char) :
      scan .plain (text.flatMap escape ++ '"' :: rest) = some (text, rest) := by
    induction text with
    | nil => simp [scan]
    | cons c text ih =>
      rw [List.flatMap_cons, List.append_assoc, scan_escape, ih]
      rfl
  have htext : encode s.toList ++ rest = '"' :: (s.toList.flatMap escape ++ '"' :: rest) := by
    simp [encode]
  rw [htext, read, hscan, Option.map_some]
  simp only [String.ofList_toList]

-- A backslash and what follows it end nothing, and letters of either case are digits.
example : read "\"\\\"\\u\x7b1F600\x7d\\\\\" \"".toList = some ("\"😀\\", [' ', '"']) := by
  decide +kernel

/-! ### One line -/

/-- No range of unprintable characters meets those from the blank to the tilde. -/
lemma unprintable_ranges : ∀ r ∈ unprintable.ranges, r.2 < 0x20 ∨ 0x7F ≤ r.1 := by
  decide +kernel

lemma isPrintable_of_ascii {c : Char} (hl : 0x20 ≤ c.toNat) (hh : c.toNat < 0x7F) :
    isPrintable c = true := by
  simp only [isPrintable, CodeTable.contains, Bool.not_eq_true', List.any_eq_false,
    Bool.and_eq_true, decide_eq_true_eq, not_and, Nat.not_le]
  intro r hr hlow
  have := unprintable_ranges r hr
  omega

lemma forall_mem_toDigits {P : Char → Prop} (h : ∀ d < 16, P (Nat.digitChar d)) (n : Nat) :
    ∀ c ∈ Nat.toDigits 16 n, P c := by
  induction n using Nat.strongRecOn with
  | _ n ih =>
  by_cases hlt : n < 16
  · rw [Nat.toDigits_of_lt_base hlt]
    simpa using h n hlt
  · rw [Nat.toDigits_of_base_le (by decide) (by omega), List.forall_mem_append]
    exact ⟨ih (n / 16) (by omega), by simpa using h (n % 16) (by omega)⟩

def IsAscii (text : List Char) : Prop :=
  ∀ c ∈ text, 0x20 ≤ c.toNat ∧ c.toNat < 0x7F

instance (text : List Char) : Decidable (IsAscii text) :=
  List.decidableBAll _ text

lemma IsAscii.isPrintable {text : List Char} (h : IsAscii text) :
    ∀ c ∈ text, isPrintable c = true :=
  fun c hc => isPrintable_of_ascii (h c hc).1 (h c hc).2

lemma isAscii_numbered (c : Char) : IsAscii (numbered c) := by
  have hopen : IsAscii ['\\', 'u', '\x7b'] := by decide
  have hdigits : IsAscii (Nat.toDigits 16 c.toNat) := forall_mem_toDigits (by decide) c.toNat
  have hclose : IsAscii ['\x7d'] := by decide
  exact List.forall_mem_append.mpr ⟨List.forall_mem_append.mpr ⟨hopen, hdigits⟩, hclose⟩

lemma isPrintable_escape (c : Char) : ∀ x ∈ escape c, isPrintable x = true := by
  unfold escape
  split_ifs with h₁ h₂ h₃ h₄ h₅ h₆ h₇ h₈
  · exact IsAscii.isPrintable (by decide)
  · exact IsAscii.isPrintable (by decide)
  · exact IsAscii.isPrintable (by decide)
  · exact IsAscii.isPrintable (by decide)
  · exact IsAscii.isPrintable (by decide)
  · exact IsAscii.isPrintable (by decide)
  · exact (isAscii_numbered c).isPrintable
  · simpa using h₈
  · exact (isAscii_numbered c).isPrintable

/-- **A quoted text shows all it holds**: every character of it can be printed. -/
theorem isPrintable_encode (text : List Char) : ∀ c ∈ encode text, isPrintable c = true := by
  have hquote : ∀ c ∈ ['"'], isPrintable c = true := IsAscii.isPrintable (by decide)
  refine List.forall_mem_append.mpr ⟨List.forall_mem_cons.mpr ⟨hquote _ (by simp), ?_⟩, hquote⟩
  intro x hx
  obtain ⟨c, -, hx⟩ := List.mem_flatMap.mp hx
  exact isPrintable_escape c x hx

end StaticHost.Text.Quoted

namespace StaticHost.Text

lemma not_mem_of_isPrintable {text : List Char} (h : ∀ c ∈ text, isPrintable c = true) :
    '\n' ∉ text ∧ '\r' ∉ text := by
  constructor
  · intro hmem
    exact absurd (h _ hmem) (by decide +kernel)
  · intro hmem
    exact absurd (h _ hmem) (by decide +kernel)

lemma lines_cons {c : Char} (hn : c ≠ '\n') (hr : c ≠ '\r') (rest : List Char) :
    lines (c :: rest) = match lines rest with
      | [] => [[c]]
      | line :: more => (c :: line) :: more := by
  rw [lines.eq_def]
  split
  next h => cases h
  next h =>
    cases h
    exact absurd rfl hr
  next h =>
    cases h
    exact absurd rfl hn
  next h =>
    cases h
    rfl

/-- A line feed ends a line of printable characters. -/
lemma lines_append {line : List Char} (h : ∀ c ∈ line, isPrintable c = true) (rest : List Char) :
    lines (line ++ '\n' :: rest) = line :: lines rest := by
  obtain ⟨hn, hr⟩ := not_mem_of_isPrintable h
  clear h
  induction line with
  | nil => rw [List.nil_append, lines]
  | cons c line ih =>
    obtain ⟨hc, hline⟩ := not_or.mp (mt List.mem_cons.mpr hn)
    obtain ⟨hc', hline'⟩ := not_or.mp (mt List.mem_cons.mpr hr)
    rw [List.cons_append, lines_cons (Ne.symm hc) (Ne.symm hc'), ih hline hline']

/-- A text of printable characters is one line. -/
lemma lines_of_isPrintable {text : List Char} (h : ∀ c ∈ text, isPrintable c = true)
    (hne : text ≠ []) : lines text = [text] := by
  obtain ⟨hn, hr⟩ := not_mem_of_isPrintable h
  clear h
  induction text with
  | nil => exact absurd rfl hne
  | cons c text ih =>
    obtain ⟨hc, htext⟩ := not_or.mp (mt List.mem_cons.mpr hn)
    obtain ⟨hc', htext'⟩ := not_or.mp (mt List.mem_cons.mpr hr)
    rw [lines_cons (Ne.symm hc) (Ne.symm hc')]
    cases text with
    | nil => rfl
    | cons d text => rw [ih (by simp) htext htext']

end StaticHost.Text

namespace StaticHost.StyleTable

open Text

/-! ### The table -/

def header : List Char := "pub const STYLESHEETS: &[Stylesheet] = &[".toList

def closing : List Char := "];".toList

def Entry.read (line : List Char) : Option Entry := do
  let rest ← line.dropPrefix? "    Stylesheet \x7b name: ".toList
  let (name, rest) ← Quoted.read rest
  let rest ← rest.dropPrefix? ", source: include_str!(".toList
  let (path, rest) ← Quoted.read rest
  if rest = ") \x7d,".toList then some ⟨name, path⟩ else none

def readEntries : List (List Char) → Option (List Entry)
  | [] => none
  | [line] => if line = closing then some [] else none
  | line :: rest => do
    let entry ← Entry.read line
    let entries ← readEntries rest
    return entry :: entries

def readTable (text : String) : Option (List Entry) :=
  match lines text.toList with
  | [] => none
  | line :: rest => if line = header then readEntries rest else none

def Entry.shown (e : Entry) : List Char :=
  "    Stylesheet \x7b name: ".toList ++ (Quoted.encode e.name.toList ++
    (", source: include_str!(".toList ++ (Quoted.encode e.path.toList ++ ") \x7d,".toList)))

lemma Entry.toList_line (e : Entry) : e.line.toList = e.shown ++ ['\n'] := by
  have hend : ") \x7d,\n".toList = ") \x7d,".toList ++ ['\n'] := by decide +kernel
  unfold line shown quoted
  simp only [String.toList_append, String.toList_ofList, hend, List.append_assoc]

lemma isAscii_words : Quoted.IsAscii "    Stylesheet \x7b name: ".toList ∧
    Quoted.IsAscii ", source: include_str!(".toList ∧ Quoted.IsAscii ") \x7d,".toList := by
  decide +kernel

lemma Entry.isPrintable_shown (e : Entry) : ∀ c ∈ e.shown, isPrintable c = true := by
  obtain ⟨h₁, h₂, h₃⟩ := isAscii_words
  unfold shown
  rw [List.forall_mem_append, List.forall_mem_append, List.forall_mem_append,
    List.forall_mem_append]
  exact ⟨h₁.isPrintable, Quoted.isPrintable_encode _, h₂.isPrintable,
    Quoted.isPrintable_encode _, h₃.isPrintable⟩

lemma Entry.read_shown (e : Entry) : read e.shown = some e := by
  unfold read shown
  rw [List.dropPrefix?_append_of_beq _ BEq.rfl]
  simp only [Option.bind_eq_bind, Option.bind_some, Quoted.read_encode,
    List.dropPrefix?_append_of_beq _ BEq.rfl, if_true]

/-- The text of a table, line by line. -/
lemma toList_text (entries : List Entry) :
    (text entries).toList = header ++ '\n' :: (entries.flatMap (fun e => e.shown ++ ['\n']) ++
      (closing ++ ['\n'])) := by
  have hheader : "pub const STYLESHEETS: &[Stylesheet] = &[\n".toList = header ++ ['\n'] := by
    decide +kernel
  have hclosing : "];\n".toList = closing ++ ['\n'] := by decide +kernel
  have hentries : (String.join (entries.map Entry.line)).toList =
      entries.flatMap fun e => e.shown ++ ['\n'] := by
    rw [String.toList_join, List.flatMap_map]
    simp only [Entry.toList_line]
  unfold text
  rw [String.toList_append, String.toList_append, hheader, hclosing, hentries]
  simp

/-- **A table has one line for each entry**, between its first line and its last. -/
theorem lines_text (entries : List Entry) :
    lines (text entries).toList = header :: (entries.map Entry.shown ++ [closing]) := by
  have hheader : ∀ c ∈ header, isPrintable c = true :=
    Quoted.IsAscii.isPrintable (by decide +kernel)
  have hclosing : ∀ c ∈ closing, isPrintable c = true :=
    Quoted.IsAscii.isPrintable (by decide +kernel)
  rw [toList_text, lines_append hheader]
  congr 1
  induction entries with
  | nil =>
    rw [List.flatMap_nil, List.nil_append, lines_append hclosing]
    rfl
  | cons e entries ih =>
    rw [List.flatMap_cons, List.append_assoc, List.append_assoc, List.singleton_append,
      lines_append e.isPrintable_shown, ih]
    rfl

lemma readEntries_shown (entries : List Entry) :
    readEntries (entries.map Entry.shown ++ [closing]) = some entries := by
  induction entries with
  | nil => exact if_pos rfl
  | cons e entries ih =>
    have hne : entries.map Entry.shown ++ [closing] ≠ [] := by simp
    obtain ⟨line, rest, hrest⟩ := List.exists_cons_of_ne_nil hne
    rw [List.map_cons, List.cons_append]
    rw [hrest] at ih ⊢
    rw [readEntries]
    · rw [Entry.read_shown, ih]
      rfl
    · simp

/-- **The entries** are read back from the text of their table. -/
theorem readTable_text (entries : List Entry) : readTable (text entries) = some entries := by
  unfold readTable
  rw [lines_text]
  simp only [if_true, readEntries_shown]

end StaticHost.StyleTable

namespace StaticHost

open Text

/-! ### Error messages -/

/-- The base path that a message complains about. -/
def HostError.baseOfMessage? (message : String) : Option String := do
  let rest ← message.toList.dropPrefix? "Invalid base path: ".toList
  let (base, rest) ← Quoted.read rest
  if rest = " (must start with '/')".toList then some base else none

lemma HostError.toList_message (base : String) :
    (invalidBasePath base).message.toList =
      "Invalid base path: ".toList ++ (Quoted.encode base.toList ++
        " (must start with '/')".toList) := by
  unfold message quoted
  simp only [String.toList_append, String.toList_ofList, List.append_assoc]

lemma HostError.isPrintable_message (base : String) :
    ∀ c ∈ (invalidBasePath base).message.toList, isPrintable c = true := by
  have hwords : Quoted.IsAscii "Invalid base path: ".toList ∧
      Quoted.IsAscii " (must start with '/')".toList := by decide +kernel
  rw [toList_message, List.forall_mem_append, List.forall_mem_append]
  exact ⟨hwords.1.isPrintable, Quoted.isPrintable_encode _, hwords.2.isPrintable⟩

lemma HostError.baseOfMessage?_message (base : String) :
    baseOfMessage? (invalidBasePath base).message = some base := by
  unfold baseOfMessage?
  rw [toList_message, List.dropPrefix?_append_of_beq _ BEq.rfl, Option.bind_eq_bind,
    Option.bind_some, Quoted.read_encode, Option.bind_eq_bind, Option.bind_some]
  exact if_pos rfl

/-- **Quoted texts are faithful**: whatever the names and the paths of its entries, a table is read
back as these entries, and has one line for each of them between the first and the last. The message
about a base path is one line of printable characters, from which the path is read back. -/
theorem quoted_texts_read_back :
    (∀ entries : List StyleTable.Entry,
      StyleTable.readTable (StyleTable.text entries) = some entries ∧
      ∃ shown, lines (StyleTable.text entries).toList =
          StyleTable.header :: (shown ++ [StyleTable.closing]) ∧
        List.Forall₂ (fun line entry => StyleTable.Entry.read line = some entry) shown entries) ∧
    ∀ base : String,
      HostError.baseOfMessage? (HostError.invalidBasePath base).message = some base ∧
      lines (HostError.invalidBasePath base).message.toList =
        [(HostError.invalidBasePath base).message.toList] ∧
      ∀ c ∈ (HostError.invalidBasePath base).message.toList, isPrintable c = true := by
  refine ⟨fun entries => ⟨?_, entries.map StyleTable.Entry.shown, ?_, ?_⟩, fun base => ⟨?_, ?_, ?_⟩⟩
  · exact StyleTable.readTable_text entries
  · exact StyleTable.lines_text entries
  · rw [List.forall₂_map_left_iff]
    exact List.forall₂_same.mpr fun entry _ => entry.read_shown
  · exact HostError.baseOfMessage?_message base
  · refine lines_of_isPrintable (HostError.isPrintable_message base) ?_
    rw [HostError.toList_message]
    exact fun h => absurd (List.append_eq_nil_iff.mp h).1 (by decide +kernel)
  · exact HostError.isPrintable_message base

end StaticHost
