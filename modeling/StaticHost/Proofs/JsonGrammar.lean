import StaticHost.Proofs.JsonRoundTrip

/-!
The grammar of JSON texts.

The rules stand apart from the readers and say nothing about how a text is gone through. A string
is described twice: `IsText` by its form alone, `Spells` with the characters it stands for, which
leaves out the escapes of lone surrogates. What stands in a list or an object is `Items` with
commas between them; `IsValue` ties all kinds of values together, nested to any depth. `ListOf`
and `ObjectOf` keep the elements of a list and the members of an object, each value as the text
that stands for it.
-/

namespace StaticHost.Json

/-! ### Strings -/

/-- A hexadecimal digit, in either case, and its value. -/
def HexDigit (c : Char) (n : Nat) : Prop :=
  n < 16 ∧ (c = Nat.digitChar n ∨ c = (Nat.digitChar n).toUpper)

/-- Four hexadecimal digits, and the number they stand for. -/
inductive HexQuad : List Char → Nat → Prop
  | mk {a b c d : Char} {w x y z : Nat} (ha : HexDigit a w) (hb : HexDigit b x)
      (hc : HexDigit c y) (hd : HexDigit d z) :
      HexQuad [a, b, c, d] (w * 0x1000 + x * 0x100 + y * 0x10 + z)

/-- What may stand behind a backslash, each with the character that is meant. -/
def shortEscapes : List (Char × Char) :=
  [('"', '"'), ('\\', '\\'), ('/', '/'), ('b', '\x08'), ('f', '\x0c'), ('n', '\n'), ('r', '\r'),
    ('t', '\t')]

/-- A character that stands for itself in a string. -/
def Unescaped (c : Char) : Prop :=
  c ≠ '"' ∧ c ≠ '\\' ∧ 0x20 ≤ c.toNat

/-- What stands between the quotes of a string, by its form alone. -/
inductive IsText : List Char → Prop
  | nil : IsText []
  | plain {c : Char} {text : List Char} (hc : Unescaped c) (h : IsText text) : IsText (c :: text)
  | short {e c : Char} {text : List Char} (he : (e, c) ∈ shortEscapes) (h : IsText text) :
      IsText ('\\' :: e :: text)
  | unit {quad text : List Char} {n : Nat} (hq : HexQuad quad n) (h : IsText text) :
      IsText ('\\' :: 'u' :: (quad ++ text))

/-- What stands between the quotes of a string, and the characters it stands for. An escape is a
character's number, or the two surrogates of a character beyond the first plane. -/
inductive Spells : List Char → List Char → Prop
  | nil : Spells [] []
  | plain {c : Char} {text cs : List Char} (hc : Unescaped c) (h : Spells text cs) :
      Spells (c :: text) (c :: cs)
  | short {e c : Char} {text cs : List Char} (he : (e, c) ∈ shortEscapes) (h : Spells text cs) :
      Spells ('\\' :: e :: text) (c :: cs)
  | unit {c : Char} {quad text cs : List Char} (hq : HexQuad quad c.toNat) (h : Spells text cs) :
      Spells ('\\' :: 'u' :: (quad ++ text)) (c :: cs)
  | pair {c : Char} {high low text cs : List Char} {m n : Nat} (hm : HexQuad high (0xD800 + m))
      (hn : HexQuad low (0xDC00 + n)) (hml : m < 0x400) (hnl : n < 0x400)
      (hc : c.toNat = 0x10000 + m * 0x400 + n) (h : Spells text cs) :
      Spells ('\\' :: 'u' :: (high ++ '\\' :: 'u' :: (low ++ text))) (c :: cs)

/-- A string value: its text between quotes, and the string it stands for. -/
inductive TextOf : List Char → String → Prop
  | mk {text : List Char} {s : String} (h : Spells text s.toList) :
      TextOf ('"' :: (text ++ ['"'])) s

inductive FlagOf : List Char → Bool → Prop
  | isTrue : FlagOf ['t', 'r', 'u', 'e'] true
  | isFalse : FlagOf ['f', 'a', 'l', 's', 'e'] false

/-! ### Numbers -/

def Digits (ds : List Char) : Prop :=
  ds ≠ [] ∧ ∀ d ∈ ds, d.isDigit = true

/-- The digits before the point; no zero stands before others. -/
def IsWhole (ds : List Char) : Prop :=
  Digits ds ∧ (ds.head? = some '0' → ds = ['0'])

def IsFraction (text : List Char) : Prop :=
  text = [] ∨ ∃ ds, Digits ds ∧ text = '.' :: ds

def IsExponent (text : List Char) : Prop :=
  text = [] ∨ ∃ mark sign ds, (mark = 'e' ∨ mark = 'E') ∧
    (sign = [] ∨ sign = ['+'] ∨ sign = ['-']) ∧ Digits ds ∧ text = mark :: (sign ++ ds)

inductive IsNumeral : List Char → Prop
  | mk {whole fraction exponent : List Char} (hw : IsWhole whole) (hf : IsFraction fraction)
      (he : IsExponent exponent) : IsNumeral (whole ++ (fraction ++ exponent))

/-! ### Lists and objects -/

/-- What stands before an item: white space, and a comma unless the item is the first. -/
def Gap : Bool → List Char → Prop
  | true, gap => Blank gap
  | false, gap => ∃ ws ws', Blank ws ∧ Blank ws' ∧ gap = ws ++ ',' :: ws'

/-- Items with commas between them, and white space wherever it may be. The flag says whether the
first of them is the first of all. -/
inductive Items {α : Type} (Item : α → List Char → Prop) : Bool → List α → List Char → Prop
  | nil {first : Bool} {ws : List Char} (hw : Blank ws) : Items Item first [] ws
  | cons {first : Bool} {gap text rest : List Char} {a : α} {as : List α} (hg : Gap first gap)
      (ha : Item a text) (h : Items Item false as rest) :
      Items Item first (a :: as) (gap ++ (text ++ rest))

/-- A member of an object: a key in quotes, which `Key` gives a meaning, a colon and a value. -/
inductive IsMember {κ : Type} (Key : κ → List Char → Prop) : κ × List Char → List Char → Prop
  | mk {k : κ} {key ws ws' value : List Char} (hk : Key k key) (hw : Blank ws) (hw' : Blank ws') :
      IsMember Key (k, value) ('"' :: (key ++ '"' :: (ws ++ ':' :: (ws' ++ value))))

/-- A JSON value of any kind and depth, by its form alone. -/
inductive IsValue : List Char → Prop
  | null : IsValue ['n', 'u', 'l', 'l']
  | flag {text : List Char} {b : Bool} (h : FlagOf text b) : IsValue text
  | text {text : List Char} (h : IsText text) : IsValue ('"' :: (text ++ ['"']))
  | numeral {text : List Char} (h : IsNumeral text) : IsValue text
  | negative {text : List Char} (h : IsNumeral text) : IsValue ('-' :: text)
  | list {values : List (List Char)} {text : List Char} (h : Items Eq true values text)
      (hv : ∀ value ∈ values, IsValue value) : IsValue ('[' :: (text ++ [']']))
  | object {members : List (Unit × List Char)} {text : List Char}
      (h : Items (IsMember fun _ => IsText) true members text)
      (hv : ∀ m ∈ members, IsValue m.2) : IsValue ('\x7b' :: (text ++ ['\x7d']))

/-- A list, with the texts of its elements. -/
inductive ListOf (values : List (List Char)) : List Char → Prop
  | mk {text : List Char} (h : Items Eq true values text) (hv : ∀ value ∈ values, IsValue value) :
      ListOf values ('[' :: (text ++ [']']))

/-- An object whose keys stand for strings, with these strings and the texts of their values. -/
inductive ObjectOf (members : List (String × List Char)) : List Char → Prop
  | mk {text : List Char} (h : Items (IsMember fun s key => Spells key s.toList) true members text)
      (hv : ∀ m ∈ members, IsValue m.2) : ObjectOf members ('\x7b' :: (text ++ ['\x7d']))

end StaticHost.Json
