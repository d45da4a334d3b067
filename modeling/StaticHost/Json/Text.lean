import StaticHost.Json.Cursor

/-!
JSON string literals: reading one, passing over one, and writing one.

The functions that read start behind the opening quote. Reading decodes the escapes and insists
that surrogates come in pairs; passing over checks the escapes' form only.
-/

namespace StaticHost.Json

def hexDigit? (c : Char) : Option Nat :=
  if '0' ≤ c ∧ c ≤ '9' then some (c.toNat - '0'.toNat)
  else if 'a' ≤ c ∧ c ≤ 'f' then some (c.toNat - 'a'.toNat + 10)
  else if 'A' ≤ c ∧ c ≤ 'F' then some (c.toNat - 'A'.toNat + 10)
  else none

def hexQuad? (a b c d : Char) : Option Nat :=
  match hexDigit? a, hexDigit? b, hexDigit? c, hexDigit? d with
  | some a, some b, some c, some d => some (((a * 16 + b) * 16 + c) * 16 + d)
  | _, _, _, _ => none

/-- The character that a backslash and `c` stand for, where `c` is not `u`. -/
def shortEscape? (c : Char) : Option Char :=
  if c = '"' then some '"'
  else if c = '\\' then some '\\'
  else if c = '/' then some '/'
  else if c = 'b' then some '\x08'
  else if c = 'f' then some '\x0c'
  else if c = 'n' then some '\n'
  else if c = 'r' then some '\r'
  else if c = 't' then some '\t'
  else none

def isLeadingSurrogate (n : Nat) : Bool :=
  0xD800 ≤ n && n ≤ 0xDBFF

def isTrailingSurrogate (n : Nat) : Bool :=
  0xDC00 ≤ n && n ≤ 0xDFFF

def joinSurrogates (high low : Nat) : Char :=
  Char.ofNat ((high - 0xD800) * 0x400 + (low - 0xDC00) + 0x10000)

def byteLength (text : List Char) : Nat :=
  text.foldr (fun c n => c.utf8Size + n) 0

/-- What is wrong where four hexadecimal digits should stand: they are not such digits, or the text
ends within four bytes. -/
def hexFault (rest : List Char) (offset : Nat) : Fault :=
  if 4 ≤ byteLength rest then ⟨.invalidEscape, offset + 4⟩
  else ⟨.endInText, offset + byteLength rest⟩

/-- What is wrong where the escape of a trailing surrogate should stand and none is complete. -/
def pairFault (rest : List Char) (offset : Nat) : Fault :=
  match rest with
  | [] => ⟨.endInText, offset⟩
  | '\\' :: [] => ⟨.endInText, offset + 1⟩
  | '\\' :: 'u' :: rest => hexFault rest (offset + 2)
  | '\\' :: _ :: _ => ⟨.unpairedSurrogate, offset + 2⟩
  | _ :: _ => ⟨.unpairedSurrogate, offset + 1⟩

/-- The decoded text up to the closing quote, and the cursor behind that. -/
def scanText : List Char → Nat → Except Fault (List Char × Cursor)
  | [], offset => .error ⟨.endInText, offset⟩
  | '"' :: rest, offset => .ok ([], ⟨rest, offset + 1⟩)
  | '\\' :: 'u' :: a :: b :: c :: d :: rest, offset =>
    match hexQuad? a b c d with
    | none => .error (hexFault (a :: b :: c :: d :: rest) (offset + 2))
    | some high =>
      if isTrailingSurrogate high then .error ⟨.loneSurrogate, offset + 6⟩
      else if isLeadingSurrogate high then
        match rest with
        | '\\' :: 'u' :: e :: f :: g :: h :: rest =>
          match hexQuad? e f g h with
          | none => .error (hexFault (e :: f :: g :: h :: rest) (offset + 8))
          | some low =>
            if isTrailingSurrogate low then
              (scanText rest (offset + 12)).map fun (text, c) =>
                (joinSurrogates high low :: text, c)
            else .error ⟨.loneSurrogate, offset + 12⟩
        | rest => .error (pairFault rest (offset + 6))
      else (scanText rest (offset + 6)).map fun (text, c) => (Char.ofNat high :: text, c)
  | '\\' :: 'u' :: rest, offset => .error (hexFault rest (offset + 2))
  | '\\' :: e :: rest, offset =>
    match shortEscape? e with
    | none => .error ⟨.invalidEscape, offset + 2⟩
    | some x => (scanText rest (offset + 2)).map fun (text, c) => (x :: text, c)
  | ['\\'], offset => .error ⟨.endInText, offset + 1⟩
  | x :: rest, offset =>
    if x.toNat < 0x20 then .error ⟨.controlCharacter, offset + 1⟩
    else (scanText rest (offset + x.utf8Size)).map fun (text, c) => (x :: text, c)

def passText : List Char → Nat → Except Fault Cursor
  | [], offset => .error ⟨.endInText, offset⟩
  | '"' :: rest, offset => .ok ⟨rest, offset + 1⟩
  | '\\' :: 'u' :: a :: b :: c :: d :: rest, offset =>
    match hexQuad? a b c d with
    | none => .error (hexFault (a :: b :: c :: d :: rest) (offset + 2))
    | some _ => passText rest (offset + 6)
  | '\\' :: 'u' :: rest, offset => .error (hexFault rest (offset + 2))
  | '\\' :: e :: rest, offset =>
    match shortEscape? e with
    | none => .error ⟨.invalidEscape, offset + 2⟩
    | some _ => passText rest (offset + 2)
  | ['\\'], offset => .error ⟨.endInText, offset + 1⟩
  | x :: rest, offset =>
    if x.toNat < 0x20 then .error ⟨.controlCharacter, offset⟩
    else passText rest (offset + x.utf8Size)

/-- The written form of one character: only quotes, backslashes and controls are escaped. -/
def escape (c : Char) : List Char :=
  if c = '"' then ['\\', '"']
  else if c = '\\' then ['\\', '\\']
  else if c = '\x08' then ['\\', 'b']
  else if c = '\x0c' then ['\\', 'f']
  else if c = '\n' then ['\\', 'n']
  else if c = '\r' then ['\\', 'r']
  else if c = '\t' then ['\\', 't']
  else if c.toNat < 0x20 then
    ['\\', 'u', '0', '0', Nat.digitChar (c.toNat / 16), Nat.digitChar (c.toNat % 16)]
  else [c]

def literal (text : List Char) : List Char :=
  '"' :: text.flatMap escape ++ ['"']

end StaticHost.Json
