import StaticHost.Json.Value

/-!
Readers of compound values: lists, records and choices.

A record is an object with known keys, each at most once, in any order; other keys are passed over.
It may also be a list of the values in the order of the fields. A choice is one of several names,
written as a string or as the only key of an object, with the value `null`.

A record that lacks a field, or repeats one, is at fault where its end was looked for: behind the
white space and the closing bracket that follow what was read.
-/

namespace StaticHost.Json

/-- The end of a list: where looking for it leads, and what is wrong there, if anything. -/
def closeList (c : Cursor) : Cursor × Option Problem :=
  let c := c.skipSpace
  match c.rest with
  | [] => (c, some .endInList)
  | ']' :: rest => (⟨rest, c.offset + 1⟩, none)
  | ',' :: rest =>
    let c := Cursor.skipSpace ⟨rest, c.offset + 1⟩
    (c, some (if c.rest.head? = some ']' then .trailingComma else .trailingCharacters))
  | _ => (c, some .trailingCharacters)

/-- The end of an object: where looking for it leads, and what is wrong there, if anything. -/
def closeObject (c : Cursor) : Cursor × Option Problem :=
  let c := c.skipSpace
  match c.rest with
  | [] => (c, some .endInObject)
  | '\x7d' :: rest => (⟨rest, c.offset + 1⟩, none)
  | ',' :: _ => (c, some .trailingComma)
  | _ => (c, some .trailingCharacters)

/-- The value `a`, if the end of its container was found. -/
def closed (a : α) : Cursor × Option Problem → Except Fault (α × Cursor)
  | (c, none) => .ok (a, c)
  | (c, some p) => .error (c.faultAhead p)

/-- Is there another element? The cursor stands before it, or before the closing bracket. -/
def nextElement (first : Bool) (c : Cursor) : Except Fault (Bool × Cursor) :=
  let c := c.skipSpace
  match c.rest with
  | [] => .error (c.faultAhead .endInList)
  | x :: rest =>
    if x = ']' then .ok (false, c)
    else if first then .ok (true, c)
    else if x = ',' then
      let c := Cursor.skipSpace ⟨rest, c.offset + 1⟩
      match c.rest with
      | [] => .error (c.faultAhead .endInValue)
      | ']' :: _ => .error (c.faultAhead .trailingComma)
      | _ => .ok (true, c)
    else .error (c.faultAhead .expectedListCommaOrEnd)

/-- The key of the next member, if there is one. The cursor stands behind the key, or before the
closing brace. -/
def nextKey (first : Bool) (c : Cursor) : Except Fault (Option String × Cursor) :=
  let key (c : Cursor) (rest : List Char) : Except Fault (Option String × Cursor) :=
    (scanText rest (c.offset + 1)).map fun (text, c) => (some (String.ofList text), c)
  let c := c.skipSpace
  match c.rest with
  | [] => .error (c.faultAhead .endInObject)
  | x :: rest =>
    if x = '\x7d' then .ok (none, c)
    else if first then
      if x = '"' then key c rest else .error (c.faultAhead .keyMustBeText)
    else if x = ',' then
      let c := Cursor.skipSpace ⟨rest, c.offset + 1⟩
      match c.rest with
      | [] => .error (c.faultAhead .endInValue)
      | '"' :: rest => key c rest
      | '\x7d' :: _ => .error (c.faultAhead .trailingComma)
      | _ => .error (c.faultAhead .keyMustBeText)
    else .error (c.faultAhead .expectedObjectCommaOrEnd)

/-- The elements of a list up to its closing bracket. The fuel bounds their number. -/
def readElements (read : Reader α) : Nat → Bool → Cursor → Except Fault (List α × Cursor)
  | 0, _, c => .error (c.faultAhead .endInList)
  | fuel + 1, first, c =>
    match nextElement first c with
    | .error f => .error f
    | .ok (false, c) => .ok ([], c)
    | .ok (true, c) => do
      let (a, c) ← read c
      let (rest, c) ← readElements read fuel false c
      return (a :: rest, c)

def readList (read : Reader α) : Reader (List α) := fun c =>
  let c := c.skipSpace
  match c.rest with
  | '[' :: rest => do
    let (elements, c) ← readElements read (rest.length + 1) true ⟨rest, c.offset + 1⟩
    closed elements (closeList c)
  | _ => .error (mismatch "a sequence" c)

/-- A field of a record that is being read into a draft `δ`. -/
structure Field (δ : Type) where
  name : String
  isSet : δ → Bool
  read : δ → Reader δ
  /-- May the field be absent? -/
  optional : Bool := false

/-- How a record `α` is read: its fields fill a draft, and the finished draft gives the record or
the name of a missing field. -/
structure Record (δ α : Type) where
  name : String
  fields : List (Field δ)
  blank : δ
  finish : δ → Except String α

namespace Record

/-- The members of a record, up to its closing brace. The fuel bounds their number. -/
def readMembers (r : Record δ α) : Nat → Bool → δ → Cursor → Except Fault (δ × Cursor)
  | 0, _, _, c => .error (c.faultAhead .endInObject)
  | fuel + 1, first, draft, c =>
    match nextKey first c with
    | .error f => .error f
    | .ok (none, c) => .ok (draft, c)
    | .ok (some key, c) =>
      match r.fields.find? (·.name == key) with
      | some field =>
        if field.isSet draft then .error ((closeObject c).1.fault (.duplicateField key))
        else do
          let (draft, c) ← field.read draft (← passColon c)
          r.readMembers fuel false draft c
      | none => do
        let c ← passValue (← passColon c)
        r.readMembers fuel false draft c

/-- How the length of the list form is described. -/
def lengthText (r : Record δ α) : String :=
  r.name ++ " with " ++ toString r.fields.length ++ " elements"

/-- The values of the fields from the `index`-th on, up to the closing bracket. -/
def readPositional (r : Record δ α) :
    List (Field δ) → Nat → δ → Cursor → Except Fault (δ × Cursor)
  | [], _, draft, c => .ok (draft, c)
  | field :: fields, index, draft, c =>
    match nextElement (index == 0) c with
    | .error f => .error f
    | .ok (false, c) =>
      if field.optional then r.readPositional fields (index + 1) draft c
      else .error ((closeList c).1.fault (.wrongLength index r.lengthText))
    | .ok (true, c) => do
      let (draft, c) ← field.read draft c
      r.readPositional fields (index + 1) draft c

/-- The finished record, or the fault of the missing field, once the end has been looked for. -/
def complete (r : Record δ α) (draft : δ) (c : Cursor × Option Problem) :
    Except Fault (α × Cursor) :=
  match r.finish draft with
  | .ok a => closed a c
  | .error name => .error (c.1.fault (.missingField name))

def read (r : Record δ α) : Reader α := fun c =>
  let c := c.skipSpace
  match c.rest with
  | '\x7b' :: rest => do
    let (draft, c) ← r.readMembers (rest.length + 1) true r.blank ⟨rest, c.offset + 1⟩
    r.complete draft (closeObject c)
  | '[' :: rest => do
    let (draft, c) ← r.readPositional r.fields 0 r.blank ⟨rest, c.offset + 1⟩
    r.complete draft (closeList c)
  | _ => .error (mismatch r.name c)

end Record

/-- The value of a field that a record cannot do without. -/
def required (name : String) : Option α → Except String α
  | some a => .ok a
  | none => .error name

def readChoice (choices : List (String × α)) : Reader α := fun c =>
  let variant : Reader α := readTextAs "variant identifier" fun name =>
    match choices.lookup name with
    | some a => .ok a
    | none => .error (.unknownVariant name (choices.map (·.1)))
  let member : Reader α := fun c => do
    let (a, c) ← variant c
    let c ← passNull (← passColon c)
    let c := c.skipSpace
    match c.rest with
    | '\x7d' :: rest => return (a, ⟨rest, c.offset + 1⟩)
    | [] => throw (c.fault .endInObject)
    | _ => throw (c.fault .expectedValue)
  let c := c.skipSpace
  match c.rest with
  | [] => .error (c.faultAhead .endInValue)
  | '\x7b' :: rest =>
    let c := Cursor.skipSpace ⟨rest, c.offset + 1⟩
    match c.rest with
    | [] => .error (c.faultAhead .endInObject)
    | '"' :: _ => member c
    | '\x7d' :: _ => .error (c.faultAhead .expectedValue)
    | _ => .error (c.faultAhead .keyMustBeText)
  | '"' :: _ => variant c
  | _ => .error (c.faultAhead .expectedValue)

end StaticHost.Json
