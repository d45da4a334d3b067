import StaticHost.Json.Skip

/-!
Readers of single values: strings, booleans and `null`, and the fault when something else is there.
-/

namespace StaticHost.Json

/-- The fault when the value ahead, of whatever kind, is not the expected one. Scalars are read to
their end first, and a fault found there comes before this one. -/
def mismatch (expected : String) (c : Cursor) : Fault :=
  let after (found : Found) : Except Fault Cursor → Fault
    | .ok c => c.fault (.wrongType found expected)
    | .error f => f
  let number (negative : Bool) (c : Cursor) : Fault :=
    match scanNumeral .endInValue c with
    | .error f => f
    | .ok (n, c) =>
      match n.value negative c with
      | .ok found => c.fault (.wrongType found expected)
      | .error f => f
  match c.rest with
  | [] => c.faultAhead .endInValue
  | x :: rest =>
    let next : Cursor := ⟨rest, c.offset + 1⟩
    if x = 'n' then after .null (passLetters ['u', 'l', 'l'] next)
    else if x = 't' then after (.boolean true) (passLetters ['r', 'u', 'e'] next)
    else if x = 'f' then after (.boolean false) (passLetters ['a', 'l', 's', 'e'] next)
    else if x = '-' then number true next
    else if x.isDigit then number false c
    else if x = '"' then
      match scanText rest (c.offset + 1) with
      | .ok (text, c) => c.fault (.wrongType (.text (String.ofList text)) expected)
      | .error f => f
    else if x = '[' then c.fault (.wrongType .sequence expected)
    else if x = '\x7b' then c.fault (.wrongType .map expected)
    else c.faultAhead .expectedValue

/-- A string, handed to `accept`; what `accept` refuses is a fault behind the string. -/
def readTextAs (expected : String) (accept : String → Except Problem α) : Reader α := fun c =>
  let c := c.skipSpace
  match c.rest with
  | '"' :: rest => do
    let (text, c) ← scanText rest (c.offset + 1)
    match accept (String.ofList text) with
    | .ok a => return (a, c)
    | .error p => throw (c.fault p)
  | _ => .error (mismatch expected c)

def readText : Reader String :=
  readTextAs "a string" .ok

def readFlag : Reader Bool := fun c =>
  let c := c.skipSpace
  match c.rest with
  | 't' :: rest => (passLetters ['r', 'u', 'e'] ⟨rest, c.offset + 1⟩).map ((true, ·))
  | 'f' :: rest => (passLetters ['a', 'l', 's', 'e'] ⟨rest, c.offset + 1⟩).map ((false, ·))
  | _ => .error (mismatch "a boolean" c)

def passNull (c : Cursor) : Except Fault Cursor :=
  let c := c.skipSpace
  match c.rest with
  | 'n' :: rest => passLetters ['u', 'l', 'l'] ⟨rest, c.offset + 1⟩
  | _ => .error (mismatch "unit" c)

/-- A whole text: one value, and nothing but white space around it. -/
def decode (read : Reader α) (text : String) : Except Error α :=
  let result : Except Fault α := do
    let (a, c) ← read ⟨text.toList, 0⟩
    let c := c.skipSpace
    if c.rest.isEmpty then return a else throw (c.faultAhead .trailingCharacters)
  result.mapError (·.locate text.toList)

end StaticHost.Json
