import StaticHost.Json.Text
import StaticHost.Json.Number

/-!
Passing over a JSON value of any kind and depth, checking its form and nothing else.
-/

namespace StaticHost.Json

def passLetters : List Char → Cursor → Except Fault Cursor
  | [], c => .ok c
  | letter :: letters, c =>
    match c.rest with
    | [] => .error (c.fault .endInValue)
    | x :: rest =>
      if x = letter then passLetters letters ⟨rest, c.offset + 1⟩
      else .error (c.faultAhead .expectedIdent)

def passColon (c : Cursor) : Except Fault Cursor :=
  let c := c.skipSpace
  match c.rest with
  | ':' :: rest => .ok ⟨rest, c.offset + 1⟩
  | [] => .error (c.faultAhead .endInObject)
  | _ => .error (c.faultAhead .expectedColon)

def passNumber (c : Cursor) : Except Fault Cursor :=
  (scanNumeral .invalidNumber c).map (·.2)

mutual

/-- A value. The fuel bounds how many values and containers are entered. -/
def passValueIn : Nat → Cursor → Except Fault Cursor
  | 0, c => .error (c.faultAhead .endInValue)
  | fuel + 1, c =>
    let c := c.skipSpace
    match c.rest with
    | [] => .error (c.faultAhead .endInValue)
    | x :: rest =>
      let next : Cursor := ⟨rest, c.offset + 1⟩
      if x = 'n' then passLetters ['u', 'l', 'l'] next
      else if x = 't' then passLetters ['r', 'u', 'e'] next
      else if x = 'f' then passLetters ['a', 'l', 's', 'e'] next
      else if x = '"' then passText rest (c.offset + 1)
      else if x = '-' then passNumber next
      else if x.isDigit then passNumber c
      else if x = '[' then passElements fuel true next
      else if x = '\x7b' then passMembers fuel true next
      else .error (c.faultAhead .expectedValue)

def passElements : Nat → Bool → Cursor → Except Fault Cursor
  | 0, _, c => .error (c.faultAhead .endInList)
  | fuel + 1, first, c =>
    let c := c.skipSpace
    match c.rest with
    | [] => .error (c.faultAhead .endInList)
    | x :: rest =>
      let next : Cursor := ⟨rest, c.offset + 1⟩
      if x = ']' then .ok next
      else if first then (passValueIn fuel c).bind (passElements fuel false)
      else if x = ',' then (passValueIn fuel next).bind (passElements fuel false)
      else .error (c.faultAhead .expectedListCommaOrEnd)

def passMembers : Nat → Bool → Cursor → Except Fault Cursor
  | 0, _, c => .error (c.faultAhead .endInObject)
  | fuel + 1, first, c =>
    let c := c.skipSpace
    match c.rest with
    | [] => .error (c.faultAhead .endInObject)
    | x :: rest =>
      if x = '\x7d' then .ok ⟨rest, c.offset + 1⟩
      else if first then (passMember fuel c).bind (passMembers fuel false)
      else if x = ',' then (passMember fuel ⟨rest, c.offset + 1⟩).bind (passMembers fuel false)
      else .error (c.faultAhead .expectedObjectCommaOrEnd)

def passMember : Nat → Cursor → Except Fault Cursor
  | 0, c => .error (c.faultAhead .endInObject)
  | fuel + 1, c =>
    let c := c.skipSpace
    match c.rest with
    | [] => .error (c.faultAhead .endInObject)
    | x :: rest =>
      if x = '"' then
        ((passText rest (c.offset + 1)).bind passColon).bind (passValueIn fuel)
      else .error (c.faultAhead .keyMustBeText)

end

/-- A value of any kind. Each unit of fuel but the last three is used up by a character. -/
def passValue (c : Cursor) : Except Fault Cursor :=
  passValueIn (3 * c.rest.length + 3) c

end StaticHost.Json
