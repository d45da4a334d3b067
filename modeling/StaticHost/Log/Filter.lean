import StaticHost.Log.Event
import StaticHost.Pattern
import StaticHost.Text.Blank

/-!
Filters: which events are logged.

A filter is a list of rules, each a level for the targets that start with a text, and perhaps only
for the events that have a certain field. Of the rules that fit an event the one with the longest
text decides, then one that asks for a field, the last name first; of equal rules the last counts.

A filter is written as directives with commas between them: `level`, `target` or `target=level`,
where `[span{field=value}]` may stand before the `=`, with any of its parts left out. Only
directives without span and value are about events.

A directive is read without the white space around it, but its parts are cut out of the whole text
at the same offsets. Behind white space a cut can therefore fall inside a character; reading then
does not come to an end, neither with a filter nor with a complaint.
-/

namespace StaticHost.Log

/-- Events up to rank `limit` are logged for targets that start with `target`, and with a field of
the given name if there is one. -/
structure Rule where
  target : Bytes
  field : Option Bytes
  limit : Nat
  deriving DecidableEq, Repr

abbrev Filter := List Rule

namespace Rule

def fits (r : Rule) (e : Event) : Bool :=
  r.target.isPrefixOf (Bytes.ofString e.target)
    && r.field.all fun name => (e.fieldNames.map Bytes.ofString).contains name

def overrules (r s : Rule) : Bool :=
  if r.target.length = s.target.length then
    match r.field, s.field with
    | some a, some b => Bytes.le b a
    | none, some _ => false
    | _, none => true
  else s.target.length < r.target.length

end Rule

/-- The rank that a level's name or number stands for. -/
def rank? (text : List Char) : Option Nat :=
  let digits := match text with
    | '+' :: rest => rest
    | _ => text
  let number := Nat.ofDigitChars 10 digits 0
  if ¬ digits.isEmpty ∧ digits.all Char.isDigit ∧ number ≤ 5 then some number
  else
    let names := ["off", "error", "warn", "info", "debug", "trace"].map String.toList
    names.idxOf? (text.map Char.toLower)

structure FieldTest where
  name : Bytes
  /-- Is it asked for with a value? -/
  hasValue : Bool
  deriving DecidableEq, Repr

/-- Is this text a number, with a sign that would be no pattern? -/
def isSignedNumber : List Char → Bool
  | '+' :: text =>
    let whole := text.takeWhile Char.isDigit
    let rest := text.dropWhile Char.isDigit
    let (fraction, rest) := match rest with
      | '.' :: rest => (rest.takeWhile Char.isDigit, rest.dropWhile Char.isDigit)
      | _ => ([], rest)
    let isExponent : List Char → Bool
      | [] => true
      | e :: rest =>
        let digits := match rest with
          | '+' :: rest | '-' :: rest => rest
          | _ => rest
        e.toLower == 'e' && !digits.isEmpty && digits.all Char.isDigit
    (!(whole ++ fraction).isEmpty && isExponent rest)
      || ["inf", "infinity", "nan"].contains (String.ofList (text.map Char.toLower))
  | _ => false

/-- The test that a text spells: a name, or a name, `=` and a value. A value is a number or a
pattern, and what follows another `=` is not looked at. -/
def FieldTest.ofBytes? (text : Bytes) : Option FieldTest :=
  let isMark (b : UInt8) : Bool := b == 0x3D
  let name := text.takeWhile (! isMark ·)
  match text.dropWhile (! isMark ·) with
  | [] => if text.isEmpty then none else some ⟨name, false⟩
  | _ :: rest =>
    let value := Utf8.decodeLossy (rest.takeWhile (! isMark ·))
    if Pattern.isPattern value ∨ isSignedNumber value then some ⟨name, true⟩ else none

/-- What a directive says. Without a level it is about all of them. -/
structure Directive where
  target : Bytes := []
  inSpan : Bool := false
  field : Option FieldTest := none
  limit : Nat := 5
  deriving DecidableEq, Repr

inductive Trouble
  | malformed
  /-- Reading broke off where a part would have started or ended inside a character. -/
  | splitCharacter
  deriving DecidableEq, Repr

namespace Directive

/-- Where the text of a directive stands. The numbers are the offsets at which parts start. -/
inductive Stage
  | start
  | levelOrTarget
  | span (start : Nat)
  | field (start : Nat)
  | endOfField
  | endOfSpan
  | level (start : Nat)
  deriving DecidableEq, Repr

def isStart (c : Char) : Bool :=
  c == '-' || c == ':' || c == '_' || Text.isAlphanumeric c

/-- Does a character start at this offset, or the text end? -/
def isBoundary (text : Bytes) (offset : Nat) : Bool :=
  match text.drop offset with
  | [] => offset == text.length
  | b :: _ => b.toNat / 64 != 2

def slice (text : Bytes) (low high : Nat) : Except Trouble Bytes :=
  if isBoundary text low ∧ isBoundary text high then .ok ((text.take high).drop low)
  else .error .splitCharacter

def step (text : Bytes) (offset : Nat) (c : Char) :
    Stage → Directive → Except Trouble (Stage × Directive)
  | .start, d =>
    if c = '[' then return (.span (offset + 1), d)
    else if isStart c then return (.levelOrTarget, d)
    else throw .malformed
  | .levelOrTarget, d =>
    if c = '=' then return (.level (offset + 1), { d with target := ← slice text 0 offset })
    else if c = '[' then return (.span (offset + 1), { d with target := ← slice text 0 offset })
    else return (.levelOrTarget, d)
  | .span start, d =>
    if c = ']' then do
      let _ ← slice text start offset
      return (.endOfSpan, { d with inSpan := true })
    else if c = '\x7b' then
      return (.field (offset + 1), { d with inSpan := !(← slice text start offset).isEmpty })
    else return (.span start, d)
  | .field start, d =>
    if c = '\x7d' then do
      match FieldTest.ofBytes? (← slice text start offset) with
      | some test => return (.endOfField, { d with field := some test })
      | none => throw .malformed
    else return (.field start, d)
  | .endOfField, d => if c = ']' then return (.endOfSpan, d) else throw .malformed
  | .endOfSpan, d => if c = '=' then return (.level (offset + 1), d) else throw .malformed
  | .level start, d => return (.level start, d)

def scan (text : Bytes) :
    Nat → List Char → Stage → Directive → Except Trouble (Stage × Directive)
  | _, [], stage, d => return (stage, d)
  | offset, c :: rest, stage, d => do
    let (stage, d) ← step text offset c stage d
    scan text (offset + c.utf8Size) rest stage d

/-- The directive when its text ends at some stage. -/
def finish (text : Bytes) : Stage → Directive → Except Trouble Directive
  | .levelOrTarget, d =>
    match rank? (Utf8.decodeLossy text) with
    | some limit => return { d with limit }
    | none => return { d with target := text }
  | .level start, d => do
    match ← slice text start text.length with
    | [] => return d
    | level =>
      match rank? (Utf8.decodeLossy level) with
      | some limit => return { d with limit }
      | none => throw .malformed
  | .endOfSpan, d => return d
  | _, _ => throw .malformed

def ofText (text : List Char) : Except Trouble Directive := do
  let bytes := Utf8.encode text
  let (stage, d) ← scan bytes 0 (Text.trim text) .start {}
  finish bytes stage d

def rule? (d : Directive) : Option Rule :=
  if d.inSpan ∨ d.field.any (·.hasValue) then none
  else some ⟨d.target, d.field.map (·.name), d.limit⟩

end Directive

namespace Filter

def upTo (level : Level) : Filter :=
  [⟨[], none, level.rank⟩]

def prefer (old new : Option Rule) : Option Rule :=
  match old, new with
  | some a, some b => if b.overrules a then some b else some a
  | none, r => r
  | r, none => r

def decisive (f : Filter) (e : Event) : Option Rule :=
  f.foldl (fun best r => prefer best (if r.fits e then some r else none)) none

def allows (f : Filter) (e : Event) : Bool :=
  match f.decisive e with
  | some r => e.level.rank ≤ r.limit
  | none => false

def splitCommas : List Char → List (List Char)
  | [] => [[]]
  | c :: rest =>
    if c = ',' then [] :: splitCommas rest
    else match splitCommas rest with
      | [] => [[c]]
      | piece :: more => (c :: piece) :: more

/-- The filter that a text spells. Its directives are read one after another, up to the first
trouble. Without any directive only errors are logged. -/
def ofText (text : String) : Except Trouble Filter := do
  let pieces := (splitCommas text.toList).filter (! ·.isEmpty)
  if pieces.isEmpty then return upTo .error
  else return (← pieces.mapM Directive.ofText).filterMap Directive.rule?

end Filter

end StaticHost.Log
