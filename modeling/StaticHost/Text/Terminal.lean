/-!
Text for a terminal, without its control sequences.

An escape character starts a sequence. A short sequence ends with its first character from `0` on,
a control sequence, which starts with `[`, with its first character from `@` on. A command for the
terminal itself, which starts with `]`, ends at a bell. The strings that start with `P`, `X`, `^`
or `_` end with the byte 9C; those with `P` have a head of parameters, where that byte ends
nothing. Any sequence also ends where the next one starts, and at the characters 18 and 1A.

Of what is left, control characters that do not move the text on are left out too. Those that do
show even within a short or a control sequence, and what follows them shows as well. Whether the
sequence is over then makes a difference at the next control character: in a text it is, but a
stream goes on with it there, unless a character beyond ASCII came first.
-/

namespace StaticHost.Text.Terminal

inductive State
  | ground
  | escape
  | short
  | control
  | command
  | entry
  | parameters
  | intermediate
  | payload
  deriving DecidableEq, Repr

def isMotion (c : Char) : Bool :=
  c == '\t' || c == '\n' || c == '\x0c' || c == '\r'

def isVisible (c : Char) : Bool :=
  isMotion c || (' ' ≤ c && c != '\x7f')

def isWithin (low high c : Char) : Bool :=
  low ≤ c && c ≤ high

def next (s : State) (c : Char) : State :=
  if c = '\x1b' then .escape
  else if c = '\x18' ∨ c = '\x1a' then .ground
  else match s with
  | .ground => .ground
  | .escape =>
    if c = '[' then .control
    else if c = ']' then .command
    else if c = 'P' then .entry
    else if c = 'X' ∨ c = '^' ∨ c = '_' then .payload
    else if isWithin ' ' '/' c then .short
    else if isWithin '0' '~' c then .ground
    else .escape
  | .short => if isWithin '0' '~' c then .ground else .short
  | .control => if isWithin '@' '~' c then .ground else .control
  | .command => if c = '\x07' then .ground else .command
  | .entry =>
    if isWithin ' ' '/' c then .intermediate
    else if isWithin '0' '?' c then .parameters
    else if isWithin '@' '~' c then .payload
    else .entry
  | .parameters =>
    if isWithin ' ' '/' c then .intermediate
    else if isWithin '<' '~' c then .payload
    else .parameters
  | .intermediate => if isWithin '0' '~' c then .payload else .intermediate
  | .payload => if (String.utf8EncodeChar c).contains 0x9C then .ground else .payload

def shows (s : State) (c : Char) : Bool :=
  match s with
  | .ground => isVisible c
  | .escape | .short | .control => isMotion c
  | _ => false

/-- What shows of a text from state `s` on, behind a character that showed or not. -/
def plainFrom (stream shown : Bool) (s : State) : List Char → List Char
  | [] => []
  | c :: rest =>
    if shows (if shown then .ground else s) c then
      c :: plainFrom stream true (if stream ∧ c ≤ '\x7f' then s else .ground) rest
    else plainFrom stream false (next s c) rest

def plain (text : List Char) : List Char :=
  plainFrom false false .ground text

def plainStream (text : List Char) : List Char :=
  plainFrom true false .ground text

end StaticHost.Text.Terminal
