/-!
UTF-8: texts as byte strings, and byte strings as texts.

The decoder is a machine that is fed one byte at a time. Between characters it is `ready`; inside a
character it knows the value so far, the range of the next byte and how many bytes follow that one.
A byte outside the range ends the sequence as ill-formed and is then read as the start of the next
one, so an ill-formed sequence is as long as the longest start of a character found there. Strict
and lossy decoding differ only in what they make of the ill-formed sequences.
-/

namespace StaticHost

/-- A string of bytes: a file's content, a path, a command-line argument. -/
abbrev Bytes := List UInt8

namespace Utf8

/-- Each character in its shortest form, one after another. -/
def encode (text : List Char) : Bytes :=
  text.flatMap String.utf8EncodeChar

/-- Where the decoder stands between two bytes. -/
inductive State
  | ready
  | within (value : Nat) (low high : UInt8) (more : Nat)
  deriving DecidableEq, Repr

/-- A byte at the start of a sequence. `none` in the output marks an ill-formed sequence. -/
def lead (b : UInt8) : List (Option Char) × State :=
  if b < 0x80 then ([some (Char.ofNat b.toNat)], .ready)
  else if b < 0xC2 then ([none], .ready)
  else if b < 0xE0 then ([], .within (b.toNat - 0xC0) 0x80 0xBF 0)
  else if b = 0xE0 then ([], .within 0 0xA0 0xBF 1)
  else if b = 0xED then ([], .within 0xD 0x80 0x9F 1)
  else if b < 0xF0 then ([], .within (b.toNat - 0xE0) 0x80 0xBF 1)
  else if b = 0xF0 then ([], .within 0 0x90 0xBF 2)
  else if b < 0xF4 then ([], .within (b.toNat - 0xF0) 0x80 0xBF 2)
  else if b = 0xF4 then ([], .within 4 0x80 0x8F 2)
  else ([none], .ready)

/-- One byte read in state `s`: what it completes, and the state after it. -/
def feed (s : State) (b : UInt8) : List (Option Char) × State :=
  match s with
  | .ready => lead b
  | .within value low high more =>
    if low ≤ b ∧ b ≤ high then
      let value := value * 64 + b.toNat % 64
      match more with
      | 0 => ([some (Char.ofNat value)], .ready)
      | more + 1 => ([], .within value 0x80 0xBF more)
    else
      let (out, s) := lead b
      (none :: out, s)

/-- What a state leaves behind when the bytes end: an unfinished character is ill-formed. -/
def State.flush : State → List (Option Char)
  | .ready => []
  | .within .. => [none]

/-- The characters and the ill-formed sequences of a byte string, in order, from state `s`. -/
def pieces (s : State) : Bytes → List (Option Char)
  | [] => s.flush
  | b :: rest => (feed s b).1 ++ pieces (feed s b).2 rest

def decode? (bytes : Bytes) : Option (List Char) :=
  (pieces .ready bytes).mapM id

def replacement : Char := Char.ofNat 0xFFFD

/-- The text of any byte string, each ill-formed sequence shown as the replacement character. -/
def decodeLossy (bytes : Bytes) : List Char :=
  (pieces .ready bytes).map (·.getD replacement)

end Utf8

def Bytes.ofString (s : String) : Bytes :=
  Utf8.encode s.toList

/-- Byte strings in the order of a dictionary. -/
def Bytes.le : Bytes → Bytes → Bool
  | [], _ => true
  | _ :: _, [] => false
  | a :: as, b :: bs => a < b || (a == b && Bytes.le as bs)

/-- The text of a byte string, ill-formed sequences replaced. -/
def Bytes.show (b : Bytes) : String :=
  String.ofList (Utf8.decodeLossy b)

def Bytes.toString? (b : Bytes) : Option String :=
  (Utf8.decode? b).map String.ofList

end StaticHost
