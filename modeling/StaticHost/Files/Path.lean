import StaticHost.Text.Utf8

/-!
Paths: byte strings whose parts are divided by slashes.

Joining keeps the text of both paths. The parent of a path is the path without its last part, and
without the slashes and single dots that would then be at its end; a single dot counts as a part
only at the very start of a path.
-/

namespace StaticHost.Files

/-- A path, absolute if it starts with a slash. -/
abbrev Path := Bytes

abbrev Name := Bytes

namespace Path

def slash : UInt8 := 0x2F
def dot : Name := [0x2E]
def dotDot : Name := [0x2E, 0x2E]

def ofString (s : String) : Path :=
  Bytes.ofString s

def isAbsolute (p : Path) : Bool :=
  p.head? == some slash

/-- The pieces between slashes, empty ones included. -/
def pieces : Path → List Bytes
  | [] => [[]]
  | b :: rest =>
    if b = slash then [] :: pieces rest
    else match pieces rest with
      | [] => [[b]]
      | piece :: more => (b :: piece) :: more

/-- Pieces with slashes between them. -/
def glue : List Bytes → Path
  | [] => []
  | [piece] => piece
  | piece :: rest => piece ++ slash :: glue rest

/-- The parts that a path leads through, from left to right. -/
def components (p : Path) : List Name :=
  (pieces p).filter (! ·.isEmpty)

/-- A path inside a directory; an absolute path stays as it is. -/
def join (base p : Path) : Path :=
  if isAbsolute p then p
  else if base = [] ∨ base.getLast? = some slash then base ++ p
  else base ++ slash :: p

/-- The start of a path that is a part of its own: the root slash, or a leading single dot. -/
def anchor (p : Path) : Bytes :=
  if isAbsolute p then [slash]
  else if (pieces p).head? = some dot then dot
  else []

/-- A piece that is no part behind the start of a path. -/
def isIdle (piece : Bytes) : Bool :=
  piece.isEmpty || piece == dot

def trimIdle (pieces : List Bytes) : List Bytes :=
  (pieces.reverse.dropWhile isIdle).reverse

/-- The path that leads to the last part of `p`, if `p` has a part to take off. -/
def parent (p : Path) : Option Path :=
  let start := anchor p
  let body := trimIdle (pieces (p.drop start.length))
  if body = [] then
    if start = dot then some [] else none
  else some (start ++ glue (trimIdle body.dropLast))

/-- The path, its parent, the parent of that and so on, as far as the empty path, which is left
out. The fuel bounds their number. -/
def ancestorsIn : Nat → Path → List Path
  | 0, _ => []
  | fuel + 1, p =>
    if p = [] then []
    else p :: match parent p with
      | some q => ancestorsIn fuel q
      | none => []

def ancestors (p : Path) : List Path :=
  ancestorsIn (p.length + 1) p

end Path

end StaticHost.Files
