import StaticHost.Files.Tree

/-!
A disk: a tree with a working directory, and the operations on it that a program can ask for.

A path is followed from the root or from the working directory, part by part; a single dot stays,
two dots go up, and every part but the last has to lead to a directory. What an operation makes of
the last part is its own affair: reading and writing need a regular file, making a directory needs
a free name. Names have at most 255 bytes, paths less than 4096.

An operation that fails leaves the disk as it was, but for one: removing a directory empties it
first, and may then fail to take it away.
-/

namespace StaticHost.Files

inductive FileError
  | notFound
  | alreadyExists
  | notADirectory
  | isADirectory
  /-- The path has no name at its end. -/
  | invalidArgument
  | nameTooLong
  /-- The path holds a NUL byte. -/
  | nulInPath
  /-- The file is not a text. -/
  | notText
  /-- A failure of the system that no tree of files explains. -/
  | system (code : Nat) (reason : String)
  deriving DecidableEq, Repr

def FileError.message : FileError → String
  | notFound => "No such file or directory (os error 2)"
  | alreadyExists => "File exists (os error 17)"
  | notADirectory => "Not a directory (os error 20)"
  | isADirectory => "Is a directory (os error 21)"
  | invalidArgument => "Invalid argument (os error 22)"
  | nameTooLong => "File name too long (os error 36)"
  | nulInPath => "file name contained an unexpected NUL byte"
  | notText => "stream did not contain valid UTF-8"
  | system code reason => reason ++ " (os error " ++ toString code ++ ")"

structure Disk where
  root : Tree
  /-- The names that lead from the root to the working directory. The empty name, which no entry
  has, stands for a name that was taken away. -/
  cwd : List Name

/-- Where a path leads: to a directory by its dots and slashes alone, or to a name in one. -/
inductive Target
  | place (names : List Name)
  | entry (dir : List Name) (name : Name) (slash : Bool)
  deriving DecidableEq, Repr

namespace Disk

def at? (d : Disk) (place : List Name) : Option Tree :=
  d.root.get? place

/-- The tree behind a name in a directory. A directory that was taken away has no entries and takes
no new ones, and a name can be too long. -/
def entry? (d : Disk) (dir : List Name) (name : Name) : Except FileError (Option Tree) :=
  match d.at? dir with
  | some (.dir entries) =>
    if 255 < name.length then .error .nameTooLong else .ok (Folder.find? entries name)
  | _ => .error .notFound

/-- Follows parts that all have to lead to directories. -/
def walk (d : Disk) : List Name → List Name → Except FileError (List Name)
  | here, [] => .ok here
  | here, part :: rest =>
    if part = Path.dot then d.walk here rest
    else if part = Path.dotDot then d.walk here.dropLast rest
    else match d.entry? here part with
      | .error e => .error e
      | .ok none => .error .notFound
      | .ok (some t) => if t.isDir then d.walk (here ++ [part]) rest else .error .notADirectory

/-- Follows a path up to its last part. -/
def locate (d : Disk) (p : Path) : Except FileError Target :=
  if p.contains 0 then .error .nulInPath
  else if p = [] then .error .notFound
  else if 4096 ≤ p.length then .error .nameTooLong
  else
    let start := if p.isAbsolute then [] else d.cwd
    match p.components.getLast? with
    | none => .ok (.place start)
    | some last => do
      let dir ← d.walk start p.components.dropLast
      if last = Path.dot then return .place dir
      else if last = Path.dotDot then return .place dir.dropLast
      else return .entry dir last (p.getLast? == some Path.slash)

def read (d : Disk) (p : Path) : Except FileError Bytes := do
  match ← d.locate p with
  | .place _ => throw .isADirectory
  | .entry dir name slash =>
    match ← d.entry? dir name with
    | none => throw .notFound
    | some (.dir _) => throw .isADirectory
    | some (.file content) => if slash then throw .notADirectory else return content

def treeAt? (d : Disk) (p : Path) : Option Tree :=
  match d.locate p with
  | .error _ => none
  | .ok (.place place) => d.at? place
  | .ok (.entry dir name slash) =>
    match d.entry? dir name with
    | .ok (some (.file content)) => if slash then none else some (.file content)
    | .ok found => found
    | .error _ => none

def isDir (d : Disk) (p : Path) : Bool :=
  match d.locate p with
  | .error _ => false
  | .ok (.place _) => true
  | .ok (.entry dir name _) =>
    match d.entry? dir name with
    | .ok (some t) => t.isDir
    | _ => false

def put (d : Disk) (dir : List Name) (name : Name) (t : Tree) : Disk :=
  { d with root := d.root.modify (Folder.put name t) dir }

/-- Writes a file, new or in place of an old one. A path that ends in a slash can only name a
directory. -/
def write (d : Disk) (p : Path) (content : Bytes) : Except FileError Disk := do
  match ← d.locate p with
  | .place _ => throw .isADirectory
  | .entry dir name slash =>
    if slash then throw .isADirectory
    match ← d.entry? dir name with
    | some (.dir _) => throw .isADirectory
    | _ => return d.put dir name (.file content)

def makeDir (d : Disk) (p : Path) : Except FileError Disk := do
  match ← d.locate p with
  | .place _ => throw .alreadyExists
  | .entry dir name _ =>
    match ← d.entry? dir name with
    | some _ => throw .alreadyExists
    | none => return d.put dir name (.dir [])

/-- Takes away the names in a directory for which `gone` holds. Who works below one of them stays
there. -/
def erase (d : Disk) (dir : List Name) (gone : Name → Bool) : Disk where
  root := d.root.modify (Folder.erase gone) dir
  cwd :=
    match d.cwd.drop dir.length with
    | [] => d.cwd
    | name :: rest => if dir.isPrefixOf d.cwd ∧ gone name then dir ++ [] :: rest else d.cwd

/-- Takes the directory at a path away. A path that ends in a dot does not say under which name. -/
def detach (d : Disk) (p : Path) : Except FileError Disk := do
  match ← d.locate p with
  | .place _ => throw .invalidArgument
  | .entry dir name _ =>
    match ← d.entry? dir name with
    | none => throw .notFound
    | some (.file _) => throw .notADirectory
    | some (.dir _) => return d.erase dir (· == name)

/-- Empties the directory at a place, and then follows the path that led there once more to take it
away. Where the path leads nowhere by then, because it went through what was in the directory,
nothing is left to do. -/
def removeDir (d : Disk) (p : Path) (place : List Name) : Disk × Except FileError Unit :=
  let d := d.erase place fun _ => true
  match d.detach p with
  | .ok d => (d, .ok ())
  | .error .notFound => (d, .ok ())
  | .error e => (d, .error e)

/-- Takes a file away, or a directory with all that is in it: the disk after that, and whether it
went well. -/
def remove (d : Disk) (p : Path) : Disk × Except FileError Unit :=
  match d.locate p with
  | .error e => (d, .error e)
  | .ok (.place place) => d.removeDir p place
  | .ok (.entry dir name slash) =>
    match d.entry? dir name with
    | .error e => (d, .error e)
    | .ok none => (d, .error .notFound)
    | .ok (some (.dir _)) => d.removeDir p (dir ++ [name])
    | .ok (some (.file _)) =>
      if slash then (d, .error .notADirectory) else (d.erase dir (· == name), .ok ())

end Disk

end StaticHost.Files
