import StaticHost.Files.Path

/-!
Trees of directories and regular files.
-/

namespace StaticHost.Files

/-- What a name in a directory stands for. -/
inductive Tree
  | file (content : Bytes)
  | dir (entries : List (Name × Tree))

abbrev Folder := List (Name × Tree)

namespace Folder

def find? (f : Folder) (name : Name) : Option Tree :=
  f.lookup name

/-- Puts an entry in place of the one with its name, or at the end. -/
def put (name : Name) (t : Tree) : Folder → Folder
  | [] => [(name, t)]
  | e :: rest => if e.1 = name then (name, t) :: rest else e :: put name t rest

/-- Takes the entries away for whose names `gone` holds. -/
def erase (gone : Name → Bool) (f : Folder) : Folder :=
  f.filter (! gone ·.1)

end Folder

namespace Tree

def isDir : Tree → Bool
  | dir _ => true
  | file _ => false

/-- The tree at a place, given by the names that lead there. -/
def get? : List Name → Tree → Option Tree
  | [], t => some t
  | name :: rest, dir entries => (Folder.find? entries name).bind (get? rest)
  | _ :: _, file _ => none

/-- Changes the directory at a place; where there is none, nothing happens. -/
def modify (change : Folder → Folder) : List Name → Tree → Tree
  | [], dir entries => dir (change entries)
  | name :: rest, dir entries =>
    match Folder.find? entries name with
    | some t => dir (Folder.put name (modify change rest t) entries)
    | none => dir entries
  | _, file content => file content

end Tree

end StaticHost.Files
