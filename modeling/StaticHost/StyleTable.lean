import StaticHost.Files.Disk
import StaticHost.Text.Quoted

/-!
The table of stylesheets: a source text that lists the stylesheets below a directory, in an order
that does not depend on how directories happen to list their entries.
-/

namespace StaticHost.StyleTable

open Files (Name Path Tree Disk FileError)

/-- Is this the name of a stylesheet: `.css` with something before it? -/
def isStylesheetName (name : Name) : Bool :=
  let suffix := Bytes.ofString ".css"
  suffix.length < name.length && suffix.isSuffixOf name

def sortByName (entries : List (Name × α)) : List (Name × α) :=
  entries.mergeSort fun a b => Bytes.le a.1 b.1

mutual

/-- The stylesheets below a directory, each as the names that lead to it. A directory's entries
are visited in the order of their names, and what is in a directory right after it. -/
def stylesheetsIn : Tree → List (List Name)
  | .file _ => []
  | .dir entries =>
    (sortByName (visitEntries entries)).flatMap fun (name, found) => found.map (name :: ·)

/-- For each entry, the stylesheets it stands for, as the names that follow its own. -/
def visitEntries : List (Name × Tree) → List (Name × List (List Name))
  | [] => []
  | (name, .file _) :: rest =>
    (name, if isStylesheetName name then [[]] else []) :: visitEntries rest
  | (name, .dir entries) :: rest => (name, stylesheetsIn (.dir entries)) :: visitEntries rest

end

structure Entry where
  name : String
  path : String
  deriving DecidableEq, Repr

def Entry.ofNames (base : Path) (names : List Name) : Entry where
  name := "/".intercalate (names.map Bytes.show)
  path := Bytes.show (names.foldl Path.join base)

def Entry.line (e : Entry) : String :=
  "    Stylesheet \x7b name: " ++ quoted e.name
    ++ ", source: include_str!(" ++ quoted e.path ++ ") \x7d,\n"

def text (entries : List Entry) : String :=
  "pub const STYLESHEETS: &[Stylesheet] = &[\n" ++ String.join (entries.map Entry.line) ++ "];\n"

/-- The table for the directory at a path; it is empty if there is none. -/
def generate (base : Path) (found : Option Tree) : String :=
  text (((found.map stylesheetsIn).getD []).map (Entry.ofNames base))

inductive Fault
  | unset (name : String)
  | unwritten (reason : FileError)
  deriving DecidableEq, Repr

/-- An error of a file operation, part by part. -/
def describeError : FileError → String
  | .notFound => system 2 "NotFound" "No such file or directory"
  | .alreadyExists => system 17 "AlreadyExists" "File exists"
  | .notADirectory => system 20 "NotADirectory" "Not a directory"
  | .isADirectory => system 21 "IsADirectory" "Is a directory"
  | .invalidArgument => system 22 "InvalidInput" "Invalid argument"
  | .nameTooLong => system 36 "InvalidFilename" "File name too long"
  | .nulInPath => simple "InvalidInput" FileError.nulInPath.message
  | .notText => simple "InvalidData" FileError.notText.message
  | .system code reason => system code "Uncategorized" reason
where
  system (code : Nat) (kind reason : String) : String :=
    "Os \x7b code: " ++ toString code ++ ", kind: " ++ kind ++ ", message: " ++ quoted reason
      ++ " \x7d"
  simple (kind reason : String) : String :=
    "Error \x7b kind: " ++ kind ++ ", message: " ++ quoted reason ++ " \x7d"

def Fault.message : Fault → String
  | .unset name => name ++ " is set by cargo: NotPresent"
  | .unwritten reason => "failed to write stylesheets.rs to OUT_DIR: " ++ describeError reason

/-- A run of the generator: what it printed, the disk it left, and what stopped it, if anything. -/
structure Run where
  output : String
  disk : Disk
  fault : Option Fault

def run (project output : Option Path) (d : Disk) : Run :=
  match project with
  | none => ⟨"", d, some (.unset "CARGO_MANIFEST_DIR")⟩
  | some project =>
    let base := project.join (.ofString "styles")
    let printed := "cargo:rerun-if-changed=" ++ Bytes.show base ++ "\n"
    match output with
    | none => ⟨printed, d, some (.unset "OUT_DIR")⟩
    | some output =>
      match d.write (output.join (.ofString "stylesheets.rs"))
          (Bytes.ofString (generate base (d.treeAt? base))) with
      | .ok d => ⟨printed, d, none⟩
      | .error reason => ⟨printed, d, some (.unwritten reason)⟩

end StaticHost.StyleTable
