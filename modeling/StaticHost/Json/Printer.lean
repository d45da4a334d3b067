import StaticHost.Json.Text

/-!
Writing JSON over several lines: two blanks for each level, one element or member a line, and
nothing between the brackets of an empty list.
-/

namespace StaticHost.Json

/-- A value to be written, given the level it stands at. -/
abbrev Printer := Nat → List Char

namespace Printer

def newline (level : Nat) : List Char :=
  '\n' :: List.replicate (2 * level) ' '

/-- Items on lines of their own, with commas between them. -/
def lines (level : Nat) : List (List Char) → List Char
  | [] => []
  | [item] => newline level ++ item
  | item :: rest => newline level ++ item ++ ',' :: lines level rest

def text (s : String) : Printer := fun _ =>
  literal s.toList

def flag (b : Bool) : Printer := fun _ =>
  if b then ['t', 'r', 'u', 'e'] else ['f', 'a', 'l', 's', 'e']

def list (items : List Printer) : Printer := fun level =>
  if items.isEmpty then ['[', ']']
  else '[' :: lines (level + 1) (items.map (· (level + 1))) ++ newline level ++ [']']

def object (members : List (String × Printer)) : Printer := fun level =>
  '\x7b' :: lines (level + 1)
      (members.map fun (name, value) => literal name.toList ++ [':', ' '] ++ value (level + 1))
    ++ newline level ++ ['\x7d']

def run (p : Printer) : String :=
  String.ofList (p 0)

end Printer

end StaticHost.Json
