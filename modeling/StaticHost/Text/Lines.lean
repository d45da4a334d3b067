/-!
Lines of a text. A line feed ends a line, together with a carriage return right before it; what
follows the last line feed is a line only if there is something.
-/

namespace StaticHost.Text

/-- The lines of a text, without what ends them. -/
def lines : List Char → List (List Char)
  | [] => []
  | '\r' :: '\n' :: rest => [] :: lines rest
  | '\n' :: rest => [] :: lines rest
  | c :: rest =>
    match lines rest with
    | [] => [[c]]
    | line :: more => (c :: line) :: more

def firstLine (text : String) : String :=
  String.ofList ((lines text.toList).headD [])

end StaticHost.Text
