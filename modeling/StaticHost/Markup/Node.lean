/-!
Markup trees: text, elements and nodes one after another.

The nodes inside an element, like those of a whole fragment, form one node: `append` puts two in a
row and `empty` is none at all, so every walk over a tree is a plain structural recursion.
-/

namespace StaticHost.Markup

abbrev Attribute := String × String

/-- The state of a form control, which only `input` and `textarea` elements show. -/
structure Control where
  value : Option String := none
  checked : Bool := false
  deriving DecidableEq, Repr

inductive Node
  | empty
  | text (content : String)
  | append (first second : Node)
  | element (tag : String) (attributes : List Attribute) (control : Control) (children : Node)
  deriving DecidableEq, Repr

namespace Node

def ofList : List Node → Node
  | [] => empty
  | n :: rest => append n (ofList rest)

/-- An element that is no form control. -/
def tag (name : String) (attributes : List Attribute) (children : List Node) : Node :=
  element name attributes {} (ofList children)

end Node

/-- Sets an attribute: in its old place if the name is known, else at the end. -/
def setAttribute (attributes : List Attribute) (a : Attribute) : List Attribute :=
  match attributes with
  | [] => [a]
  | b :: rest => if b.1 = a.1 then a :: rest else b :: setAttribute rest a

/-- Attributes with distinct names: each at its first place, with its last value. -/
def mergeAttributes (attributes : List Attribute) : List Attribute :=
  attributes.foldl setAttribute []

end StaticHost.Markup
