import StaticHost.Markup.Node
import StaticHost.Markup.Escape

/-!
Markup as text.

An element is its start tag, its children and its end tag. A void element is a start tag only. An
`input`, in any letter case, is a start tag that shows its control before the attributes; a
`textarea` has its control's value for its text. Neither shows its children.
-/

namespace StaticHost.Markup

/-- The elements that have neither children nor an end tag. -/
def voidTags : List String :=
  ["area", "base", "br", "col", "embed", "hr", "img", "input", "link", "meta", "param", "source",
    "track", "wbr"]

/-- What the name of an element says about it. -/
inductive TagKind
  | input
  | textarea
  | void
  | container (content : Content)
  deriving DecidableEq, Repr

def TagKind.ofName (name : String) : TagKind :=
  let lower := name.toList.map Char.toLower
  if lower = "input".toList then .input
  else if lower = "textarea".toList then .textarea
  else if voidTags.contains name then .void
  else if lower = "script".toList then .container .script
  else if lower = "style".toList then .container .style
  else .container .ordinary

def renderAttribute (a : Attribute) : List Char :=
  ' ' :: a.1.toList ++ '=' :: '"' :: escapeValue a.2.toList ++ ['"']

def renderAttributes (attributes : List Attribute) : List Char :=
  (mergeAttributes attributes).flatMap renderAttribute

def startTag (name : List Char) (inside : List Char) : List Char :=
  '<' :: name ++ inside ++ ['>']

def endTag (name : List Char) : List Char :=
  '<' :: '/' :: name ++ ['>']

def renderControl (control : Control) : List Char :=
  (match control.value with
    | some value => renderAttribute ("value", value)
    | none => []) ++
  if control.checked then " checked".toList else []

def Node.renderIn (content : Content) : Node → List Char
  | .empty => []
  | .text s => content.write s.toList
  | .append first second => first.renderIn content ++ second.renderIn content
  | .element name attributes control children =>
    match TagKind.ofName name with
    | .input => startTag "input".toList (renderControl control ++ renderAttributes attributes)
    | .textarea =>
      startTag "textarea".toList (renderAttributes attributes)
        ++ escapeText (control.value.getD "").toList ++ endTag "textarea".toList
    | .void => startTag name.toList (renderAttributes attributes)
    | .container inner =>
      startTag name.toList (renderAttributes attributes) ++ children.renderIn inner
        ++ endTag name.toList

def Node.render (n : Node) : String :=
  String.ofList (n.renderIn .ordinary)

end StaticHost.Markup
