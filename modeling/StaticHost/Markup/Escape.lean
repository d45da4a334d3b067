/-!
How text is written inside markup.

Ordinary text and attribute values use character references. The text of a script or a style sheet
is not markup and is kept, but for a backslash that keeps it from being taken for a comment or for
the end of its own element.
-/

namespace StaticHost.Markup

inductive Content
  | ordinary
  | script
  | style
  deriving DecidableEq, Repr

def escapeTextChar (c : Char) : List Char :=
  if c = '&' then ['&', 'a', 'm', 'p', ';']
  else if c = '<' then ['&', 'l', 't', ';']
  else if c = '>' then ['&', 'g', 't', ';']
  else [c]

def escapeText (text : List Char) : List Char :=
  text.flatMap escapeTextChar

def escapeValueChar (c : Char) : List Char :=
  if c = '"' then ['&', 'q', 'u', 'o', 't', ';'] else escapeTextChar c

/-- The value of an attribute, which stands between double quotes. -/
def escapeValue (text : List Char) : List Char :=
  text.flatMap escapeValueChar

/-- A character behind which a tag's name has ended. -/
def endsName (c : Char) : Bool :=
  let n := c.toNat
  c == '/' || c == '>' || (9 ≤ n && n ≤ 13) || (28 ≤ n && n ≤ 32)

/-- Do the characters behind a `<` start an end tag with the given lower-case name? -/
def startsEndTag (name : List Char) (rest : List Char) : Bool :=
  match rest with
  | '/' :: rest =>
    (rest.take name.length).map Char.toLower == name && (rest.drop name.length).head?.any endsName
  | _ => false

/-- Do the characters behind a `<` start a comment, or the end tag called `name`? -/
def isBreakout (name : List Char) (rest : List Char) : Bool :=
  ['!', '-', '-'].isPrefixOf rest || startsEndTag name rest

/-- The text of a script or a style sheet in the element called `name`. -/
def guardText (name : List Char) : List Char → List Char
  | [] => []
  | c :: rest =>
    if c = '<' ∧ isBreakout name rest then '<' :: '\\' :: guardText name rest
    else c :: guardText name rest

def Content.write (content : Content) (text : List Char) : List Char :=
  match content with
  | .ordinary => escapeText text
  | .script => guardText ['s', 'c', 'r', 'i', 'p', 't'] text
  | .style => guardText ['s', 't', 'y', 'l', 'e'] text

end StaticHost.Markup
