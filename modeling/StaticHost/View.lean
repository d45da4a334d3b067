import StaticHost.Markup.Render
import StaticHost.Metadata
import StaticHost.Page
import StaticHost.Stylesheet

/-!
Views: markup with components in it, and the documents made of them.

A component stands for a piece of markup that depends on its properties; expanding a view puts that
markup in its place.
-/

namespace StaticHost

open Markup

inductive View
  | empty
  | text (content : String)
  | append (first second : View)
  | element (tag : String) (attributes : List Attribute) (control : Control) (children : View)
  /-- A button with a label. -/
  | button (label : View)
  /-- The outermost structure of a document: what stands before its body, and the body. -/
  | layout (head body : View)
  /-- The head of a document. -/
  | documentHead (metadata : Metadata) (stylesheets : List String)
  | homePage
  | notFoundPage
  /-- The whole document of a page. -/
  | app (page : Page) (metadata : Metadata) (stylesheets : List String)
  deriving DecidableEq, Inhabited, Repr

namespace View

def ofList : List View → View
  | [] => empty
  | v :: rest => append v (ofList rest)

def buttonNode (label : Node) : Node :=
  .tag "button" [("type", "button"), ("style", "padding:8px 12px;border-radius:6px")] [label]

def layoutNode (head body : Node) : Node :=
  .tag "html" [("lang", "en")] [head, .tag "body" [] [.tag "main" [] [body]]]

def stylesheetLink (href : String) : Node :=
  .tag "link" [("rel", "stylesheet"), ("href", href)] []

def headNode (metadata : Metadata) (stylesheets : List String) : Node :=
  .tag "head" [] ([
    .tag "meta" [("charset", "utf-8")] [],
    .tag "meta" [("name", "viewport"), ("content", "width=device-width, initial-scale=1")] [],
    .tag "title" [] [.text metadata.title],
    .tag "meta" [("name", "description"), ("content", metadata.description)] []]
    ++ stylesheets.map stylesheetLink)

def homeNode : Node :=
  .tag "div" [("id", "home-container"), ("class", "container")] [
    .tag "h1" [] [.text "Microservices Frontend"],
    .tag "p" [] [.text "Frontend scaffold for microservices-project."],
    buttonNode (.text "Get started")]

def notFoundNode : Node :=
  .tag "div" [("id", "not-found-container"), ("class", "container")] [
    .tag "h1" [] [.text "Page not found"],
    .tag "p" [] [.text "The page you requested does not exist."]]

def pageNode : Page → Node
  | .home => homeNode
  | .notFound => notFoundNode

def expand : View → Node
  | empty => .empty
  | text s => .text s
  | append first second => .append first.expand second.expand
  | element tag attributes control children => .element tag attributes control children.expand
  | button label => buttonNode label.expand
  | layout head body => layoutNode head.expand body.expand
  | documentHead metadata stylesheets => headNode metadata stylesheets
  | homePage => homeNode
  | notFoundPage => notFoundNode
  | app page metadata stylesheets => layoutNode (headNode metadata stylesheets) (pageNode page)

def render (v : View) : String :=
  v.expand.render

end View

def Page.document (p : Page) (stylesheets : List String) : String :=
  "<!DOCTYPE html>" ++ (View.app p .site stylesheets).render

end StaticHost
