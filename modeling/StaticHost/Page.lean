import StaticHost.Json.Compound
import StaticHost.Json.Printer

/-!
The pages of the site: their routes, their files and their names in JSON.
-/

namespace StaticHost

inductive Page
  | home
  | notFound
  deriving DecidableEq, Repr

namespace Page

/-- Every page, in the order they are built. -/
def all : List Page := [home, notFound]

/-- The token that names the page. -/
def route : Page → String
  | home => "home"
  | notFound => "not-found"

/-- The page that a route leads to. The home page has several routes, and every route that no page
has leads to the page that says so. -/
def ofRoute (route : String) : Page :=
  if route = "home" ∨ route = "" ∨ route = "/" ∨ route = "index" then home else notFound

def fileName : Page → String
  | home => "index.html"
  | notFound => "404.html"

def toJson (p : Page) : String :=
  (Json.Printer.text p.route).run

def ofJson (text : String) : Except Json.Error Page :=
  Json.decode (Json.readChoice [("home", home), ("not-found", notFound)]) text

end Page

end StaticHost
