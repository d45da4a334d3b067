/-!
The site's stylesheets and the links to them.
-/

namespace StaticHost

/-- A stylesheet: its path below the directory of stylesheets, and its text. -/
structure Stylesheet where
  name : String
  source : String
  deriving DecidableEq, Repr

/-- A base path without the slashes at its end. -/
def trimSlashes (base : List Char) : List Char :=
  (base.reverse.dropWhile (· == '/')).reverse

namespace Stylesheet

def href (s : Stylesheet) (base : String) : String :=
  String.ofList (trimSlashes base.toList ++ '/' :: s.name.toList)

def globals : Stylesheet where
  name := "globals.css"
  source := ":root \x7b
  color-scheme: light dark;
  font-family: system-ui, -apple-system, \"Segoe UI\", Roboto, sans-serif;
\x7d

html,
body \x7b
  margin: 0;
  padding: 0;
\x7d

main \x7b
  max-width: 960px;
  margin: 0 auto;
  padding: 24px;
\x7d

.container > h1 \x7b
  margin-top: 0;
\x7d
"

def all : List Stylesheet := [globals]

def hrefs (base : String) : List String :=
  all.map (·.href base)

end Stylesheet

end StaticHost
