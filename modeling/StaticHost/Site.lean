import StaticHost.Settings.Store
import StaticHost.Manifest
import StaticHost.View

/-!
Building the site: its stylesheets, its pages and its manifest, written to a directory.
-/

namespace StaticHost.Site

open Files (Path)

def manifestName : String := "site.json"

structure Target where
  path : Path
  text : String

def outputPath (s : Settings) : Path :=
  .ofString s.outputDirectory

def pathOf (s : Settings) (name : String) : Path :=
  (outputPath s).join (.ofString name)

def stylesheetTargets (s : Settings) : List Target :=
  Stylesheet.all.map fun sheet => ⟨pathOf s sheet.name, sheet.source⟩

def pageTargets (s : Settings) : List Target :=
  Page.all.map fun page => ⟨pathOf s page.fileName, page.document (Stylesheet.hrefs s.basePath)⟩

def manifest (s : Settings) (now : Time.Instant) : Manifest where
  metadata := .site
  pages := Page.all.map .ofPage
  stylesheets := Stylesheet.hrefs s.basePath
  generatedAt := now

def manifestTarget (s : Settings) (now : Time.Instant) : Target :=
  ⟨pathOf s manifestName, (manifest s now).toJson⟩

/-- All files of a site, in the order they are written. -/
def targets (s : Settings) (now : Time.Instant) : List Target :=
  stylesheetTargets s ++ pageTargets s
    ++ if s.writeManifest then [manifestTarget s now] else []

structure Report where
  outputDirectory : Path
  pages : List Path
  stylesheets : List Path
  manifest : Option Path
  deriving DecidableEq, Repr

def report (s : Settings) : Report where
  outputDirectory := outputPath s
  pages := (pageTargets s).map (·.path)
  stylesheets := (stylesheetTargets s).map (·.path)
  manifest := if s.writeManifest then some (pathOf s manifestName) else none

def writeTarget (t : Target) : Job (Except HostError Unit) := do
  match ← Job.saveText t.path t.text with
  | .ok () => .log (.wroteFile t.path (Bytes.ofString t.text).length) (.done (.ok ()))
  | .error e => return .error e

/-- Writes files one after another, up to the first that fails. -/
def writeTargets : List Target → Job (Except HostError Unit)
  | [] => pure (.ok ())
  | t :: rest => do
    match ← writeTarget t with
    | .ok () => writeTargets rest
    | .error e => return .error e

/-- Builds the site. Nothing is written when the base path is none. -/
def build (s : Settings) (now : Time.Instant) : Job (Except HostError Report) := do
  match s.validate with
  | .error e => return .error e
  | .ok () =>
    match Job.blame (outputPath s) (← Job.makeDirs (outputPath s)) with
    | .error e => return .error e
    | .ok () =>
      match ← writeTargets (targets s now) with
      | .error e => return .error e
      | .ok () =>
        let r := report s
        .log (.builtSite r.outputDirectory r.pages.length r.stylesheets.length) (.done (.ok r))

end StaticHost.Site
