import StaticHost.Metadata
import StaticHost.Page
import StaticHost.Time.Reader

/-!
The manifest of a built site: what was built, and when.
-/

namespace StaticHost

structure ManifestPage where
  route : String
  file : String
  deriving DecidableEq, Repr

structure Manifest where
  metadata : Metadata
  pages : List ManifestPage
  stylesheets : List String
  generatedAt : Time.Instant
  deriving DecidableEq

namespace ManifestPage

def ofPage (p : Page) : ManifestPage :=
  ⟨p.route, p.fileName⟩

def printer (p : ManifestPage) : Json.Printer :=
  .object [("route", .text p.route), ("file", .text p.file)]

structure Draft where
  route : Option String := none
  file : Option String := none

def record : Json.Record Draft ManifestPage where
  name := "struct ManifestPage"
  fields := [
    { name := "route"
      isSet := (·.route.isSome)
      read := fun d c => (Json.readText c).map fun (s, c) => ({ d with route := some s }, c) },
    { name := "file"
      isSet := (·.file.isSome)
      read := fun d c => (Json.readText c).map fun (s, c) => ({ d with file := some s }, c) }]
  blank := {}
  finish := fun d => do
    return { route := ← Json.required "route" d.route, file := ← Json.required "file" d.file }

end ManifestPage

namespace Manifest

def readInstant : Json.Reader Time.Instant :=
  Json.readTextAs "an RFC 3339 formatted date and time string" fun s =>
    (Time.Instant.ofString s).mapError fun e => .refused e.message

def printer (m : Manifest) : Json.Printer :=
  .object [
    ("metadata", m.metadata.printer),
    ("pages", .list (m.pages.map ManifestPage.printer)),
    ("stylesheets", .list (m.stylesheets.map .text)),
    ("generated_at", .text m.generatedAt.toString)]

def toJson (m : Manifest) : String :=
  m.printer.run

structure Draft where
  metadata : Option Metadata := none
  pages : Option (List ManifestPage) := none
  stylesheets : Option (List String) := none
  generatedAt : Option Time.Instant := none

def record : Json.Record Draft Manifest where
  name := "struct SiteManifest"
  fields := [
    { name := "metadata"
      isSet := (·.metadata.isSome)
      read := fun d c =>
        (Metadata.record.read c).map fun (x, c) => ({ d with metadata := some x }, c) },
    { name := "pages"
      isSet := (·.pages.isSome)
      read := fun d c =>
        (Json.readList ManifestPage.record.read c).map fun (x, c) =>
          ({ d with pages := some x }, c) },
    { name := "stylesheets"
      isSet := (·.stylesheets.isSome)
      read := fun d c =>
        (Json.readList Json.readText c).map fun (x, c) => ({ d with stylesheets := some x }, c) },
    { name := "generated_at"
      isSet := (·.generatedAt.isSome)
      read := fun d c => (readInstant c).map fun (x, c) => ({ d with generatedAt := some x }, c) }]
  blank := {}
  finish := fun d => do
    return {
      metadata := ← Json.required "metadata" d.metadata
      pages := ← Json.required "pages" d.pages
      stylesheets := ← Json.required "stylesheets" d.stylesheets
      generatedAt := ← Json.required "generated_at" d.generatedAt }

def ofJson (text : String) : Except Json.Error Manifest :=
  Json.decode record.read text

end Manifest

end StaticHost
