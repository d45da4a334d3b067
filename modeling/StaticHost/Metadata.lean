import StaticHost.Json.Compound
import StaticHost.Json.Printer

/-!
What a page says about itself in the head of its document.
-/

namespace StaticHost

structure Metadata where
  title : String
  description : String
  deriving DecidableEq, Repr

namespace Metadata

def site : Metadata where
  title := "Microservices Frontend"
  description := "Frontend scaffold for microservices-project"

def printer (m : Metadata) : Json.Printer :=
  .object [("title", .text m.title), ("description", .text m.description)]

def toJson (m : Metadata) : String :=
  m.printer.run

/-- The fields read so far. -/
structure Draft where
  title : Option String := none
  description : Option String := none

def record : Json.Record Draft Metadata where
  name := "struct Metadata"
  fields := [
    { name := "title"
      isSet := (·.title.isSome)
      read := fun d c => (Json.readText c).map fun (s, c) => ({ d with title := some s }, c) },
    { name := "description"
      isSet := (·.description.isSome)
      read := fun d c =>
        (Json.readText c).map fun (s, c) => ({ d with description := some s }, c) }]
  blank := {}
  finish := fun d => do
    return {
      title := ← Json.required "title" d.title
      description := ← Json.required "description" d.description }

def ofJson (text : String) : Except Json.Error Metadata :=
  Json.decode record.read text

end Metadata

end StaticHost
