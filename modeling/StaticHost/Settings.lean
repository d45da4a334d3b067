import StaticHost.Json.Compound
import StaticHost.Json.Printer
import StaticHost.Error

/-!
The settings of the host, their check and their JSON form.
-/

namespace StaticHost

structure Settings where
  /-- Where the site is written to. -/
  outputDirectory : String := "dist"
  /-- What the links to stylesheets start with. -/
  basePath : String := "/"
  debugLogs : Bool := false
  /-- Is a manifest written beside the pages? -/
  writeManifest : Bool := true
  deriving DecidableEq, Repr

namespace Settings

/-- A base path has to start with a slash. -/
def validate (s : Settings) : Except HostError Unit :=
  if s.basePath.toList.head? = some '/' then .ok () else .error (.invalidBasePath s.basePath)

def flagText (b : Bool) : String :=
  if b then "true" else "false"

def describe (s : Settings) : String :=
  "Settings \x7b output_directory: " ++ quoted s.outputDirectory
    ++ ", base_path: " ++ quoted s.basePath
    ++ ", debug_logs: " ++ flagText s.debugLogs
    ++ ", write_manifest: " ++ flagText s.writeManifest ++ " \x7d"

def printer (s : Settings) : Json.Printer :=
  .object [
    ("output_directory", .text s.outputDirectory),
    ("base_path", .text s.basePath),
    ("debug_logs", .flag s.debugLogs),
    ("write_manifest", .flag s.writeManifest)]

def toJson (s : Settings) : String :=
  s.printer.run

structure Draft where
  outputDirectory : Option String := none
  basePath : Option String := none
  debugLogs : Option Bool := none
  writeManifest : Option Bool := none

/-- Only `write_manifest` may be absent, and then it is on. -/
def record : Json.Record Draft Settings where
  name := "struct Settings"
  fields := [
    { name := "output_directory"
      isSet := (·.outputDirectory.isSome)
      read := fun d c =>
        (Json.readText c).map fun (s, c) => ({ d with outputDirectory := some s }, c) },
    { name := "base_path"
      isSet := (·.basePath.isSome)
      read := fun d c => (Json.readText c).map fun (s, c) => ({ d with basePath := some s }, c) },
    { name := "debug_logs"
      isSet := (·.debugLogs.isSome)
      read := fun d c => (Json.readFlag c).map fun (b, c) => ({ d with debugLogs := some b }, c) },
    { name := "write_manifest"
      isSet := (·.writeManifest.isSome)
      read := fun d c =>
        (Json.readFlag c).map fun (b, c) => ({ d with writeManifest := some b }, c)
      optional := true }]
  blank := {}
  finish := fun d => do
    return {
      outputDirectory := ← Json.required "output_directory" d.outputDirectory
      basePath := ← Json.required "base_path" d.basePath
      debugLogs := ← Json.required "debug_logs" d.debugLogs
      writeManifest := d.writeManifest.getD true }

def ofJson (text : String) : Except Json.Error Settings :=
  Json.decode record.read text

end Settings

end StaticHost
