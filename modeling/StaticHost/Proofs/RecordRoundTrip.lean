import StaticHost.Manifest
import StaticHost.Settings
import StaticHost.Proofs.JsonRoundTrip
import StaticHost.Proofs.TimeRoundTrip

/-!
The records of the host read back: metadata, the pages of a manifest, the manifest and the settings.

Their members are written in the order of the fields, so the draft is filled field by field; each
step below names the draft that it leaves.
-/

namespace StaticHost

open Json

namespace Metadata

lemma readsBack (m : Metadata) : ReadsBack record.read m.printer m := by
  refine readsBack_object ⟨some m.title, some m.description⟩ ?_ rfl
  refine .member _ rfl rfl ((readsBack_text m.title).map fun s => Draft.mk (some s) none) ?_
  refine .member _ rfl rfl
    ((readsBack_text m.description).map fun s => Draft.mk (some m.title) (some s)) ?_
  exact .done _

end Metadata

namespace ManifestPage

lemma readsBack (p : ManifestPage) : ReadsBack record.read p.printer p := by
  refine readsBack_object ⟨some p.route, some p.file⟩ ?_ rfl
  refine .member _ rfl rfl ((readsBack_text p.route).map fun s => Draft.mk (some s) none) ?_
  refine .member _ rfl rfl
    ((readsBack_text p.file).map fun s => Draft.mk (some p.route) (some s)) ?_
  exact .done _

end ManifestPage

namespace Manifest

/-- The members of a manifest with its time written in some way. -/
def stampedWith (stamp : String) (m : Manifest) : List (String × Printer) := [
  ("metadata", m.metadata.printer),
  ("pages", .list (m.pages.map ManifestPage.printer)),
  ("stylesheets", .list (m.stylesheets.map .text)),
  ("generated_at", .text stamp)]

lemma readsBack_stampedWith {stamp : String} {m : Manifest}
    (h : Time.Instant.ofString stamp = .ok m.generatedAt) :
    ReadsBack record.read (.object (m.stampedWith stamp)) m := by
  have hpages := readsBack_list m.pages fun p _ => p.readsBack
  have hsheets := readsBack_list m.stylesheets fun s _ => readsBack_text s
  have htime : ReadsBack readInstant (.text stamp) m.generatedAt :=
    readsBack_textAs (by rw [h]; rfl)
  refine readsBack_object
    ⟨some m.metadata, some m.pages, some m.stylesheets, some m.generatedAt⟩ ?_ rfl
  refine .member _ rfl rfl
    (m.metadata.readsBack.map fun x => Draft.mk (some x) none none none) ?_
  refine .member _ rfl rfl (hpages.map fun x => Draft.mk (some m.metadata) (some x) none none) ?_
  refine .member _ rfl rfl
    (hsheets.map fun x => Draft.mk (some m.metadata) (some m.pages) (some x) none) ?_
  refine .member _ rfl rfl (htime.map fun x =>
    Draft.mk (some m.metadata) (some m.pages) (some m.stylesheets) (some x)) ?_
  exact .done _

lemma readsBack (m : Manifest) : ReadsBack record.read m.printer m :=
  readsBack_stampedWith (Time.ofString_toString m.generatedAt)

/-- **A written manifest decodes to itself**, whatever its texts, its lists and its time. -/
theorem ofJson_toJson (m : Manifest) : ofJson m.toJson = .ok m :=
  decode_run m.readsBack

end Manifest

namespace Settings

lemma readsBack (s : Settings) : ReadsBack record.read s.printer s := by
  refine readsBack_object
    ⟨some s.outputDirectory, some s.basePath, some s.debugLogs, some s.writeManifest⟩ ?_ rfl
  refine .member _ rfl rfl
    ((readsBack_text s.outputDirectory).map fun x => Draft.mk (some x) none none none) ?_
  refine .member _ rfl rfl ((readsBack_text s.basePath).map fun x =>
    Draft.mk (some s.outputDirectory) (some x) none none) ?_
  refine .member _ rfl rfl ((readsBack_flag s.debugLogs).map fun b =>
    Draft.mk (some s.outputDirectory) (some s.basePath) (some b) none) ?_
  refine .member _ rfl rfl ((readsBack_flag s.writeManifest).map fun b =>
    Draft.mk (some s.outputDirectory) (some s.basePath) (some s.debugLogs) (some b)) ?_
  exact .done _

end Settings

end StaticHost
