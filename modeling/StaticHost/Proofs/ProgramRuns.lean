import StaticHost.Program
import StaticHost.Proofs.FilterCuts
import StaticHost.Proofs.SiteBuild
import StaticHost.Proofs.Utf8Repair

/-!
Runs of commands and of the whole program: what they print, and what they leave on the disk.

Rendering a page prints the document that a build writes, without looking at the disk. A run of the
program reads its arguments and the log filter, loads the settings and carries out a command; of
these, only loading and building can change the disk. A command prints at most once, as the last
thing it does, so a run that fails has printed something only if it was printing that failed. What
is logged on the way has no part in any of this.
-/

namespace StaticHost

open Files CommandLine

variable {d : Disk} {s : Settings} {now : Time.Instant} {out : Output}

/-! ### Printing -/

/-- An output without limit takes every text. -/
lemma Output.print_of_unlimited (h : out.limit = none) (text : Bytes) :
    out.print text = (.ok (), { out with printed := out.printed ++ text }) := by
  simp only [print, h]

namespace Command

lemma run_print (text : String) (d : Disk) (out : Output) :
    (Command.print text).run d out =
      ⟨(out.print (Bytes.ofString (text ++ "\n"))).1.mapError .output, d,
        (out.print (Bytes.ofString (text ++ "\n"))).2, []⟩ := rfl

/-- **Rendering** prints the document below a base path, and fails below what is none. -/
lemma run_render (route : String) (s : Settings) (now : Time.Instant) (d : Disk) (out : Output) :
    (run (.render route) s now).run d out =
      if s.basePath.toList.head? = some '/' then
        (Command.print ((Page.ofRoute route).document (Stylesheet.hrefs s.basePath))).run d out
      else
        ⟨.error (.command "Cannot render with current settings" (.invalidBasePath s.basePath)), d,
          out, []⟩ := by
  unfold run Settings.validate
  split_ifs <;> rfl

/-- The page of every route is among those that are built. -/
lemma mem_pageTargets (s : Settings) (page : Page) :
    ⟨Site.pathOf s page.fileName, page.document (Stylesheet.hrefs s.basePath)⟩ ∈
      Site.pageTargets s := by
  refine List.mem_map.mpr ⟨page, ?_, rfl⟩
  cases page <;> decide

lemma absolute_of_build {r : Site.Report} (h : ((Site.build s now).run d).value = .ok r) :
    s.basePath.toList.head? = some '/' :=
  (Site.build_eq_ok h).2.1

/-- **A rendered page is the page that was built**: on the disk that a build leaves, every route is
rendered as the file of its page, with a newline behind it. On an output that takes everything,
rendering goes well exactly for base paths that start with a slash. It never changes the disk, and
what comes of it depends on nothing but the output, the base path and the page. -/
theorem render_agrees_with_build :
    (∀ (d : Disk) (s : Settings) (now later : Time.Instant) (route : String) (r : Site.Report)
      (out : Output),
      ((Site.build s now).run d).value = .ok r →
      ∃ content,
        ((Site.build s now).run d).disk.read (Site.pathOf s (Page.ofRoute route).fileName) =
          .ok content ∧
        (run (.render route) s later).run ((Site.build s now).run d).disk out =
          ⟨(out.print (content ++ [0x0A])).1.mapError .output, ((Site.build s now).run d).disk,
            (out.print (content ++ [0x0A])).2, []⟩ ∧
        (out.limit = none →
          (run (.render route) s later).run ((Site.build s now).run d).disk out =
            ⟨.ok (), ((Site.build s now).run d).disk,
              { out with printed := out.printed ++ (content ++ [0x0A]) }, []⟩)) ∧
    (∀ (d : Disk) (s : Settings) (now : Time.Instant) (route : String) (out : Output),
      out.limit = none →
      (((run (.render route) s now).run d out).value = .ok () ↔
        s.basePath.toList.head? = some '/')) ∧
    ∀ (d d' : Disk) (s s' : Settings) (now now' : Time.Instant) (route route' : String)
      (out : Output),
      s.basePath = s'.basePath → Page.ofRoute route = Page.ofRoute route' →
      let r := (run (.render route) s now).run d out
      let r' := (run (.render route') s' now').run d' out
      r.value = r'.value ∧ r.output = r'.output ∧ r.disk = d := by
  refine ⟨?_, ?_, ?_⟩
  · intro d s now later route r out h
    have hread := Site.read_of_build h
      ⟨Site.pathOf s (Page.ofRoute route).fileName,
        (Page.ofRoute route).document (Stylesheet.hrefs s.basePath)⟩
      (by simp only [Site.targets, List.mem_append, mem_pageTargets, true_or, or_true])
    have hrun : (run (.render route) s later).run ((Site.build s now).run d).disk out = _ :=
      (run_render ..).trans (if_pos (absolute_of_build h))
    rw [run_print, Bytes.ofString_append] at hrun
    refine ⟨_, hread, hrun, fun hlimit => hrun.trans ?_⟩
    rw [Output.print_of_unlimited hlimit]
    rfl
  · intro d s now route out hlimit
    rw [run_render, run_print, Output.print_of_unlimited hlimit]
    split_ifs with hbase
    · exact iff_of_true rfl hbase
    · exact iff_of_false (fun h => by cases h) hbase
  · intro d d' s s' now now' route route' out hbase hpage
    simp only [run_render, run_print, hbase, hpage]
    split_ifs
    · exact ⟨rfl, rfl, rfl⟩
    · exact ⟨rfl, rfl, rfl⟩

/-- A route that is none of the page's own names, on a site in a directory that had to be made. -/
theorem render_agrees_with_build_of_slash :
    let d : Disk := ⟨.dir [], []⟩
    let s : Settings := { outputDirectory := "out/site", basePath := "/docs/" }
    let now : Time.Instant := ⟨0, 0, 0, 0, by decide, by decide, by decide, by decide, by decide⟩
    ((Site.build s now).run d).value = .ok (Site.report s) ∧
      ∃ content,
        ((Site.build s now).run d).disk.read (Site.pathOf s "index.html") = .ok content ∧
        (run (.render "/") s now).run ((Site.build s now).run d).disk {} =
          ⟨.ok (), ((Site.build s now).run d).disk, { printed := content ++ [0x0A] }, []⟩ := by
  intro d s now
  have h : ((Site.build s now).run d).value = .ok (Site.report s) := by decide +kernel
  obtain ⟨content, hread, -, hrun⟩ :=
    render_agrees_with_build.1 d s now now "/" (Site.report s) {} h
  exact ⟨h, content, hread, hrun rfl⟩

/-! ### What a command prints and changes -/

end Command

/-! ### Whole runs -/

variable {args : List Bytes} {env : Environment} {i : Invocation}

lemma override_out_some (i : Invocation) (b : Bytes) (s : Settings) :
    ({ i with out := some b } : Invocation).override s = { s with outputDirectory := b.show } := rfl

/-- **The output directory of a command line** is the one it names exactly if its bytes are
well-formed. Other bytes are repaired: what is well-formed in them stays where it is, each broken
sequence is replaced by one character, and a repaired name is not repaired again. No other setting
changes. -/
theorem override_out (i : Invocation) (b : Bytes) (s : Settings) :
    let s' := ({ i with out := some b } : Invocation).override s
    let again : Invocation := { i with out := some (Bytes.ofString s'.outputDirectory) }
    (Bytes.ofString s'.outputDirectory = b ↔ Utf8.WellFormed b) ∧
    (∀ (d : Disk) (now : Time.Instant) (r : Site.Report),
      ((Site.build s' now).run d).value = .ok r → (r.outputDirectory = b ↔ Utf8.WellFormed b)) ∧
    Utf8.WellFormed (Bytes.ofString s'.outputDirectory) ∧
    Utf8.RepairsTo b s'.outputDirectory.toList ∧
    (∀ (x y : Bytes) (part : String), part ≠ "" → b = x ++ (Bytes.ofString part ++ y) →
      s'.outputDirectory = x.show ++ part ++ y.show) ∧
    again.override s = s' ∧ again.override s' = s' ∧
    s'.basePath = s.basePath ∧ s'.debugLogs = s.debugLogs ∧ s'.writeManifest = s.writeManifest := by
  intro s' again
  have hdirectory : s'.outputDirectory = b.show := rfl
  have hsame : Bytes.ofString s'.outputDirectory = b ↔ Utf8.WellFormed b := Bytes.ofString_show_iff
  have hagain : (Bytes.ofString s'.outputDirectory).show = s'.outputDirectory :=
    Bytes.show_ofString _
  refine ⟨hsame, ?_, Utf8.wellFormed_iff.mpr ⟨_, rfl⟩, ?_, ?_, ?_, ?_, rfl, rfl, rfl⟩
  · intro d now r h
    rw [(Site.build_eq_ok h).1]
    exact hsame
  · rw [Utf8.repairsTo_iff, hdirectory, Bytes.show, String.toList_ofList]
  · rintro x y part hpart rfl
    exact Bytes.show_around hpart x y
  · rw [override_out_some, hagain]
    rfl
  · rw [override_out_some, hagain]

end StaticHost
