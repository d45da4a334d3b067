import StaticHost.Proofs.JsonCompounds
import StaticHost.Proofs.SiteBuild

/-!
Which texts name a page.

A page has one name in JSON, its route, written as a string or as the only key of an object. A
route from outside leads to a page more often: the home page has other routes besides, and every
route that no page has leads to the page that says so. None of those is a name.
-/

namespace StaticHost.Page

open Json

lemma lookup_eq_some_iff {name : String} {p : Page} :
    [("home", home), ("not-found", notFound)].lookup name = some p ↔ name = p.route := by
  by_cases hhome : name = "home"
  · subst hhome
    cases p <;> decide
  · by_cases hnot : name = "not-found"
    · subst hnot
      cases p <;> decide
    · have hhome' : (name == "home") = false := beq_eq_false_iff_ne.mpr hhome
      have hnot' : (name == "not-found") = false := beq_eq_false_iff_ne.mpr hnot
      cases p <;> simp [List.lookup_cons, route, hhome, hnot, hhome', hnot']

lemma ofJson_eq_ok_iff {text : String} {p : Page} : ofJson text = .ok p ↔ Names text p.route := by
  rw [ofJson, decode_choice_iff]
  simp [lookup_eq_some_iff]

lemma toJson_eq (p : Page) : p.toJson = "\"" ++ p.route ++ "\"" := by
  cases p <;> decide

/-- **The texts that name a page** are, up to white space, its route as a string and as the only
key of an object, with the value `null`. The route leads to the page and is what the page is written
as. The other routes of the home page are no names. -/
theorem ofJson_iff_names :
    (∀ (text : String) (p : Page), ofJson text = .ok p ↔ Names text p.route) ∧
    (∀ (text name : String) (p : Page), Names text name → ofJson text = .ok p →
      name = p.route ∧ p = ofRoute name ∧ p.toJson = "\"" ++ name ++ "\"") ∧
    ∀ name ∈ ["", "/", "index"], ofRoute name = home ∧
      ∀ text, Names text name → ∀ p, ofJson text ≠ .ok p := by
  refine ⟨fun text p => ofJson_eq_ok_iff, ?_, ?_⟩
  · intro text name p hname hp
    obtain rfl := hname.unique (ofJson_eq_ok_iff.mp hp)
    exact ⟨rfl, (Site.ofRoute_route p).symm, toJson_eq p⟩
  · intro name hmem
    have halias : ofRoute name = home ∧ ∀ p : Page, name ≠ p.route := by
      simp only [List.mem_cons, List.not_mem_nil, or_false] at hmem
      rcases hmem with rfl | rfl | rfl
      all_goals exact ⟨by decide, fun p => by cases p <;> decide⟩
    refine ⟨halias.1, fun text hname p hp => halias.2 p ?_⟩
    exact hname.unique (ofJson_eq_ok_iff.mp hp)

end StaticHost.Page
