import StaticHost.Proofs.MarkupReader
import StaticHost.View

/-!
What a reader finds in the text of a view.

The events of a view are said directly, component by component, with the tags that each component
writes. The main statements are that reading the text of a view gives its events, so that what is
put into a layout or a button is found inside it unchanged, and that the text of a document
determines the page, the metadata and the links that it was made from.
-/

namespace StaticHost

open Markup

namespace View

/-! ### The events of a view -/

def buttonEvents (label : List Event) : List Event :=
  .start "button" [("type", some "button"), ("style", some "padding:8px 12px;border-radius:6px")]
    :: label ++ [.stop "button"]

def layoutEvents (head body : List Event) : List Event :=
  .start "html" [("lang", some "en")] :: head ++ .start "body" [] :: .start "main" [] :: body
    ++ [.stop "main", .stop "body", .stop "html"]

def linkEvent (href : String) : Event :=
  .start "link" [("rel", some "stylesheet"), ("href", some href)]

/-- The head of a document. The title is the only text in it. -/
def headEvents (metadata : Metadata) (stylesheets : List String) : List Event :=
  .start "head" [] :: .start "meta" [("charset", some "utf-8")]
    :: .start "meta"
      [("name", some "viewport"), ("content", some "width=device-width, initial-scale=1")]
    :: .start "title" [] :: .text metadata.title :: .stop "title"
    :: .start "meta" [("name", some "description"), ("content", some metadata.description)]
    :: stylesheets.map linkEvent ++ [.stop "head"]

/-- What a page shows: a heading, a paragraph and what comes after them. -/
def contentEvents (id heading paragraph : String) (more : List Event) : List Event :=
  .start "div" [("id", some id), ("class", some "container")]
    :: .start "h1" [] :: .text heading :: .stop "h1"
    :: .start "p" [] :: .text paragraph :: .stop "p" :: more ++ [.stop "div"]

def homeEvents : List Event :=
  contentEvents "home-container" "Microservices Frontend"
    "Frontend scaffold for microservices-project." (buttonEvents [.text "Get started"])

def notFoundEvents : List Event :=
  contentEvents "not-found-container" "Page not found" "The page you requested does not exist." []

def pageEvents : Page → List Event
  | .home => homeEvents
  | .notFound => notFoundEvents

/-- The events along a view, one for each text in it. -/
def walk : View → List Event
  | empty => []
  | text s => [.text s]
  | append first second => first.walk ++ second.walk
  | element tag attributes control children => elementEvents tag attributes control children.walk
  | button label => buttonEvents label.walk
  | layout head body => layoutEvents head.walk body.walk
  | documentHead metadata stylesheets => headEvents metadata stylesheets
  | homePage => homeEvents
  | notFoundPage => notFoundEvents
  | app page metadata stylesheets =>
    layoutEvents (headEvents metadata stylesheets) (pageEvents page)

/-- The events of a view: neighbouring texts are one, and empty ones none. -/
def events (v : View) : List Event :=
  joinTexts v.walk

def WellNamed : View → Prop
  | append first second => first.WellNamed ∧ second.WellNamed
  | element tag attributes _ children =>
    IsPlainTag tag ∧ (∀ a ∈ attributes, IsName a.1) ∧ children.WellNamed
  | button label => label.WellNamed
  | layout head body => head.WellNamed ∧ body.WellNamed
  | _ => True

instance decidableWellNamed : (v : View) → Decidable v.WellNamed
  | append first second =>
    @instDecidableAnd _ _ (decidableWellNamed first) (decidableWellNamed second)
  | element _ _ _ children =>
    @instDecidableAnd _ _ inferInstance
      (@instDecidableAnd _ _ inferInstance (decidableWellNamed children))
  | button label => decidableWellNamed label
  | layout head body =>
    @instDecidableAnd _ _ (decidableWellNamed head) (decidableWellNamed body)
  | empty | text _ | documentHead .. | homePage | notFoundPage | app .. => .isTrue trivial

/-! ### Components and their markup -/

end View

namespace Markup

lemma walk_ofList (nodes : List Node) : (Node.ofList nodes).walk = nodes.flatMap Node.walk := by
  induction nodes with
  | nil => rfl
  | cons n nodes ih => rw [Node.ofList, Node.walk, ih, List.flatMap_cons]

lemma walk_tag (name : String) (h : TagKind.ofName name = .container .ordinary)
    (attributes : List Attribute) (children : List Node) :
    (Node.tag name attributes children).walk =
      .start name (shownAttributes attributes) :: children.flatMap Node.walk ++ [.stop name] := by
  rw [TagKind.ofName_eq] at h
  rw [Node.tag, Node.walk, elementEvents, walk_ofList]
  split_ifs at h ⊢ <;> rfl

lemma walk_void (name : String) (h : TagKind.ofName name = .void)
    (attributes : List Attribute) (children : List Node) :
    (Node.tag name attributes children).walk = [.start name (shownAttributes attributes)] := by
  rw [TagKind.ofName_eq] at h
  rw [Node.tag, Node.walk, elementEvents]
  split_ifs at h ⊢
  rfl

lemma wellNamed_ofList {nodes : List Node} (h : ∀ n ∈ nodes, n.WellNamed) :
    (Node.ofList nodes).WellNamed := by
  induction nodes with
  | nil => trivial
  | cons n nodes ih =>
    exact ⟨h n (by simp), ih fun m hm => h m (List.mem_cons_of_mem _ hm)⟩

lemma wellNamed_tag {name : String} {attributes : List Attribute} {children : List Node}
    (hname : IsPlainTag name) (hattributes : ∀ name ∈ attributes.map (·.1), IsName name)
    (hchildren : ∀ n ∈ children, n.WellNamed) : (Node.tag name attributes children).WellNamed :=
  ⟨hname, fun _ ha => hattributes _ (List.mem_map_of_mem ha), wellNamed_ofList hchildren⟩

end Markup

namespace View

lemma walk_buttonNode (label : Node) : (buttonNode label).walk = buttonEvents label.walk := by
  rw [buttonNode, walk_tag _ rfl, List.flatMap_singleton]
  rfl

lemma walk_layoutNode (head body : Node) :
    (layoutNode head body).walk = layoutEvents head.walk body.walk := by
  have hlang : shownAttributes [("lang", "en")] = [("lang", some "en")] := rfl
  have hnone : shownAttributes [] = [] := rfl
  simp [layoutNode, layoutEvents, walk_tag "html" rfl, walk_tag "body" rfl,
    walk_tag "main" rfl, hlang, hnone]

lemma walk_stylesheetLink (href : String) : (stylesheetLink href).walk = [linkEvent href] := by
  rw [stylesheetLink, walk_void _ rfl]
  rfl

lemma walk_headNode (metadata : Metadata) (stylesheets : List String) :
    (headNode metadata stylesheets).walk = headEvents metadata stylesheets := by
  have hlinks : (stylesheets.map stylesheetLink).flatMap Node.walk = stylesheets.map linkEvent := by
    rw [List.flatMap_map, funext walk_stylesheetLink]
    exact List.flatMap_pure_eq_map _ _
  rw [headNode, walk_tag _ rfl, List.flatMap_append, hlinks]
  rfl

/-- **Components** have the events of their markup. -/
lemma walk_expand (v : View) : v.expand.walk = v.walk := by
  induction v with
  | empty | text _ => rfl
  | append first second ih₁ ih₂ => rw [expand, Node.walk, ih₁, ih₂, walk]
  | element tag attributes control children ih => rw [expand, Node.walk, ih, walk]
  | button label ih => rw [expand, walk_buttonNode, ih, walk]
  | layout head body ih₁ ih₂ => rw [expand, walk_layoutNode, ih₁, ih₂, walk]
  | documentHead metadata stylesheets => exact walk_headNode metadata stylesheets
  | homePage => rfl
  | notFoundPage => rfl
  | app page metadata stylesheets =>
    rw [expand, walk_layoutNode, walk_headNode, walk]
    cases page <;> rfl

lemma wellNamed_layoutNode {head body : Node} (hhead : head.WellNamed) (hbody : body.WellNamed) :
    (layoutNode head body).WellNamed := by
  have hmain : (Node.tag "main" [] [body]).WellNamed :=
    wellNamed_tag (by decide) (by decide) (by simpa using hbody)
  have hinside : (Node.tag "body" [] [.tag "main" [] [body]]).WellNamed :=
    wellNamed_tag (by decide) (by decide) (by simpa using hmain)
  exact wellNamed_tag (by decide) (by decide) (by simpa using ⟨hhead, hinside⟩)

lemma wellNamed_buttonNode {label : Node} (h : label.WellNamed) : (buttonNode label).WellNamed :=
  wellNamed_tag (by decide) (by decide) (by simpa using h)

lemma wellNamed_headNode (metadata : Metadata) (stylesheets : List String) :
    (headNode metadata stylesheets).WellNamed := by
  have hmeta (content : String) :
      (Node.tag "meta" [("name", "description"), ("content", content)] []).WellNamed :=
    wellNamed_tag (by decide) (by simpa using ⟨by decide, by decide⟩) (by simp)
  have hlink (href : String) : (stylesheetLink href).WellNamed :=
    wellNamed_tag (by decide) (by simpa using ⟨by decide, by decide⟩) (by simp)
  have htitle : (Node.tag "title" [] [.text metadata.title]).WellNamed :=
    wellNamed_tag (by decide) (by decide) fun n hn => by
      obtain rfl := List.mem_singleton.mp hn
      trivial
  refine wellNamed_tag (by decide) (by decide) fun n hn => ?_
  rcases List.mem_append.mp hn with hn | hn
  · simp only [List.mem_cons, List.not_mem_nil, or_false] at hn
    rcases hn with rfl | rfl | rfl | rfl
    · decide
    · decide
    · exact htitle
    · exact hmeta metadata.description
  · obtain ⟨href, -, rfl⟩ := List.mem_map.mp hn
    exact hlink href

/-- Components bring plain names only. -/
lemma wellNamed_expand {v : View} (h : v.WellNamed) : v.expand.WellNamed := by
  induction v with
  | empty | text _ => trivial
  | append first second ih₁ ih₂ => exact ⟨ih₁ h.1, ih₂ h.2⟩
  | element tag attributes control children ih => exact ⟨h.1, h.2.1, ih h.2.2⟩
  | button label ih => exact wellNamed_buttonNode (ih h)
  | layout head body ih₁ ih₂ => exact wellNamed_layoutNode (ih₁ h.1) (ih₂ h.2)
  | documentHead metadata stylesheets => exact wellNamed_headNode metadata stylesheets
  | homePage => exact (by decide : homeNode.WellNamed)
  | notFoundPage => exact (by decide : notFoundNode.WellNamed)
  | app page metadata stylesheets =>
    refine wellNamed_layoutNode (wellNamed_headNode metadata stylesheets) ?_
    cases page <;> decide

/-- **The text of a view** reads as the events of the view. -/
lemma read_render_eq {v : View} (h : v.WellNamed) : read v.render = some v.events := by
  have hread := Reader.readsAs_nil.node (wellNamed_expand h) []
  rw [List.append_nil, List.append_nil, walk_expand] at hread
  rw [Markup.read, render, Node.render, String.toList_ofList, hread, events, joinTexts]

/-! ### Texts between tags -/

/-- A tag divides texts. -/
lemma joinFrom_append_tag {e : Event} (he : ∀ s, e ≠ .text s) (r : List Char)
    (events rest : List Event) :
    joinFrom r (events ++ e :: rest) = joinFrom r events ++ e :: joinTexts rest := by
  induction events generalizing r with
  | nil =>
    cases e with
    | text s => exact absurd rfl (he s)
    | start name attributes => rfl
    | stop name => rfl
  | cons f events ih =>
    cases f with
    | text s => exact ih (r ++ s.toList)
    | start name attributes => simp only [List.cons_append, joinFrom, ih, List.append_assoc]
    | stop name => simp only [List.cons_append, joinFrom, ih, List.append_assoc]

lemma joinTexts_start (name : String) (attributes : List ShownAttribute) (rest : List Event) :
    joinTexts (.start name attributes :: rest) = .start name attributes :: joinTexts rest := rfl

lemma joinTexts_stop (name : String) (rest : List Event) :
    joinTexts (.stop name :: rest) = .stop name :: joinTexts rest := rfl

lemma joinTexts_append_start (events : List Event) (name : String)
    (attributes : List ShownAttribute) (rest : List Event) :
    joinTexts (events ++ .start name attributes :: rest) =
      joinTexts events ++ .start name attributes :: joinTexts rest :=
  joinFrom_append_tag (by simp) [] events rest

lemma joinTexts_append_stop (events : List Event) (name : String) (rest : List Event) :
    joinTexts (events ++ .stop name :: rest) =
      joinTexts events ++ .stop name :: joinTexts rest :=
  joinFrom_append_tag (by simp) [] events rest

lemma joinTexts_layoutEvents (head body : List Event) :
    joinTexts (layoutEvents head body) = layoutEvents (joinTexts head) (joinTexts body) := by
  simp only [layoutEvents, List.append_assoc, List.cons_append, joinTexts_start,
    joinTexts_append_start, joinTexts_append_stop, joinTexts_stop]
  rfl

lemma joinTexts_buttonEvents (label : List Event) :
    joinTexts (buttonEvents label) = buttonEvents (joinTexts label) := by
  simp only [buttonEvents, List.cons_append, joinTexts_start, joinTexts_append_stop]
  rfl

/-- **What is put into a component** is found inside it. Whatever the head and the body of a layout
or the label of a button are, as long as their names are plain, the text of the component reads as
the component's own tags around their events. -/
theorem read_render (head body : View) (hhead : head.WellNamed) (hbody : body.WellNamed) :
    read (layout head body).render = some (layout head body).events ∧
      (layout head body).events = layoutEvents head.events body.events ∧
      read (button body).render = some (button body).events ∧
      (button body).events = buttonEvents body.events :=
  ⟨read_render_eq (v := layout head body) ⟨hhead, hbody⟩,
    joinTexts_layoutEvents head.walk body.walk,
    read_render_eq (v := button body) hbody, joinTexts_buttonEvents body.walk⟩

/-- Texts that look like markup, next to each other and in attributes that are mentioned twice. -/
theorem read_render_lookalikes :
    let head : View := .documentHead ⟨"</title><b>", "\"/>"⟩ ["a.css\" onload=\"&quot;"]
    let body : View := .ofList [
      .text "1 < 2 &amp; ", .text "", .text "\"3\" > 2",
      .element "my-tag" [("data-a", "1"), ("b", "<"), ("data-a", "&")] {} (.button (.text "<br>")),
      .element "INPUT" [("checked", "no")] { value := some "\"", checked := true } (.text "x"),
      .element "TextArea" [] { value := some "</textarea>" } .empty,
      .element "br" [] {} .empty]
    head.WellNamed ∧ body.WellNamed ∧
      read (layout head body).render = some (layoutEvents head.events [
        .text "1 < 2 &amp; \"3\" > 2",
        .start "my-tag" [("data-a", some "&"), ("b", some "<")],
        .start "button" [("type", some "button"),
          ("style", some "padding:8px 12px;border-radius:6px")],
        .text "<br>", .stop "button", .stop "my-tag",
        .start "input" [("value", some "\""), ("checked", none), ("checked", some "no")],
        .start "textarea" [], .text "</textarea>", .stop "textarea",
        .start "br" []]) := by
  intro head body
  have hhead : head.WellNamed := by decide
  have hbody : body.WellNamed := by decide
  obtain ⟨hread, hevents, -, -⟩ := read_render head body hhead hbody
  refine ⟨hhead, hbody, ?_⟩
  rw [hread, hevents]
  decide +kernel

/-! ### Documents -/

lemma textEvent_append_inj {a b : List Char} {e f : Event} {x y : List Event}
    (he : ∀ s, e ≠ .text s) (hf : ∀ s, f ≠ .text s)
    (h : textEvent a ++ e :: x = textEvent b ++ f :: y) : a = b ∧ e = f ∧ x = y := by
  unfold textEvent at h
  split_ifs at h with ha hb hb
  · simpa [ha, hb] using h
  · simp only [List.nil_append, List.singleton_append, List.cons.injEq] at h
    exact absurd h.1 (he _)
  · simp only [List.nil_append, List.singleton_append, List.cons.injEq] at h
    exact absurd h.1.symm (hf _)
  · simpa [← String.toList_inj] using h

/-- A list of links ends where something else stands. -/
lemma map_linkEvent_append_inj {a b : List String} {x y : List Event} {e : Event}
    (he : ∀ href, e ≠ linkEvent href)
    (h : a.map linkEvent ++ e :: x = b.map linkEvent ++ e :: y) : a = b ∧ x = y := by
  induction a generalizing b with
  | nil =>
    cases b with
    | nil => simpa using h
    | cons href b =>
      rw [List.map_nil, List.map_cons, List.nil_append, List.cons_append, List.cons.injEq] at h
      exact absurd h.1 (he href)
  | cons href a ih =>
    cases b with
    | nil =>
      rw [List.map_nil, List.map_cons, List.nil_append, List.cons_append, List.cons.injEq] at h
      exact absurd h.1.symm (he href)
    | cons href' b =>
      rw [List.map_cons, List.map_cons, List.cons_append, List.cons_append, List.cons.injEq] at h
      obtain ⟨rfl, rfl⟩ := ih h.2
      have hhref : href = href' := by simpa [linkEvent] using h.1
      exact ⟨by rw [hhref], rfl⟩

lemma joinTexts_links (stylesheets : List String) (rest : List Event) :
    joinTexts (stylesheets.map linkEvent ++ rest) =
      stylesheets.map linkEvent ++ joinTexts rest := by
  induction stylesheets with
  | nil => rfl
  | cons href stylesheets ih =>
    rw [List.map_cons, List.cons_append, List.cons_append, linkEvent, joinTexts_start, ih]

lemma joinTexts_headEvents (metadata : Metadata) (stylesheets : List String) :
    joinTexts (headEvents metadata stylesheets) =
      .start "head" [] :: .start "meta" [("charset", some "utf-8")]
        :: .start "meta"
          [("name", some "viewport"), ("content", some "width=device-width, initial-scale=1")]
        :: .start "title" [] :: (textEvent metadata.title.toList ++ .stop "title"
        :: .start "meta" [("name", some "description"), ("content", some metadata.description)]
        :: (stylesheets.map linkEvent ++ [.stop "head"])) := by
  have hlinks := joinTexts_links stylesheets [.stop "head"]
  rw [joinTexts] at hlinks
  simp only [headEvents, List.cons_append, joinTexts, joinFrom, hlinks]
  rfl

/-- The events of a document show what it was made from. -/
lemma events_app_inj {p p' : Page} {m m' : Metadata} {l l' : List String}
    (h : (app p m l).events = (app p' m' l').events) : p = p' ∧ m = m' ∧ l = l' := by
  simp only [events, walk, joinTexts_layoutEvents, joinTexts_headEvents] at h
  simp only [layoutEvents, List.cons_append, List.append_assoc, List.cons.injEq, true_and] at h
  obtain ⟨htitle, -, h⟩ := textEvent_append_inj (by simp) (by simp) h
  simp only [List.cons.injEq, Event.start.injEq, Prod.mk.injEq, Option.some.injEq, true_and,
    and_true] at h
  obtain ⟨hdescription, h⟩ := h
  obtain ⟨hlinks, h⟩ := map_linkEvent_append_inj (by simp [linkEvent]) h
  have hpage : p = p' := by
    simp only [List.nil_append, List.cons.injEq, true_and, List.append_cancel_right_eq] at h
    revert h
    cases p <;> cases p' <;> decide
  have hmetadata : m = m' := by
    cases m
    cases m'
    simp_all [String.toList_inj]
  exact ⟨hpage, hmetadata, hlinks⟩

/-- **A document tells what it was made from**: no title, description or link can look like another
one or like a piece of the markup around it, so equal documents come from equal pages, metadata and
links. -/
theorem render_app_inj (p p' : Page) (m m' : Metadata) (links links' : List String) :
    ((app p m links).render = (app p' m' links').render ↔
      p = p' ∧ m.title = m'.title ∧ m.description = m'.description ∧ links = links') ∧
    (p.document links = p'.document links' ↔ p = p' ∧ links = links') := by
  have hinj {m m' : Metadata} (h : (app p m links).render = (app p' m' links').render) :
      p = p' ∧ m = m' ∧ links = links' := by
    have hread : Markup.read (app p m links).render = some (app p m links).events :=
      read_render_eq trivial
    have hread' : Markup.read (app p' m' links').render = some (app p' m' links').events :=
      read_render_eq trivial
    rw [h, hread'] at hread
    exact events_app_inj (Option.some.inj hread).symm
  refine ⟨⟨fun h => ?_, ?_⟩, fun h => ?_, ?_⟩
  · obtain ⟨hpage, rfl, hlinks⟩ := hinj h
    exact ⟨hpage, rfl, rfl, hlinks⟩
  · rintro ⟨rfl, htitle, hdescription, rfl⟩
    cases m
    cases m'
    simp_all
  · have h' : (app p .site links).render = (app p' .site links').render :=
      (String.append_right_inj _).mp h
    obtain ⟨hpage, -, hlinks⟩ := hinj h'
    exact ⟨hpage, hlinks⟩
  · rintro ⟨rfl, rfl⟩
    rfl

end View

end StaticHost
