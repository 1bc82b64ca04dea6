import DeclaredScreens.CommandLine.Commands
import DeclaredScreens.Proofs.Preorder
import DeclaredScreens.Proofs.Record

/-! Where an id is found. A screen has its elements in one order, parents first and then their
children, the page before the drawers and the drawers by name. An element is looked up as the first
of them with the id, but the drawer of a form is the first drawer that holds the id, whatever the
page holds; so the two agree when the page has no element with the id, and not otherwise. -/

namespace DeclaredScreens

namespace Element

def hasId (id : String) (e : Element) : Bool := e.id = some id

mutual

theorem find?_eq (id : String) (e : Element) : e.find? id = e.preorder.find? (hasId id) := by
  by_cases here : e.id = some id
  · rw [preorder_eq, List.find?_cons_of_pos (by simpa [hasId] using here)]
    cases e <;> simp only [find?, if_pos here]
  · rw [preorder_eq, List.find?_cons_of_neg (by simpa [hasId] using here)]
    cases e with
    | page h title elements => simp only [find?, if_neg here, children, findIn?_eq id elements]
    | group h elements => simp only [find?, if_neg here, children, findIn?_eq id elements]
    | table h columns rowActions =>
        simp only [find?, if_neg here, children, preorderIn_append, List.find?_append,
          findIn?_eq id columns, findIn?_eq id rowActions]
    | form h settings elements => simp only [find?, if_neg here, children, findIn?_eq id elements]
    | input h format => simp only [find?, if_neg here]; rfl
    | display h => simp only [find?, if_neg here]; rfl
    | button h action => simp only [find?, if_neg here]; rfl

theorem findIn?_eq (id : String) (es : List Element) :
    findIn? id es = (preorderIn es).find? (hasId id) := by
  cases es with
  | nil => rfl
  | cons e rest => rw [findIn?, preorderIn, List.find?_append, find?_eq id e, findIn?_eq id rest]

end

end Element

theorem Directory.get?_of_mem {α : Type} {d : Directory α} {name : String} {value : α}
    (mem : (name, value) ∈ d.entries) : d.get? name = some value :=
  lookup_of_mem (List.pairwise_map.mpr (d.ordered.imp String.ne_of_lt)) mem

namespace Schema

variable {s : Schema} {id : String}

/-- Every element in the order of the screen, with the drawer that it stands in; those of the page
stand in none. -/
def placements (s : Schema) : List (Option String × Element) :=
  (Element.preorderIn s.elements).map (none, ·) ++
    s.drawers.entries.flatMap fun (name, drawer) =>
      (Element.preorderIn drawer.elements).map (some name, ·)

def place? (s : Schema) (id : String) : Option (Option String × Element) :=
  s.placements.find? fun placement => placement.2.hasId id

theorem place?_eq (s : Schema) (id : String) :
    s.place? id = ((Element.findIn? id s.elements).map (none, ·)).or
      (s.drawers.entries.findSome? fun (name, drawer) =>
        (Element.findIn? id drawer.elements).map (some name, ·)) := by
  simp only [place?, placements, List.find?_append, List.find?_map, List.find?_flatMap,
    Element.findIn?_eq]
  rfl

theorem findElement?_eq (s : Schema) (id : String) :
    s.findElement? id = (s.place? id).map Prod.snd := by
  rw [place?_eq, findElement?]
  cases Element.findIn? id s.elements with
  | some e => rfl
  | none =>
      simp only [Option.none_or, Option.map_none, List.map_findSome?]
      congr 1
      funext entry
      simp only [Function.comp_apply, Option.map_map]
      exact (Option.map_id_apply ..).symm

theorem drawerContaining?_eq_some_iff {name : String} :
    s.drawerContaining? id = some name ↔
      ∃ before drawer after, s.drawers.entries = before ++ (name, drawer) :: after ∧
        (Element.findIn? id drawer.elements).isSome = true ∧
        ∀ entry ∈ before, Element.findIn? id entry.2.elements = none := by
  simp only [drawerContaining?, Option.map_eq_some_iff, List.find?_eq_some_iff_append]
  constructor
  · rintro ⟨⟨_, drawer⟩, ⟨holds, before, after, entries, bare⟩, rfl⟩
    exact ⟨before, drawer, after, entries, holds, fun entry mem => by simpa using bare entry mem⟩
  · rintro ⟨before, drawer, after, entries, holds, bare⟩
    refine ⟨(name, drawer), ⟨holds, before, after, entries, fun entry mem => ?_⟩, rfl⟩
    simpa using bare entry mem

theorem findElement?_of_drawerContaining? {name : String}
    (bare : Element.findIn? id s.elements = none) (named : s.drawerContaining? id = some name) :
    ∃ drawer e, s.drawers.get? name = some drawer ∧
      Element.findIn? id drawer.elements = some e ∧ s.findElement? id = some e := by
  obtain ⟨before, drawer, after, entries, holds, earlier⟩ :=
    drawerContaining?_eq_some_iff.mp named
  obtain ⟨e, found⟩ := Option.isSome_iff_exists.mp holds
  refine ⟨drawer, e, Directory.get?_of_mem (by rw [entries]; simp), found, ?_⟩
  rw [findElement?, bare, Option.none_or]
  exact List.findSome?_eq_some_iff.mpr ⟨before, (name, drawer), after, entries, found, earlier⟩

theorem drawerContaining?_of_place? {name : String} {e : Element}
    (found : s.place? id = some (some name, e)) : s.drawerContaining? id = some name := by
  rw [place?_eq] at found
  cases page : Element.findIn? id s.elements with
  | some first => simp [page] at found
  | none =>
      rw [page, Option.map_none, Option.none_or] at found
      obtain ⟨before, ⟨_, drawer⟩, after, entries, here, earlier⟩ :=
        List.findSome?_eq_some_iff.mp found
      obtain ⟨_, inside, rfl, rfl⟩ : ∃ first, Element.findIn? id drawer.elements = some first ∧
          _ = name ∧ first = e := by simpa using here
      exact drawerContaining?_eq_some_iff.mpr
        ⟨before, drawer, after, entries, by rw [inside]; rfl, fun entry mem => by
          simpa using earlier entry mem⟩

/-- Unless the page has an element with the id, the drawer that is named for it holds the element
that is looked up and mounted, as the first with the id in the drawer. An element that is found in a
drawer is in the one that is named. -/
theorem lookups_agree_off_page (s : Schema) (id : String) :
    (∀ name, s.drawerContaining? id = some name →
      (∀ e ∈ Element.preorderIn s.elements, e.id ≠ some id) →
      ∃ drawer e, s.drawers.get? name = some drawer ∧
        (Element.preorderIn drawer.elements).find? (Element.hasId id) = some e ∧
        s.findElement? id = some e ∧
        ∀ session : Session, session.schema = s → session.element id = .ok e) ∧
    s.findElement? id = (s.place? id).map Prod.snd ∧
    ∀ name e, s.place? id = some (some name, e) → s.drawerContaining? id = some name := by
  refine ⟨fun name named apart => ?_, findElement?_eq s id, fun name e found =>
    drawerContaining?_of_place? found⟩
  have bare : Element.findIn? id s.elements = none := by
    rw [Element.findIn?_eq, List.find?_eq_none]
    exact fun e mem => by simpa [Element.hasId] using apart e mem
  obtain ⟨drawer, e, held, first, found⟩ := findElement?_of_drawerContaining? bare named
  rw [Element.findIn?_eq] at first
  refine ⟨drawer, e, held, first, found, ?_⟩
  rintro session rfl
  simp only [Session.element, found]

def contactForm (field : String) : Element :=
  .form ⟨some "contact", none, none, false, none⟩ ⟨none, true, none, none⟩
    [.input ⟨none, some field, none, true, none⟩ none]

def contactForms (page : List Element) : Schema where
  baseUrl := "/api/contacts"
  api := .empty
  drawers := (Directory.empty.insert "quick" ⟨none, none, [contactForm "phone"]⟩).insert "edit"
    ⟨none, none, [contactForm "email"]⟩
  elements := page

theorem first_drawer_holds_contact_form :
    (∃ drawer e, (contactForms []).drawers.get? "edit" = some drawer ∧
      (Element.preorderIn drawer.elements).find? (Element.hasId "contact") = some e ∧
      (contactForms []).findElement? "contact" = some e ∧
      ∀ session : Session, session.schema = contactForms [] →
        session.element "contact" = .ok e) ∧
    (contactForms []).drawerContaining? "contact" = some "edit" := by
  obtain ⟨named, -, placed⟩ := lookups_agree_off_page (contactForms []) "contact"
  exact ⟨named "edit" rfl nofun, placed "edit" (contactForm "email") rfl⟩

/-- With one more such form on the page, that one is looked up, and the first drawer is named. -/
theorem page_form_is_not_in_named_drawer :
    let s := contactForms [contactForm "search"]
    s.drawerContaining? "contact" = some "edit" ∧
    s.findElement? "contact" = some (contactForm "search") ∧
    ∃ drawer, s.drawers.get? "edit" = some drawer ∧
      (Element.preorderIn drawer.elements).find? (Element.hasId "contact") ≠
        some (contactForm "search") := by
  refine ⟨rfl, rfl, ⟨none, none, [contactForm "email"]⟩, rfl, ?_⟩
  have first : (Element.preorderIn [contactForm "email"]).find? (Element.hasId "contact") =
      some (contactForm "email") := rfl
  rw [first]
  simp [contactForm]

end Schema

end DeclaredScreens
