import DeclaredScreens.CommandLine.Commands
import DeclaredScreens.Proofs.HttpReplies
import DeclaredScreens.Proofs.PlayedRuns
import DeclaredScreens.Proofs.Preorder
import Mathlib.Data.List.Chain

/-! The listing of a screen as its mounted tree. Every element stands in a chain of ancestors, and
it is mounted when all of these are visible, whatever its own verdict is. What is listed for a
record are the mounted elements in the order of the screen, each as deep as it has ancestors. -/

namespace DeclaredScreens

namespace Element

/-- Where an element stands: its ancestors, the outermost first. -/
structure Position where
  ancestors : List Element
  element : Element

mutual

/-- The positions of an element below these ancestors and of all that it holds, parents before
children. -/
def positions (ancestors : List Element) (e : Element) : List Position :=
  ⟨ancestors, e⟩ ::
    match e with
    | page _ _ elements => positionsIn (ancestors ++ [e]) elements
    | group _ elements => positionsIn (ancestors ++ [e]) elements
    | table _ columns rowActions =>
        positionsIn (ancestors ++ [e]) columns ++ positionsIn (ancestors ++ [e]) rowActions
    | form _ _ elements => positionsIn (ancestors ++ [e]) elements
    | input .. => []
    | display .. => []
    | button .. => []

def positionsIn (ancestors : List Element) : List Element → List Position
  | [] => []
  | e :: rest => positions ancestors e ++ positionsIn ancestors rest

end

variable (record : Record) (ancestors : List Element)

theorem positionsIn_eq (es : List Element) :
    positionsIn ancestors es = es.flatMap (positions ancestors) := by
  induction es with
  | nil => rfl
  | cons e rest ih => rw [positionsIn, ih, List.flatMap_cons]

theorem positions_eq (e : Element) :
    positions ancestors e = ⟨ancestors, e⟩ :: positionsIn (ancestors ++ [e]) e.children := by
  cases e <;> simp only [positions, children, positionsIn_eq, List.flatMap_append] <;> rfl

theorem listingIn_eq (depth : Nat) (es : List Element) :
    listingIn record depth es = es.flatMap (listing record depth) := by
  induction es with
  | nil => rfl
  | cons e rest ih => rw [listingIn, ih, List.flatMap_cons]

theorem listing_eq (depth : Nat) (e : Element) :
    listing record depth e = .element depth e (e.verdict record) ::
      if (e.verdict record).visible then listingIn record (depth + 1) e.children else [] := by
  cases e <;> simp only [listing, children, listingIn_eq, List.flatMap_append] <;> rfl

theorem map_element_positions (e : Element) :
    (positions ancestors e).map Position.element = e.preorder := by
  induction e using children_induction generalizing ancestors with
  | step e ih =>
      rw [positions_eq, preorder_eq, List.map_cons, positionsIn_eq, preorderIn_eq, List.map_flatMap]
      congr 1
      exact List.flatMap_congr fun child mem => ih child mem _

theorem map_element_positionsIn (es : List Element) :
    (positionsIn ancestors es).map Position.element = preorderIn es := by
  rw [positionsIn_eq, preorderIn_eq, List.map_flatMap]
  exact List.flatMap_congr fun e _ => map_element_positions ancestors e

/-- Do the ancestors lead down to the element, each to a child of its, from one of these? -/
def Position.LeadsFrom (es : List Element) (p : Position) : Prop :=
  ∃ e ∈ es, ∃ below, p.ancestors ++ [p.element] = e :: below ∧
    (e :: below).IsChain fun parent child => child ∈ parent.children

theorem leads_of_mem_positions (e : Element) :
    ∀ p ∈ positions ancestors e, ∃ below, p.ancestors ++ [p.element] = ancestors ++ e :: below ∧
      (e :: below).IsChain fun parent child => child ∈ parent.children := by
  induction e using children_induction generalizing ancestors with
  | step e ih =>
      intro p mem
      rw [positions_eq, positionsIn_eq, List.mem_cons, List.mem_flatMap] at mem
      rcases mem with rfl | ⟨child, isChild, mem⟩
      · exact ⟨[], rfl, .singleton e⟩
      · obtain ⟨below, path, chain⟩ := ih child isChild _ p mem
        exact ⟨child :: below, by simpa using path, .cons_cons isChild chain⟩

theorem leadsFrom_of_mem {es : List Element} {p : Position} (mem : p ∈ positionsIn [] es) :
    p.LeadsFrom es := by
  rw [positionsIn_eq, List.mem_flatMap] at mem
  obtain ⟨e, isFirst, mem⟩ := mem
  exact ⟨e, isFirst, leads_of_mem_positions [] e p mem⟩

def Position.isMounted (p : Position) : Bool := p.ancestors.all fun a => (a.verdict record).visible

def Position.entry (base : Nat) (p : Position) : ListingEntry :=
  .element (base + p.ancestors.length) p.element (p.element.verdict record)

def mountedAmong (base : Nat) (positions : List Position) : List ListingEntry :=
  (positions.filter (Position.isMounted record)).map (Position.entry record base)

theorem mountedAmong_flatMap (base : Nat) (es : List Element) (place : Element → List Position) :
    mountedAmong record base (es.flatMap place) =
      es.flatMap fun e => mountedAmong record base (place e) := by
  simp only [mountedAmong, List.filter_flatMap, List.map_flatMap]

/-- Below ancestors that are all visible the listing goes on; below others nothing is mounted. -/
theorem mountedAmong_positions (base : Nat) (e : Element) :
    mountedAmong record base (positions ancestors e) =
      if ancestors.all fun a => (a.verdict record).visible then
        listing record (base + ancestors.length) e
      else [] := by
  induction e using children_induction generalizing ancestors with
  | step e ih =>
      have below : mountedAmong record base (positionsIn (ancestors ++ [e]) e.children) =
          if ancestors.all (fun a => (a.verdict record).visible) && (e.verdict record).visible then
            listingIn record (base + ancestors.length + 1) e.children
          else [] := by
        rw [positionsIn_eq, mountedAmong_flatMap,
          List.flatMap_congr fun child mem => ih child mem _]
        simp only [List.all_append, List.all_cons, List.all_nil, Bool.and_true, List.length_append,
          List.length_singleton, ← Nat.add_assoc]
        split
        · exact (listingIn_eq ..).symm
        · simp
      rw [positions_eq, listing_eq]
      by_cases visible : ancestors.all (fun a => (a.verdict record).visible) = true
      · have here : Position.isMounted record ⟨ancestors, e⟩ = true := visible
        rw [visible, Bool.true_and] at below
        rw [if_pos visible, ← below]
        simp only [mountedAmong, List.filter_cons_of_pos here, List.map_cons]
        rfl
      · have here : ¬Position.isMounted record ⟨ancestors, e⟩ = true := visible
        rw [Bool.not_eq_true] at visible
        rw [visible, Bool.false_and] at below
        rw [visible, if_neg Bool.false_ne_true]
        simpa [mountedAmong, List.filter_cons_of_neg here] using below

def mountedIn (base : Nat) (es : List Element) : List ListingEntry :=
  mountedAmong record base (positionsIn [] es)

theorem listingIn_eq_mountedIn (base : Nat) (es : List Element) :
    listingIn record base es = mountedIn record base es := by
  rw [mountedIn, positionsIn_eq, mountedAmong_flatMap, listingIn_eq]
  exact List.flatMap_congr fun e _ => (mountedAmong_positions record [] base e).symm

end Element

/-- Resolving lists the mounted elements of the page and then, drawer by drawer in the order of
their names, a heading and those of the drawer: of all elements in their order just those whose
ancestors are all visible, each with its own verdict, and as deep as it has ancestors, in a drawer
by one more. That is all that the run does. -/
theorem Session.resolve_lists_mounted_tree (session : Session) (text : String) (record : Record)
    (read : readRecord "record" text = .ok record) :
    let page := Element.mountedIn record 0 session.schema.elements
    let drawers := session.schema.drawers.entries.flatMap fun (name, drawer) =>
      .drawer name :: Element.mountedIn record 1 drawer.elements
    (∃ run, session.perform (.resolve text) = .ok run ∧ ∀ input network,
      run.play input network =
        ⟨0, Run.written ((page ++ drawers).map ListingEntry.text), "", []⟩) ∧
    session.schema.drawers.entries.Pairwise (fun first second => first.1 < second.1) ∧
    ∀ es, (Element.positionsIn [] es).map (·.element) = Element.preorderIn es ∧
      ∀ p ∈ Element.positionsIn [] es, p.LeadsFrom es := by
  intro page drawers
  have listed : session.schema.listing record = page ++ drawers := by
    simp only [Schema.listing, Element.listingIn_eq_mountedIn, page, drawers]
  have resolved : session.perform (.resolve text) =
      .ok (Run.writeAll ((page ++ drawers).map ListingEntry.text) (.finish none)) := by
    rw [← listed]
    simp only [perform, resolve, read]
    rfl
  refine ⟨⟨_, resolved, fun input network => ?_⟩, session.schema.drawers.ordered, fun es =>
    ⟨Element.map_element_positionsIn [] es, fun p mem => Element.leadsFrom_of_mem mem⟩⟩
  rw [Run.play_writeAll]
  simp [Run.play]

def Session.archive : Session where
  schema :=
    { baseUrl := "/api/notes"
      api := .empty
      drawers := Directory.empty.insert "edit"
        ⟨none, none, [.display ⟨none, some "hint", none, false, none⟩]⟩
      elements := [.page ⟨some "main", none, none, false, none⟩ none
        [.group ⟨some "notes", none, none, false,
            some [⟨.hide, [⟨"archived", .eq, [.bool true]⟩]⟩]⟩
          [.input ⟨none, some "text", none, false, none⟩ none]]] }
  origin := .localhost
  assumeYes := false

theorem Session.archived_notes_are_not_mounted :
    readRecord "record" "\x7b\"archived\":true\x7d" = .ok [("archived", .bool true)] ∧
    ∃ run, archive.perform (.resolve "\x7b\"archived\":true\x7d") = .ok run ∧
      run.play "" .unreachable = ⟨0, "page main visible=true enabled=true\n" ++
        "  group notes visible=false enabled=true\n" ++ "drawer edit\n" ++
        "  display hint visible=true enabled=true\n", "", []⟩ := by
  have document : Json.ofText? "\x7b\"archived\":true\x7d" =
      some (.object [("archived", .bool true)]) := by
    simp only [Json.ofText?, Raw.ofText, String.reduceToList]
    rfl
  have read : readRecord "record" "\x7b\"archived\":true\x7d" =
      .ok [("archived", .bool true)] := by
    simp only [readRecord, readDocument, document]
    rfl
  obtain ⟨⟨run, resolved, played⟩, -⟩ := resolve_lists_mounted_tree archive _ _ read
  refine ⟨read, run, resolved, (played ..).trans ?_⟩
  rw [Run.Report.mk.injEq]
  exact ⟨rfl, by decide +kernel, rfl, rfl⟩

end DeclaredScreens
