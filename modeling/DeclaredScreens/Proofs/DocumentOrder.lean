import DeclaredScreens.Proofs.FormLookup
import Mathlib.Data.List.Lex
import Mathlib.Data.String.Basic

/-! Looking up an id in document order. An element stands on the page or in a drawer, so many steps
down: at the number of a root, then at the number of a child, and so on. The page comes before the
drawers and these come by name; in each of them the steps are in lexicographic order, so that a
parent comes before all below it, and a child with all below it before the next. An id is found
exactly when some element of the screen carries it, and then at the first location that has it. -/

namespace DeclaredScreens

namespace Element

/-- An element holds itself and all that is below it, through the elements of pages, groups and
forms and the columns and row actions of tables. -/
inductive Holds : Element → Element → Prop
  | self (e : Element) : Holds e e
  | inPage {h : ElementHeader} {title : Option String} {elements : List Element}
      {child e : Element} (mem : child ∈ elements) (below : Holds child e) :
      Holds (page h title elements) e
  | inGroup {h : ElementHeader} {elements : List Element} {child e : Element}
      (mem : child ∈ elements) (below : Holds child e) : Holds (group h elements) e
  | inColumn {h : ElementHeader} {columns rowActions : List Element} {child e : Element}
      (mem : child ∈ columns) (below : Holds child e) : Holds (table h columns rowActions) e
  | inRowAction {h : ElementHeader} {columns rowActions : List Element} {child e : Element}
      (mem : child ∈ rowActions) (below : Holds child e) : Holds (table h columns rowActions) e
  | inForm {h : ElementHeader} {settings : FormSettings} {elements : List Element}
      {child e : Element} (mem : child ∈ elements) (below : Holds child e) :
      Holds (form h settings elements) e

/-- The element that some steps lead to: to the child of a number, to a child of that, and so on. -/
def descendant? (e : Element) : List Nat → Option Element
  | [] => some e
  | i :: steps => e.children[i]?.bind fun child => child.descendant? steps

def reached? (es : List Element) : List Nat → Option Element
  | [] => none
  | i :: steps => es[i]?.bind fun e => e.descendant? steps

/-- Of all that can be reached the first with the id, and where it is. -/
structure IsFirst {ι : Type} [LT ι] (look : ι → Option Element) (id : String) (location : ι)
    (e : Element) : Prop where
  found : look location = some e
  carries : e.id = some id
  bare : ∀ earlier other, earlier < location → look earlier = some other → other.id ≠ some id

variable {id : String} {e f : Element} {es : List Element}

theorem holds_iff : e.Holds f ↔ f = e ∨ ∃ child ∈ e.children, child.Holds f := by
  constructor
  · intro held
    cases held with
    | self => exact .inl rfl
    | inPage mem below => exact .inr ⟨_, mem, below⟩
    | inGroup mem below => exact .inr ⟨_, mem, below⟩
    | inColumn mem below => exact .inr ⟨_, List.mem_append_left _ mem, below⟩
    | inRowAction mem below => exact .inr ⟨_, List.mem_append_right _ mem, below⟩
    | inForm mem below => exact .inr ⟨_, mem, below⟩
  · rintro (rfl | ⟨child, mem, below⟩)
    · exact .self f
    · cases e with
      | page h title elements => exact .inPage mem below
      | group h elements => exact .inGroup mem below
      | table h columns rowActions =>
          rcases List.mem_append.mp mem with mem | mem
          · exact .inColumn mem below
          · exact .inRowAction mem below
      | form h settings elements => exact .inForm mem below
      | input h format => exact nomatch mem
      | display h => exact nomatch mem
      | button h action => exact nomatch mem

theorem mem_preorder_iff : f ∈ e.preorder ↔ e.Holds f := by
  induction e using children_induction with
  | step e ih =>
      rw [preorder_eq, preorderIn_eq, holds_iff, List.mem_cons, List.mem_flatMap]
      exact or_congr_right (exists_congr fun child => and_congr_right fun mem => ih child mem)

theorem mem_preorderIn_iff : f ∈ preorderIn es ↔ ∃ e ∈ es, e.Holds f := by
  rw [preorderIn_eq, List.mem_flatMap]
  exact exists_congr fun e => and_congr_right fun _ => mem_preorder_iff

theorem exists_reached?_iff :
    (∃ steps, reached? es steps = some f) ↔ ∃ e ∈ es, ∃ steps, e.descendant? steps = some f := by
  constructor
  · rintro ⟨_ | ⟨i, steps⟩, found⟩
    · cases found
    · obtain ⟨e, here, below⟩ := Option.bind_eq_some_iff.mp found
      exact ⟨e, List.mem_of_getElem? here, steps, below⟩
  · rintro ⟨e, mem, steps, below⟩
    obtain ⟨i, here⟩ := List.mem_iff_getElem?.mp mem
    exact ⟨i :: steps, Option.bind_eq_some_iff.mpr ⟨e, here, below⟩⟩

theorem exists_descendant?_iff :
    (∃ steps, e.descendant? steps = some f) ↔
      f = e ∨ ∃ steps, reached? e.children steps = some f := by
  constructor
  · rintro ⟨_ | ⟨i, steps⟩, found⟩
    · exact .inl (Option.some.inj found).symm
    · exact .inr ⟨i :: steps, found⟩
  · rintro (rfl | ⟨_ | ⟨i, steps⟩, found⟩)
    · exact ⟨[], rfl⟩
    · cases found
    · exact ⟨i :: steps, found⟩

theorem holds_iff_descendant? : e.Holds f ↔ ∃ steps, e.descendant? steps = some f := by
  induction e using children_induction with
  | step e ih =>
      rw [holds_iff, exists_descendant?_iff, exists_reached?_iff]
      exact or_congr_right (exists_congr fun child => and_congr_right fun mem => ih child mem)

theorem holds_iff_reached? : (∃ e ∈ es, e.Holds f) ↔ ∃ steps, reached? es steps = some f := by
  rw [exists_reached?_iff]
  exact exists_congr fun e => and_congr_right fun _ => holds_iff_descendant?

theorem find?_eq_none_iff : e.find? id = none ↔ ∀ f, e.Holds f → f.id ≠ some id := by
  rw [find?_eq, List.find?_eq_none]
  exact forall_congr' fun f => imp_congr mem_preorder_iff (by simp [hasId])

theorem findIn?_eq_none_iff :
    findIn? id es = none ↔ ∀ e ∈ es, ∀ f, e.Holds f → f.id ≠ some id := by
  rw [findIn?_eq, List.find?_eq_none]
  simp only [mem_preorderIn_iff, hasId, decide_eq_true_eq]
  exact ⟨fun bare e mem f held => bare f ⟨e, mem, held⟩,
    fun bare f ⟨e, mem, held⟩ => bare e mem f held⟩

theorem id_ne_of_reached? {steps : List Nat} (missing : findIn? id es = none)
    (reached : reached? es steps = some f) : f.id ≠ some id := by
  obtain ⟨root, mem, held⟩ := holds_iff_reached?.mpr ⟨steps, reached⟩
  exact findIn?_eq_none_iff.mp missing root mem f held

theorem find?_eq_ite : e.find? id = if e.id = some id then some e else findIn? id e.children := by
  rw [find?_eq, preorder_eq, List.find?_cons, findIn?_eq]
  by_cases here : e.id = some id <;> simp [hasId, here]

theorem findIn?_eq_findSome? : findIn? id es = es.findSome? (find? id) := by
  induction es with
  | nil => rfl
  | cons e rest ih => rw [findIn?, ih, List.findSome?_cons]; cases e.find? id <;> rfl

theorem isFirst_of_roots
    (roots : ∀ e ∈ es, ∀ f, e.find? id = some f → ∃ steps, IsFirst e.descendant? id steps f)
    (found : findIn? id es = some f) : ∃ steps, IsFirst (reached? es) id steps f := by
  rw [findIn?_eq_findSome?] at found
  obtain ⟨before, e, after, rfl, here, earlierRoots⟩ := List.findSome?_eq_some_iff.mp found
  obtain ⟨steps, below, carries, bare⟩ := roots e (by simp) f here
  refine ⟨before.length :: steps, by simp [reached?, below], carries, ?_⟩
  rintro (_ | ⟨i, earlier⟩) other less reached
  · cases reached
  · obtain ⟨root, isRoot, down⟩ := Option.bind_eq_some_iff.mp reached
    rcases List.cons_lt_cons_iff.mp less with isEarlier | ⟨rfl, isEarlier⟩
    · rw [List.getElem?_append_left isEarlier] at isRoot
      exact find?_eq_none_iff.mp (earlierRoots root (List.mem_of_getElem? isRoot)) other
        (holds_iff_descendant?.mpr ⟨earlier, down⟩)
    · obtain rfl : e = root := by simpa using isRoot
      exact bare earlier other isEarlier down

theorem isFirst_of_find? (found : e.find? id = some f) :
    ∃ steps, IsFirst e.descendant? id steps f := by
  induction e using children_induction generalizing f with
  | step e ih =>
      rw [find?_eq_ite] at found
      split at found
      case isTrue here =>
        obtain rfl := Option.some.inj found
        exact ⟨[], rfl, here, fun earlier _ less => absurd less (List.not_lt_nil earlier)⟩
      case isFalse apart =>
        obtain ⟨_ | ⟨i, steps⟩, reached, carries, bare⟩ :=
          isFirst_of_roots (fun child mem _ => ih child mem) found
        · cases reached
        · refine ⟨i :: steps, reached, carries, ?_⟩
          -- The element itself comes before all below it.
          rintro (_ | ⟨j, earlier⟩) other less there
          · exact Option.some.inj there ▸ apart
          · exact bare (j :: earlier) other less there

theorem isFirst_of_findIn? (found : findIn? id es = some f) :
    ∃ steps, IsFirst (reached? es) id steps f :=
  isFirst_of_roots (fun _ _ _ => isFirst_of_find?) found

end Element

theorem Directory.get?_eq_some_iff {α : Type} {d : Directory α} {name : String} {value : α} :
    d.get? name = some value ↔ (name, value) ∈ d.entries := by
  refine ⟨fun found => ?_, get?_of_mem⟩
  obtain ⟨before, after, entries, -⟩ := List.lookup_eq_some_iff.mp found
  rw [entries]
  exact List.mem_append_right before (.head after)

theorem Directory.mem_before {α : Type} {d : Directory α} {before after : List (String × α)}
    {entry pivot : String × α} (entries : d.entries = before ++ pivot :: after)
    (mem : entry ∈ d.entries) (less : entry.1 < pivot.1) : entry ∈ before := by
  have ordered := d.ordered
  rw [entries, List.pairwise_append, List.pairwise_cons] at ordered
  rw [entries, List.mem_append, List.mem_cons] at mem
  rcases mem with mem | rfl | mem
  · exact mem
  · exact absurd less (String.lt_irrefl _)
  · exact absurd (String.lt_trans less (ordered.2.1.1 entry mem)) (String.lt_irrefl _)

namespace Schema

inductive Location
  | page (steps : List Nat)
  | drawer (name : String) (steps : List Nat)

/-- Document order: the page before the drawers, the drawers by name. -/
inductive Location.Precedes : Location → Location → Prop
  | onPage {steps others : List Nat} (less : steps < others) : Precedes (page steps) (page others)
  | pageFirst {steps others : List Nat} {name : String} :
      Precedes (page steps) (drawer name others)
  | byName {steps others : List Nat} {name other : String} (less : name < other) :
      Precedes (drawer name steps) (drawer other others)
  | inDrawer {steps others : List Nat} {name : String} (less : steps < others) :
      Precedes (drawer name steps) (drawer name others)

instance : LT Location := ⟨Location.Precedes⟩

theorem Location.trichotomy (l m : Location) : l < m ∨ l = m ∨ m < l := by
  cases l with
  | page steps =>
      cases m with
      | page others =>
          rcases lt_trichotomy steps others with less | rfl | less
          · exact .inl (.onPage less)
          · exact .inr (.inl rfl)
          · exact .inr (.inr (.onPage less))
      | drawer other others => exact .inl .pageFirst
  | drawer name steps =>
      cases m with
      | page others => exact .inr (.inr .pageFirst)
      | drawer other others =>
          rcases lt_trichotomy name other with less | rfl | less
          · exact .inl (.byName less)
          · rcases lt_trichotomy steps others with less | rfl | less
            · exact .inl (.inDrawer less)
            · exact .inr (.inl rfl)
            · exact .inr (.inr (.inDrawer less))
          · exact .inr (.inr (.byName less))

variable {s : Schema} {id : String} {e f : Element}

inductive Holds (s : Schema) (e : Element) : Prop
  | onPage {root : Element} (mem : root ∈ s.elements) (held : root.Holds e)
  | inDrawer {name : String} {drawer : DrawerDefinition} {root : Element}
      (entry : s.drawers.get? name = some drawer) (mem : root ∈ drawer.elements)
      (held : root.Holds e)

def elementAt? (s : Schema) : Location → Option Element
  | .page steps => Element.reached? s.elements steps
  | .drawer name steps =>
      (s.drawers.get? name).bind fun drawer => Element.reached? drawer.elements steps

theorem holds_iff_elementAt? : s.Holds e ↔ ∃ location, s.elementAt? location = some e := by
  constructor
  · rintro (⟨mem, held⟩ | ⟨entry, mem, held⟩)
    · obtain ⟨steps, reached⟩ := Element.holds_iff_reached?.mp ⟨_, mem, held⟩
      exact ⟨.page steps, reached⟩
    · obtain ⟨steps, reached⟩ := Element.holds_iff_reached?.mp ⟨_, mem, held⟩
      exact ⟨.drawer _ steps, Option.bind_eq_some_iff.mpr ⟨_, entry, reached⟩⟩
  · rintro ⟨steps | ⟨name, steps⟩, found⟩
    · obtain ⟨root, mem, held⟩ := Element.holds_iff_reached?.mpr ⟨steps, found⟩
      exact .onPage mem held
    · obtain ⟨drawer, entry, reached⟩ := Option.bind_eq_some_iff.mp found
      obtain ⟨root, mem, held⟩ := Element.holds_iff_reached?.mpr ⟨steps, reached⟩
      exact .inDrawer entry mem held

theorem findElement?_eq_none_iff :
    s.findElement? id = none ↔ ∀ e, s.Holds e → e.id ≠ some id := by
  simp only [findElement?, Option.or_eq_none_iff, List.findSome?_eq_none_iff,
    Element.findIn?_eq_none_iff]
  constructor
  · rintro ⟨page, drawers⟩ e (⟨mem, held⟩ | ⟨entry, mem, held⟩)
    · exact page _ mem e held
    · exact drawers (_, _) (Directory.get?_eq_some_iff.mp entry) _ mem e held
  · intro bare
    refine ⟨fun root mem e held => bare e (.onPage mem held), ?_⟩
    rintro ⟨name, drawer⟩ entry root mem e held
    exact bare e (.inDrawer (Directory.get?_of_mem entry) mem held)

theorem isFirst_of_findElement? (found : s.findElement? id = some e) :
    ∃ location, Element.IsFirst s.elementAt? id location e := by
  rw [findElement?, Option.or_eq_some_iff] at found
  rcases found with found | ⟨offPage, found⟩
  · obtain ⟨steps, reached, carries, bare⟩ := Element.isFirst_of_findIn? found
    refine ⟨.page steps, reached, carries, ?_⟩
    intro earlier other precedes there
    cases precedes with
    | onPage less => exact bare _ other less there
  · obtain ⟨before, ⟨name, drawer⟩, after, entries, found, earlierDrawers⟩ :=
      List.findSome?_eq_some_iff.mp found
    have entry : s.drawers.get? name = some drawer := Directory.get?_of_mem (by simp [entries])
    obtain ⟨steps, reached, carries, bare⟩ := Element.isFirst_of_findIn? found
    refine ⟨.drawer name steps, by simp [elementAt?, entry, reached], carries, ?_⟩
    intro earlier other precedes there
    cases precedes with
    | pageFirst => exact Element.id_ne_of_reached? offPage there
    | byName less =>
        obtain ⟨_, earlierEntry, reached⟩ := Option.bind_eq_some_iff.mp there
        have isEarlier :=
          Directory.mem_before entries (Directory.get?_eq_some_iff.mp earlierEntry) less
        exact Element.id_ne_of_reached? (earlierDrawers _ isEarlier) reached
    | inDrawer less =>
        rw [elementAt?, entry] at there
        exact bare _ other less there

theorem isFirst_unique {l m : Location} (first : Element.IsFirst s.elementAt? id l e)
    (second : Element.IsFirst s.elementAt? id m f) : e = f := by
  rcases l.trichotomy m with less | rfl | less
  · exact absurd first.carries (second.bare l e less first.found)
  · exact Option.some.inj (first.found.symm.trans second.found)
  · exact absurd second.carries (first.bare m f less second.found)

/-- An id is found exactly when some element that the screen holds carries it, and then the element
at the first location in document order that has one; what a screen holds are the elements at its
locations. -/
theorem lookup_finds_first_in_document_order (s : Schema) (id : String) :
    ((s.findElement? id).isSome = true ↔ ∃ e, s.Holds e ∧ e.id = some id) ∧
    (∀ e, s.findElement? id = some e ↔
      ∃ location, Element.IsFirst s.elementAt? id location e) ∧
    ∀ e, s.Holds e ↔ ∃ location, s.elementAt? location = some e := by
  have complete : (s.findElement? id).isSome = true ↔ ∃ e, s.Holds e ∧ e.id = some id := by
    rw [Option.isSome_iff_ne_none, ne_eq, findElement?_eq_none_iff]
    push Not
    rfl
  refine ⟨complete, fun e => ⟨isFirst_of_findElement?, ?_⟩, fun e => holds_iff_elementAt?⟩
  rintro ⟨location, first⟩
  have held : s.Holds e := holds_iff_elementAt?.mpr ⟨location, first.found⟩
  obtain ⟨other, found⟩ := Option.isSome_iff_exists.mp (complete.mpr ⟨e, held, first.carries⟩)
  obtain ⟨_, other_first⟩ := isFirst_of_findElement? found
  rw [found, isFirst_unique first other_first]

example :
    let button (label : String) : Element :=
      .button ⟨some "edit", none, some label, false, none⟩ (.drawer "edit")
    let table : Element := .table ⟨none, none, none, false, none⟩
      [.group ⟨none, none, none, false, none⟩ [button "inner"], button "next"] [button "row"]
    (Schema.mk "/api/contacts" .empty .empty [table]).findElement? "edit" =
      some (button "inner") := rfl

end Schema

end DeclaredScreens
