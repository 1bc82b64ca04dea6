import DeclaredScreens.Proofs.FieldErrors
import DeclaredScreens.Proofs.Preorder
import Mathlib.Data.List.Induction

/-! The required fields of a form. Going through a tree of elements notes the names of those that
are required in the order of the tree, each when it first comes up; so the fields of two lists of
elements are those of the first and what the second adds. -/

namespace DeclaredScreens

namespace Form

variable {names touched : List String}

theorem mark_of_mem {name : String} (mem : name ∈ touched) : mark touched name = touched :=
  if_pos (List.contains_iff_mem.mpr mem)

theorem mark_of_not_mem {name : String} (new : name ∉ touched) :
    mark touched name = touched ++ [name] :=
  if_neg (mt List.contains_iff_mem.mp new)

theorem foldl_mark_eq (names touched : List String) :
    names.foldl mark touched =
      touched ++ (names.foldl mark []).filter fun name => name ∉ touched := by
  induction names using List.reverseRecOn with
  | nil => simp
  | append_singleton names name ih =>
      rw [List.foldl_append, List.foldl_append, List.foldl_cons, List.foldl_cons, List.foldl_nil,
        List.foldl_nil, ih]
      by_cases marked : name ∈ names.foldl mark []
      · rw [mark_of_mem marked, mark_of_mem]
        by_cases here : name ∈ touched <;> simp [here, marked]
      · rw [mark_of_not_mem marked, List.filter_append]
        by_cases here : name ∈ touched
        · rw [mark_of_mem (by simp [here])]
          simp [here]
        · rw [mark_of_not_mem (by simp [here, marked])]
          simp [here]

theorem pairwise_foldl_mark (names : List String) :
    (names.foldl mark []).Pairwise fun first second =>
      names.idxOf first < names.idxOf second := by
  induction names using List.reverseRecOn with
  | nil => exact .nil
  | append_singleton names name ih =>
      have seen {other : String} (mem : other ∈ names.foldl mark []) : other ∈ names := by
        simpa [mem_foldl_mark] using mem
      have kept : (names.foldl mark []).Pairwise fun first second =>
          (names ++ [name]).idxOf first < (names ++ [name]).idxOf second := by
        refine ih.imp_of_mem fun first second less => ?_
        rwa [List.idxOf_append_of_mem (seen first), List.idxOf_append_of_mem (seen second)]
      rw [List.foldl_append, List.foldl_cons, List.foldl_nil]
      by_cases marked : name ∈ names.foldl mark []
      · rwa [mark_of_mem marked]
      · rw [mark_of_not_mem marked, List.pairwise_append]
        refine ⟨kept, List.pairwise_singleton .., fun first mem second last => ?_⟩
        obtain rfl := List.mem_singleton.mp last
        have absent : second ∉ names := fun mem => marked (mem_foldl_mark.mpr (.inl mem))
        rw [List.idxOf_append_of_mem (seen mem), List.idxOf_append_of_notMem absent]
        exact Nat.lt_of_lt_of_le (List.idxOf_lt_length_of_mem (seen mem)) (Nat.le_add_right ..)

theorem nodup_foldl_mark (names : List String) : (names.foldl mark []).Nodup :=
  (pairwise_foldl_mark names).imp fun less same => absurd (same ▸ less) (Nat.lt_irrefl _)

end Form

namespace Element

variable {es : List Element} {name : String}

def requiredName? (e : Element) : Option String := if e.header.required then e.name else none

theorem requiredName?_eq_some_iff {e : Element} :
    e.requiredName? = some name ↔ e.header.required = true ∧ e.name = some name := by
  simp [requiredName?]

def requiredNames (es : List Element) : List String := (preorderIn es).filterMap requiredName?

theorem noteRequired_eq (names : List String) (e : Element) :
    noteRequired names e.header = e.requiredName?.toList.foldl Form.mark names := by
  have noted : e.name = e.header.name := rfl
  cases required : e.header.required <;> cases named : e.header.name <;>
    simp [noteRequired, requiredName?, Form.mark, required, noted, named]

theorem collectRequiredIn_eq_foldl (names : List String) (es : List Element) :
    collectRequiredIn names es = es.foldl collectRequired names := by
  induction es generalizing names with
  | nil => rfl
  | cons e rest ih => exact ih (collectRequired names e)

theorem collectRequired_eq_children (names : List String) (e : Element) :
    collectRequired names e = collectRequiredIn (noteRequired names e.header) e.children := by
  cases e with
  | table h columns rowActions =>
      simp only [collectRequired, children, header, collectRequiredIn_eq_foldl, List.foldl_append]
  | _ => rfl

theorem requiredNames_append (es fs : List Element) :
    requiredNames (es ++ fs) = requiredNames es ++ requiredNames fs := by
  simp only [requiredNames, preorderIn_append, List.filterMap_append]

def Marks (e : Element) : Prop :=
  ∀ names, collectRequired names e = (requiredNames [e]).foldl Form.mark names

theorem collectRequiredIn_eq (each : ∀ e ∈ es, e.Marks) (names : List String) :
    collectRequiredIn names es = (requiredNames es).foldl Form.mark names := by
  induction es generalizing names with
  | nil => rfl
  | cons e rest ih =>
      obtain ⟨first, later⟩ := List.forall_mem_cons.mp each
      rw [collectRequiredIn, first, ih later, ← List.foldl_append, ← requiredNames_append]
      rfl

theorem requiredNames_singleton (e : Element) :
    requiredNames [e] = e.requiredName?.toList ++ requiredNames e.children := by
  rw [requiredNames, preorderIn, preorderIn, List.append_nil, preorder_eq, requiredNames]
  cases named : e.requiredName? <;> simp [named]

theorem marks (e : Element) : e.Marks := by
  induction e using children_induction with
  | step e ih =>
      intro names
      rw [collectRequired_eq_children, noteRequired_eq, collectRequiredIn_eq ih,
        requiredNames_singleton, List.foldl_append]

theorem requiredFields_eq (es : List Element) :
    requiredFields es = (requiredNames es).foldl Form.mark [] :=
  collectRequiredIn_eq (fun e _ => e.marks) []

/-- The required fields of a forest are the names of the required elements in it, at any depth, each
once and in the order in which they first come up. More elements add the fields that are new. -/
theorem required_fields_by_first_occurrence (es more : List Element) :
    (requiredFields es).Nodup ∧
    (∀ name, name ∈ requiredFields es ↔
      ∃ e ∈ preorderIn es, e.header.required = true ∧ e.name = some name) ∧
    ((requiredFields es).Pairwise fun first second =>
      (requiredNames es).idxOf first < (requiredNames es).idxOf second) ∧
    requiredFields (es ++ more) =
      requiredFields es ++ (requiredFields more).filter fun name => name ∉ requiredFields es := by
  refine ⟨?_, fun name => ?_, ?_, ?_⟩
  · rw [requiredFields_eq]
    exact Form.nodup_foldl_mark _
  · rw [requiredFields_eq, Form.mem_foldl_mark, requiredNames, List.mem_filterMap]
    simp [requiredName?_eq_some_iff]
  · rw [requiredFields_eq]
    exact Form.pairwise_foldl_mark _
  · simp only [requiredFields_eq, requiredNames_append, List.foldl_append]
    exact Form.foldl_mark_eq _ _

end Element

end DeclaredScreens
