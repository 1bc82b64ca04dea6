import DeclaredScreens.Element.Basic

/-! The elements of a tree in their order: parents first, and then their children in the order in
which they stand. What holds of an element once it holds of its children holds of all elements. -/

namespace DeclaredScreens.Element

mutual

def preorder : Element → List Element
  | page h title elements => page h title elements :: preorderIn elements
  | group h elements => group h elements :: preorderIn elements
  | table h columns rowActions =>
      table h columns rowActions :: (preorderIn columns ++ preorderIn rowActions)
  | form h settings elements => form h settings elements :: preorderIn elements
  | input h format => [input h format]
  | display h => [display h]
  | button h action => [button h action]

def preorderIn : List Element → List Element
  | [] => []
  | e :: rest => preorder e ++ preorderIn rest

end

theorem preorderIn_eq (es : List Element) : preorderIn es = es.flatMap preorder := by
  induction es with
  | nil => rfl
  | cons e rest ih => rw [preorderIn, ih, List.flatMap_cons]

theorem preorderIn_append (es fs : List Element) :
    preorderIn (es ++ fs) = preorderIn es ++ preorderIn fs := by
  simp only [preorderIn_eq, List.flatMap_append]

theorem preorder_eq (e : Element) : e.preorder = e :: preorderIn e.children := by
  cases e <;> simp only [preorder, children, preorderIn_append] <;> rfl

section Induction

variable {P : Element → Prop}

mutual

/-- What every element has if its children have it, every element has. -/
theorem children_induction (step : ∀ e, (∀ child ∈ e.children, P child) → P e) (e : Element) :
    P e := by
  refine step e ?_
  cases e with
  | page h title elements => exact children_induction_all step elements
  | group h elements => exact children_induction_all step elements
  | table h columns rowActions =>
      intro child mem
      rcases List.mem_append.mp mem with mem | mem
      · exact children_induction_all step columns child mem
      · exact children_induction_all step rowActions child mem
  | form h settings elements => exact children_induction_all step elements
  | input h format => exact nofun
  | display h => exact nofun
  | button h action => exact nofun
termination_by structural e

theorem children_induction_all (step : ∀ e, (∀ child ∈ e.children, P child) → P e)
    (es : List Element) : ∀ e ∈ es, P e := by
  cases es with
  | nil => exact nofun
  | cons e rest =>
      exact List.forall_mem_cons.mpr
        ⟨children_induction step e, children_induction_all step rest⟩
termination_by structural es

end

end Induction

end DeclaredScreens.Element
