import DeclaredScreens.Rule
import Mathlib.Logic.ExistsUnique

/-! The operators of conditions. Equality sees a value as a scalar, if it is one, and a number as
the double that it stands for. The orders see the same doubles, so that of two numbers exactly one
of LT, EQ and GT holds. No operator tells two fields apart that are equal as documents. -/

namespace DeclaredScreens

namespace Json

/-- What equality sees of a value that is no array and no object. -/
inductive Scalar
  | null
  | bool (value : Bool)
  | number (units : Int)
  | string (value : String)

def scalar? : Json → Option Scalar
  | null => some .null
  | bool b => some (.bool b)
  | number n => some (.number n.toBinary64.units)
  | string s => some (.string s)
  | array _ => none
  | object _ => none

def isScalar (j : Json) : Bool := j.scalar?.isSome

variable {v w x : Json} {field : Option Json}

theorem equals_iff {literal : Json} :
    equals field literal = true ↔
      ∃ seen, field.bind scalar? = some seen ∧ literal.scalar? = some seen := by
  cases field with
  | none => simp [equals]
  | some v => cases v <;> cases literal <;> simp [equals, scalar?, eq_comm]

theorem equals_refl (scalar : v.isScalar = true) : equals (some v) v = true := by
  obtain ⟨seen, sees⟩ := Option.isSome_iff_exists.mp scalar
  exact equals_iff.mpr ⟨seen, sees, sees⟩

theorem equals_symm (equal : equals (some v) w = true) : equals (some w) v = true := by
  obtain ⟨seen, left, right⟩ := equals_iff.mp equal
  exact equals_iff.mpr ⟨seen, right, left⟩

theorem equals_trans (first : equals (some v) w = true) (second : equals (some w) x = true) :
    equals (some v) x = true := by
  obtain ⟨seen, left, middle⟩ := equals_iff.mp first
  obtain ⟨seen', middle', right⟩ := equals_iff.mp second
  obtain rfl : seen = seen' := Option.some.inj (middle.symm.trans middle')
  exact equals_iff.mpr ⟨seen, left, right⟩

theorem isScalar_of_equals {literal : Json} (equal : equals field literal = true) :
    ∃ v, field = some v ∧ v.isScalar = true := by
  obtain ⟨seen, found, -⟩ := equals_iff.mp equal
  obtain ⟨v, rfl, sees⟩ := Option.bind_eq_some_iff.mp found
  exact ⟨v, rfl, by simp [isScalar, sees]⟩

theorem isEmpty_of_isNull (null : isNull field = true) : isEmpty field = true := by
  cases field with
  | none => rfl
  | some v => cases v <;> simp_all [isNull, isEmpty]

theorem asNumber_eq_some_iff {f : Binary64} :
    asNumber field = some f ↔ ∃ n, field = some (.number n) ∧ n.toBinary64 = f := by
  cases field with
  | none => simp [asNumber]
  | some v => cases v <;> simp [asNumber]

def SameField (a b : Option Json) : Prop :=
  a = b ∨ Option.Rel (fun v w => v.same w = true) a b

theorem units_eq_of_same {m n : Number} (same : m.same n = true) :
    m.toBinary64.units = n.toBinary64.units := by
  cases m <;> cases n <;> simp_all [Number.same, Number.toBinary64]

theorem isEmpty_eq_of_sameItems {xs ys : List Json} (same : sameItems xs ys = true) :
    xs.isEmpty = ys.isEmpty := by
  cases xs <;> cases ys <;> simp_all [sameItems]

/-- What is left of the equality of two documents when only their outermost layer is looked at. -/
theorem alike_of_same (same : v.same w = true) :
    v = w ∨
    (∃ m n, v = .number m ∧ w = .number n ∧ m.toBinary64.units = n.toBinary64.units) ∨
    (∃ xs ys, v = .array xs ∧ w = .array ys ∧ xs.isEmpty = ys.isEmpty) ∨
    ∃ ms ns, v = .object ms ∧ w = .object ns := by
  cases v <;> cases w <;> simp only [Json.same, Bool.false_eq_true] at same
  case null.null => exact .inl rfl
  case bool.bool a b => exact .inl (by simpa using same)
  case number.number m n => exact .inr (.inl ⟨m, n, rfl, rfl, units_eq_of_same same⟩)
  case string.string s t => exact .inl (by simpa using same)
  case array.array xs ys =>
    exact .inr (.inr (.inl ⟨xs, ys, rfl, rfl, isEmpty_eq_of_sameItems same⟩))
  case object.object ms ns => exact .inr (.inr (.inr ⟨ms, ns, rfl, rfl⟩))

end Json

namespace Condition

variable {field other : Option Json} {values : List Json}

theorem compareFirst_iff {order : Int → Int → Bool} :
    compareFirst order field values = true ↔
      ∃ m n, field = some (.number m) ∧ values.head? = some (.number n) ∧
        order m.toBinary64.units n.toBinary64.units = true := by
  unfold compareFirst
  split
  · next actual expected =>
      obtain ⟨m, rfl, rfl⟩ := Json.asNumber_eq_some_iff.mp actual
      obtain ⟨n, first, rfl⟩ := Json.asNumber_eq_some_iff.mp expected
      simp [first]
  · next apart =>
      simp only [Bool.false_eq_true, false_iff]
      rintro ⟨m, n, rfl, first, -⟩
      exact apart m.toBinary64 n.toBinary64 rfl (by simp [first, Json.asNumber])

theorem isString_of_containsAny (met : containsAny field values = true) :
    ∃ s, field = some (.string s) := by
  unfold containsAny at met
  split at met
  · next s => exact ⟨s, rfl⟩
  · cases met

theorem containsAny_append (xs ys : List Json) :
    containsAny field (xs ++ ys) = (containsAny field xs || containsAny field ys) := by
  unfold containsAny
  split
  · exact List.any_append
  · rfl

theorem holdsFor_congr_number {m n : Number} (units : m.toBinary64.units = n.toBinary64.units)
    (operator : Operator) :
    holdsFor operator (some (.number m)) values = holdsFor operator (some (.number n)) values := by
  have equals : Json.equals (some (.number m)) = Json.equals (some (.number n)) := by
    funext literal
    cases literal <;> simp [Json.equals, units]
  have first : equalsFirst (some (.number m)) values = equalsFirst (some (.number n)) values := by
    cases values <;> simp [equalsFirst, equals]
  have compared (order : Int → Int → Bool) :
      compareFirst order (some (.number m)) values =
        compareFirst order (some (.number n)) values := by
    rw [Bool.eq_iff_iff, compareFirst_iff, compareFirst_iff]
    simp [units]
  cases operator with
  | eq | neq => simp only [holdsFor, first]
  | lt | lte | gt | gte => simp only [holdsFor, compared]
  | isIn | notIn => simp only [holdsFor, isMember, equals]
  | _ => rfl

theorem holdsFor_congr (agree : Json.SameField field other) (operator : Operator) :
    holdsFor operator field values = holdsFor operator other values := by
  rcases agree with rfl | present
  · rfl
  cases present with
  | none => rfl
  | some same =>
      rcases Json.alike_of_same same with
        rfl | ⟨m, n, rfl, rfl, units⟩ | ⟨xs, ys, rfl, rfl, empty⟩ | ⟨ms, ns, rfl, rfl⟩
      · rfl
      · exact holdsFor_congr_number units operator
      · cases operator with
        | empty | nempty => simp only [holdsFor, Json.isEmpty, empty]
        | _ => rfl
      · cases operator <;> rfl

theorem isMember_iff : isMember field values = true ↔ ∃ v ∈ values, equalsFirst field [v] = true :=
  List.any_eq_true

theorem isScalar_of_equalsFirst (met : equalsFirst field values = true) :
    ∃ v, field = some v ∧ v.isScalar = true := by
  cases values with
  | nil => cases met
  | cons literal rest => exact Json.isScalar_of_equals met

end Condition

/-- What the operators of conditions on one field owe each other; `met` tells of each operator and
list of values whether the condition is met. -/
structure Operator.Laws (field : Option Json) (met : Operator → List Json → Bool) : Prop where
  neq_eq : ∀ values, met .neq values = !met .eq values
  nnull_eq : ∀ values, met .nnull values = !met .null values
  nempty_eq : ∀ values, met .nempty values = !met .empty values
  notIn_eq : ∀ values, met .notIn values = !met .isIn values
  isIn_iff : ∀ values, met .isIn values = true ↔ ∃ v ∈ values, met .eq [v] = true
  empty_of_null : ∀ values, met .null values = true → met .empty values = true
  scalar_of_eq : ∀ values, met .eq values = true → ∃ v, field = some v ∧ v.isScalar = true
  contains_append : ∀ xs ys, met .contains (xs ++ ys) = (met .contains xs || met .contains ys)
  string_of_contains : ∀ values, met .contains values = true → ∃ s, field = some (.string s)
  numbers_of_order : ∀ operator ∈ [Operator.lt, .lte, .gt, .gte], ∀ values,
    met operator values = true →
      ∃ m n, field = some (.number m) ∧ values.head? = some (.number n)
  trichotomy : ∀ m n rest, field = some (.number m) →
    ∃! operator, operator ∈ [Operator.lt, .eq, .gt] ∧ met operator (.number n :: rest) = true
  lte_eq : ∀ m n rest, field = some (.number m) →
    met .lte (.number n :: rest) = (met .lt (.number n :: rest) || met .eq (.number n :: rest))
  gte_eq : ∀ m n rest, field = some (.number m) →
    met .gte (.number n :: rest) = (met .gt (.number n :: rest) || met .eq (.number n :: rest))

def Operator.ofOrdering : Ordering → Operator
  | .lt => .lt
  | .eq => .eq
  | .gt => .gt

namespace Condition

theorem holdsFor_numbers_iff {operator : Operator} (asked : operator ∈ [Operator.lt, .eq, .gt])
    (m n : Number) (rest : List Json) :
    holdsFor operator (some (.number m)) (.number n :: rest) = true ↔
      operator = .ofOrdering (compare m.toBinary64.units n.toBinary64.units) := by
  have orders (order : Ordering) : (Operator.lt = .ofOrdering order ↔ order = .lt) ∧
      (Operator.eq = .ofOrdering order ↔ order = .eq) ∧
      (Operator.gt = .ofOrdering order ↔ order = .gt) := by
    cases order <;> simp [Operator.ofOrdering]
  obtain ⟨less, equal, greater⟩ := orders (compare m.toBinary64.units n.toBinary64.units)
  simp only [List.mem_cons, List.not_mem_nil, or_false] at asked
  rcases asked with rfl | rfl | rfl
  · rw [less, Int.compare_eq_lt]
    exact decide_eq_true_iff
  · rw [equal, Int.compare_eq_eq]
    exact decide_eq_true_iff
  · rw [greater, Int.compare_eq_gt]
    exact decide_eq_true_iff

theorem holdsFor_trichotomy (m n : Number) (rest : List Json) :
    ∃! operator, operator ∈ [Operator.lt, .eq, .gt] ∧
      holdsFor operator (some (.number m)) (.number n :: rest) = true := by
  have asked (order : Ordering) : .ofOrdering order ∈ [Operator.lt, .eq, .gt] := by
    cases order <;> simp [Operator.ofOrdering]
  exact ⟨_, ⟨asked _, (holdsFor_numbers_iff (asked _) m n rest).mpr rfl⟩,
    fun operator ⟨among, met⟩ => (holdsFor_numbers_iff among m n rest).mp met⟩

theorem compareFirst_or_equal (weak strict : Int → Int → Bool)
    (splits : ∀ a b, weak a b = (strict a b || decide (a = b))) (m n : Number) (rest : List Json) :
    compareFirst weak (some (.number m)) (.number n :: rest) =
      (compareFirst strict (some (.number m)) (.number n :: rest) ||
        equalsFirst (some (.number m)) (.number n :: rest)) := splits _ _

theorem holdsFor_laws (field : Option Json) :
    Operator.Laws field fun operator values => holdsFor operator field values where
  neq_eq _ := rfl
  nnull_eq _ := rfl
  nempty_eq _ := rfl
  notIn_eq _ := rfl
  isIn_iff _ := isMember_iff
  empty_of_null _ := Json.isEmpty_of_isNull
  scalar_of_eq _ := isScalar_of_equalsFirst
  contains_append := containsAny_append
  string_of_contains _ := isString_of_containsAny
  numbers_of_order operator among values met := by
    simp only [List.mem_cons, List.not_mem_nil, or_false] at among
    obtain ⟨order, compared⟩ : ∃ order, compareFirst order field values = true := by
      rcases among with rfl | rfl | rfl | rfl <;> (simp only [holdsFor] at met; exact ⟨_, met⟩)
    obtain ⟨m, n, isNumber, first, -⟩ := compareFirst_iff.mp compared
    exact ⟨m, n, isNumber, first⟩
  trichotomy m n rest isNumber := isNumber ▸ holdsFor_trichotomy m n rest
  lte_eq m n rest isNumber := isNumber ▸ compareFirst_or_equal (· ≤ ·) (· < ·)
    (fun a b => by rw [← Bool.decide_or, decide_eq_decide]; omega) m n rest
  gte_eq m n rest isNumber := isNumber ▸ compareFirst_or_equal (· ≥ ·) (· > ·)
    (fun a b => by rw [← Bool.decide_or, decide_eq_decide]; omega) m n rest

theorem containsAny_nil (field : Option Json) : containsAny field [] = false := by
  unfold containsAny
  split <;> rfl

theorem binary_of_malformed {c : Condition} (malformed : c.isWellFormed = false) :
    c.operator.isUnary = false ∧ c.values = [] := by
  have few : ¬c.operator.minValues ≤ c.values.length := of_decide_eq_false malformed
  unfold Operator.minValues at few
  split at few
  · omega
  · next binary =>
      exact ⟨by simpa using binary, List.eq_nil_of_length_eq_zero (by omega)⟩

theorem holdsFor_nil {operator : Operator} (binary : operator.isUnary = false)
    (field : Option Json) :
    holdsFor operator field [] = true ↔ operator = .neq ∨ operator = .notIn := by
  cases operator with
  | eq | neq | isIn | notIn => simp [holdsFor, equalsFirst, isMember]
  | null | nnull | empty | nempty => cases binary
  | lt | lte | gt | gte => simp [holdsFor, compareFirst_iff]
  | contains => simp [holdsFor, containsAny_nil]

/-- Without a value that it needs, an operator is met just when it is a negation. -/
theorem holds_malformed_iff {c : Condition} (malformed : c.isWellFormed = false)
    (record : Record) : c.holds record = true ↔ c.operator = .neq ∨ c.operator = .notIn := by
  obtain ⟨binary, none⟩ := binary_of_malformed malformed
  rw [holds, none, holdsFor_nil binary]

/-- Conditions on one field of a record obey the laws of their operators, and EQ is an equivalence
of the scalars that the field may hold. -/
theorem operators_obey_laws (name : String) :
    (∀ record : Record, Operator.Laws (record.lookup name)
      fun operator values => holds ⟨name, operator, values⟩ record) ∧
    Equivalence fun v w : { v : Json // v.isScalar = true } =>
      ∀ record : Record, record.lookup name = some v.1 → ∀ rest,
        holds ⟨name, .eq, w.1 :: rest⟩ record = true := by
  have test (v w : Json) : (∀ record : Record, record.lookup name = some v → ∀ rest,
      holds ⟨name, .eq, w :: rest⟩ record = true) ↔ Json.equals (some v) w = true := by
    constructor
    · intro met
      simpa [holds, holdsFor, equalsFirst] using met [(name, v)] (by simp) []
    · intro equal record found rest
      simpa [holds, found, holdsFor, equalsFirst] using equal
  refine ⟨fun record => holdsFor_laws (record.lookup name), ?_⟩
  simp only [test]
  exact ⟨fun v => Json.equals_refl v.2, Json.equals_symm, Json.equals_trans⟩

theorem whole_amount_meets_one_order :
    ∃! operator, operator ∈ [Operator.lt, .eq, .gt] ∧
      holds ⟨"amount", operator, [.number (.float (.ofInt 5))]⟩
        [("amount", .number (.ofInt 5))] = true :=
  ((operators_obey_laws "amount").1 _).trichotomy (.ofInt 5) (.float (.ofInt 5)) [] rfl

end Condition

end DeclaredScreens
