import DeclaredScreens.Proofs.Operators
import Mathlib.Data.List.Basic

/-! The verdict of a rule list. Each rule speaks for itself: it leaves visibility alone or takes it
away, and enablement likewise, whatever stands before it in the list. So a list is the conjunction
of its rules, and what counts is which rules are in it and what the record has in the fields that
they name. -/

namespace DeclaredScreens

namespace Rule

variable {a b : Record}

def leavesVisible (rule : Rule) (record : Record) : Bool :=
  match rule.effect with
  | .hide => !rule.isMet record
  | .show => rule.isMet record
  | .disable | .enable => true

def leavesEnabled (rule : Rule) (record : Record) : Bool :=
  match rule.effect with
  | .disable => !rule.isMet record
  | .enable => rule.isMet record
  | .hide | .show => true

theorem leavesVisible_iff {rule : Rule} :
    rule.leavesVisible a = true ↔
      (rule.effect = .hide → rule.isMet a = false) ∧ (rule.effect = .show → rule.isMet a = true) := by
  cases h : rule.effect <;> simp [leavesVisible, h]

theorem leavesEnabled_iff {rule : Rule} :
    rule.leavesEnabled a = true ↔
      (rule.effect = .disable → rule.isMet a = false) ∧
      (rule.effect = .enable → rule.isMet a = true) := by
  cases h : rule.effect <;> simp [leavesEnabled, h]

theorem isMet_iff {rule : Rule} :
    rule.isMet a = true ↔ ∀ c ∈ rule.conditions, c.holds a = true := List.all_eq_true

theorem isMet_congr {rule : Rule}
    (agree : ∀ c ∈ rule.conditions, Json.SameField (a.lookup c.field) (b.lookup c.field)) :
    rule.isMet a = rule.isMet b := by
  rw [Bool.eq_iff_iff]
  simp only [isMet_iff]
  refine forall₂_congr fun c mem => ?_
  rw [Condition.holds, Condition.holds, Condition.holdsFor_congr (agree c mem)]

end Rule

namespace Verdict

def both (v w : Verdict) : Verdict := ⟨v.visible && w.visible, v.enabled && w.enabled⟩

theorem both_assoc (u v w : Verdict) : (u.both v).both w = u.both (v.both w) := by
  simp [both, Bool.and_assoc]

theorem after_eq (verdict : Verdict) (rule : Rule) (record : Record) :
    verdict.after rule record =
      verdict.both ⟨rule.leavesVisible record, rule.leavesEnabled record⟩ := by
  unfold after both Rule.leavesVisible Rule.leavesEnabled
  cases rule.effect <;> cases rule.isMet record <;> simp

theorem foldl_after (verdict : Verdict) (rules : List Rule) (record : Record) :
    rules.foldl (fun verdict rule => verdict.after rule record) verdict =
      verdict.both ⟨rules.all (·.leavesVisible record), rules.all (·.leavesEnabled record)⟩ := by
  induction rules generalizing verdict with
  | nil => simp [both]
  | cons rule rest ih =>
      rw [List.foldl_cons, ih, after_eq, both_assoc]
      rfl

theorem ofRules_eq (rules : Option (List Rule)) (record : Record) :
    ofRules rules record =
      ⟨(rules.getD []).all (·.leavesVisible record),
        (rules.getD []).all (·.leavesEnabled record)⟩ := by
  rw [ofRules, foldl_after]
  rfl

theorem ofRules_append (xs ys : List Rule) (record : Record) :
    ofRules (some (xs ++ ys)) record =
      (ofRules (some xs) record).both (ofRules (some ys) record) := by
  simp [ofRules_eq, both]

theorem ofRules_eq_of_mem_iff {rules others : Option (List Rule)} {record : Record}
    (same : ∀ rule, rule ∈ rules.getD [] ↔ rule ∈ others.getD []) :
    ofRules others record = ofRules rules record := by
  have all_eq (leaves : Rule → Bool) : (others.getD []).all leaves = (rules.getD []).all leaves := by
    rw [Bool.eq_iff_iff]
    simp only [List.all_eq_true, same]
  rw [ofRules_eq, ofRules_eq, all_eq, all_eq]

theorem ofRules_congr {rules : Option (List Rule)} {a b : Record}
    (agree : ∀ rule ∈ rules.getD [], ∀ c ∈ rule.conditions,
      Json.SameField (a.lookup c.field) (b.lookup c.field)) :
    ofRules rules a = ofRules rules b := by
  refine List.foldl_ext _ _ _ fun verdict rule mem => ?_
  rw [after, after, Rule.isMet_congr (agree rule mem)]

/-- An element is visible when no HIDE rule is met and every SHOW rule is, and enabled when no
DISABLE rule is met and every ENABLE rule is, where a rule is met when all its conditions hold. So
neither the order of the rules nor how often one is listed counts, a further rule only takes away,
two lists together give both verdicts, and nothing of a record counts but the fields that conditions
name. -/
theorem rule_list_is_conjunction (rules : Option (List Rule)) (record : Record) :
    (∀ rule : Rule, rule.isMet record = true ↔ ∀ c ∈ rule.conditions, c.holds record = true) ∧
    ((ofRules rules record).visible = true ↔ ∀ rule ∈ rules.getD [],
      (rule.effect = .hide → rule.isMet record = false) ∧
      (rule.effect = .show → rule.isMet record = true)) ∧
    ((ofRules rules record).enabled = true ↔ ∀ rule ∈ rules.getD [],
      (rule.effect = .disable → rule.isMet record = false) ∧
      (rule.effect = .enable → rule.isMet record = true)) ∧
    (∀ others : Option (List Rule), (∀ rule, rule ∈ rules.getD [] ↔ rule ∈ others.getD []) →
      ofRules others record = ofRules rules record) ∧
    (∀ more : List Rule,
      let longer := ofRules (some (rules.getD [] ++ more)) record
      longer = (ofRules rules record).both (ofRules (some more) record) ∧
      (longer.visible = true → (ofRules rules record).visible = true) ∧
      (longer.enabled = true → (ofRules rules record).enabled = true)) ∧
    (∀ other : Record, (∀ rule ∈ rules.getD [], ∀ c ∈ rule.conditions,
        Json.SameField (record.lookup c.field) (other.lookup c.field)) →
      ofRules rules record = ofRules rules other) := by
  refine ⟨fun rule => Rule.isMet_iff, ?_, ?_, fun others same => ofRules_eq_of_mem_iff same,
    fun more => ?_, fun other agree => ofRules_congr agree⟩
  · simp only [ofRules_eq, List.all_eq_true, Rule.leavesVisible_iff]
  · simp only [ofRules_eq, List.all_eq_true, Rule.leavesEnabled_iff]
  · have joined : ofRules (some (rules.getD [] ++ more)) record =
        (ofRules rules record).both (ofRules (some more) record) := ofRules_append ..
    intro longer
    refine ⟨joined, fun visible => ?_, fun enabled => ?_⟩
    · rw [show longer = _ from joined] at visible
      exact (Bool.and_eq_true_iff.mp visible).1
    · rw [show longer = _ from joined] at enabled
      exact (Bool.and_eq_true_iff.mp enabled).1

theorem archived_contact_stays_hidden :
    ofRules (some [⟨.hide, [⟨"archived", .eq, [.bool true]⟩]⟩])
      [("name", .string "Bob"), ("archived", .bool true)] =
    ofRules (some [⟨.hide, [⟨"archived", .eq, [.bool true]⟩]⟩])
      [("archived", .bool true), ("name", .string "Ann")] :=
  (rule_list_is_conjunction (some [⟨.hide, [⟨"archived", .eq, [.bool true]⟩]⟩])
    [("name", .string "Bob"), ("archived", .bool true)]).2.2.2.2.2
    [("archived", .bool true), ("name", .string "Ann")]
    (by simp only [Option.getD_some, List.mem_singleton, forall_eq]; exact .inl rfl)

/-- A condition with too few values is met just when its operator is NEQ or NIN. With any other
operator a HIDE or DISABLE rule that contains it does not fire, and the list says the same without
the rule; with NEQ or NIN the rule says the same without the condition. -/
theorem malformed_condition_holds_only_negated (rule : Rule) (c : Condition)
    (contained : c ∈ rule.conditions) (malformed : c.isWellFormed = false) (record : Record) :
    (c.holds record = true ↔ c.operator = .neq ∨ c.operator = .notIn) ∧
    (c.operator ≠ .neq → c.operator ≠ .notIn → rule.effect = .hide ∨ rule.effect = .disable →
      ∀ before after, ofRules (some (before ++ rule :: after)) record =
        ofRules (some (before ++ after)) record) ∧
    (c.operator = .neq ∨ c.operator = .notIn → ∀ before after,
      rule.conditions = before ++ c :: after →
        rule.isMet record = Rule.isMet ⟨rule.effect, before ++ after⟩ record) := by
  have holds_iff := Condition.holds_malformed_iff malformed record
  refine ⟨holds_iff, fun notNeq notNin fires before after => ?_, fun negated before after split => ?_⟩
  · have unmet : rule.isMet record = false := by
      rw [← Bool.not_eq_true, Rule.isMet_iff]
      exact fun met => (holds_iff.mp (met c contained)).elim notNeq notNin
    have idle : rule.leavesVisible record = true ∧ rule.leavesEnabled record = true := by
      rw [Rule.leavesVisible_iff, Rule.leavesEnabled_iff]
      rcases fires with effect | effect <;> simp [effect, unmet]
    simp [ofRules_eq, idle]
  · simp [Rule.isMet, split, holds_iff.mpr negated]

theorem rule_with_empty_contains_is_idle :
    Condition.isWellFormed ⟨"name", .contains, []⟩ = false ∧
    ofRules (some [⟨.disable, [⟨"locked", .eq, [.bool true]⟩]⟩,
        ⟨.hide, [⟨"id", .nnull, []⟩, ⟨"name", .contains, []⟩]⟩]) [("id", .string "1")] =
      ofRules (some [⟨.disable, [⟨"locked", .eq, [.bool true]⟩]⟩]) [("id", .string "1")] :=
  ⟨rfl, (malformed_condition_holds_only_negated
    ⟨.hide, [⟨"id", .nnull, []⟩, ⟨"name", .contains, []⟩]⟩ ⟨"name", .contains, []⟩
    (.tail _ (.head _)) rfl [("id", .string "1")]).2.1 nofun nofun (.inl rfl)
    [⟨.disable, [⟨"locked", .eq, [.bool true]⟩]⟩] []⟩

/-- NEQ without a value is met, and a HIDE rule with nothing else fires. -/
theorem empty_negation_hides :
    Condition.isWellFormed ⟨"status", .neq, []⟩ = false ∧
    Condition.holds ⟨"status", .neq, []⟩ [("status", .string "open")] = true ∧
    (ofRules (some [⟨.hide, [⟨"status", .neq, []⟩]⟩]) [("status", .string "open")]).visible = false :=
  ⟨rfl, rfl, rfl⟩

end Verdict

end DeclaredScreens
