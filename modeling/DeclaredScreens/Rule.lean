import DeclaredScreens.Value

/-! Rules decide whether an element is visible and enabled for a record. HIDE and DISABLE act
when all their conditions hold, SHOW and ENABLE when not all of them do; each can only take
visibility or enablement away, so the order of the rules does not matter. -/

namespace DeclaredScreens

inductive Operator
  | eq | neq | null | nnull | empty | nempty | lt | lte | gt | gte | isIn | notIn | contains
deriving DecidableEq

inductive Effect
  | hide | show | disable | enable
deriving DecidableEq

structure Condition where
  field : String
  operator : Operator
  values : List Json

structure Rule where
  effect : Effect
  conditions : List Condition

namespace Operator

def isUnary : Operator → Bool
  | null | nnull | empty | nempty => true
  | _ => false

def minValues (o : Operator) : Nat := if o.isUnary then 0 else 1

end Operator

namespace Condition

def isWellFormed (c : Condition) : Bool := c.operator.minValues ≤ c.values.length

def equalsFirst (field : Option Json) : List Json → Bool
  | [] => false
  | expected :: _ => Json.equals field expected

/-- Both numbers compared by `order`, on their exact values; false unless both are there. -/
def compareFirst (order : Int → Int → Bool) (field : Option Json) (values : List Json) : Bool :=
  match Json.asNumber field, Json.asNumber values.head? with
  | some actual, some expected => order actual.units expected.units
  | _, _ => false

def isMember (field : Option Json) (values : List Json) : Bool :=
  values.any (Json.equals field)

/-- Does a string field contain the text of any of the values, nulls aside? -/
def containsAny (field : Option Json) (values : List Json) : Bool :=
  match field with
  | some (.string haystack) =>
      values.any fun needle =>
        !Json.isNull (some needle) && Json.occursIn needle.displayChars haystack.toList
  | _ => false

def holdsFor (operator : Operator) (field : Option Json) (values : List Json) : Bool :=
  match operator with
  | .eq => equalsFirst field values
  | .neq => !equalsFirst field values
  | .null => Json.isNull field
  | .nnull => !Json.isNull field
  | .empty => Json.isEmpty field
  | .nempty => !Json.isEmpty field
  | .lt => compareFirst (fun a b => a < b) field values
  | .lte => compareFirst (fun a b => a ≤ b) field values
  | .gt => compareFirst (fun a b => a > b) field values
  | .gte => compareFirst (fun a b => a ≥ b) field values
  | .isIn => isMember field values
  | .notIn => !isMember field values
  | .contains => containsAny field values

def holds (c : Condition) (record : Record) : Bool :=
  holdsFor c.operator (record.lookup c.field) c.values

end Condition

def Rule.isMet (rule : Rule) (record : Record) : Bool :=
  rule.conditions.all fun condition => condition.holds record

structure Verdict where
  visible : Bool
  enabled : Bool
deriving DecidableEq

namespace Verdict

def free : Verdict := ⟨true, true⟩

def after (verdict : Verdict) (rule : Rule) (record : Record) : Verdict :=
  match rule.effect, rule.isMet record with
  | .hide, true => { verdict with visible := false }
  | .show, false => { verdict with visible := false }
  | .disable, true => { verdict with enabled := false }
  | .enable, false => { verdict with enabled := false }
  | _, _ => verdict

def ofRules (rules : Option (List Rule)) (record : Record) : Verdict :=
  (rules.getD []).foldl (fun verdict rule => verdict.after rule record) free

end Verdict

end DeclaredScreens
