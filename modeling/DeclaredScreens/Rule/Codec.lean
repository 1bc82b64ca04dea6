import DeclaredScreens.Decoding
import DeclaredScreens.Rule

/-! The written form of rules: operators and effects by name, conditions and rules as objects
of their fields, or as arrays of them. -/

namespace DeclaredScreens

namespace Operator

def name : Operator → String
  | eq => "EQ"
  | neq => "NEQ"
  | null => "NULL"
  | nnull => "NNULL"
  | empty => "EMPTY"
  | nempty => "NEMPTY"
  | lt => "LT"
  | lte => "LTE"
  | gt => "GT"
  | gte => "GTE"
  | isIn => "IN"
  | notIn => "NIN"
  | contains => "CONTAINS"

def all : List Operator :=
  [eq, neq, null, nnull, empty, nempty, lt, lte, gt, gte, isIn, notIn, contains]

def decode : Decoder Operator := .enumeration (all.map fun o => (o.name, o))

def toJson (o : Operator) : Json := .string o.name

end Operator

namespace Effect

def name : Effect → String
  | hide => "HIDE"
  | «show» => "SHOW"
  | disable => "DISABLE"
  | enable => "ENABLE"

def all : List Effect := [hide, «show», disable, enable]

def decode : Decoder Effect := .enumeration (all.map fun e => (e.name, e))

def toJson (e : Effect) : Json := .string e.name

end Effect

namespace Condition

def decode : Decoder Condition :=
  .fields ["field", "operator", "values"] fun scope m =>
    Condition.mk <$> m.field scope "field" .string none
      <*> m.field scope "operator" Operator.decode none
      <*> m.field scope "values" (.arrayOf .value) (some [])

def toJson (c : Condition) : Json :=
  .object [("field", .string c.field), ("operator", c.operator.toJson),
    ("values", .array c.values)]

end Condition

namespace Rule

def decode : Decoder Rule :=
  .fields ["effect", "conditions"] fun scope m =>
    Rule.mk <$> m.field scope "effect" Effect.decode none
      <*> m.field scope "conditions" (.arrayOf Condition.decode) (some [])

def toJson (r : Rule) : Json :=
  .object [("effect", r.effect.toJson), ("conditions", .array (r.conditions.map (·.toJson)))]

end Rule

end DeclaredScreens
