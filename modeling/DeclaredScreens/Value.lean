import DeclaredScreens.Json.Print

/-! What rules, templates and forms see of a value. Absence is kept apart from null, although
only equality tells them apart: an absent field equals nothing, not even null. -/

namespace DeclaredScreens

namespace Json

/-- Does a field equal a literal of a rule? Numbers compare as doubles; arrays and objects
equal nothing. -/
def equals : Option Json → Json → Bool
  | some null, null => true
  | some (bool a), bool b => a = b
  | some (number m), number n => m.toBinary64.units = n.toBinary64.units
  | some (string s), string t => s = t
  | _, _ => false

def isTruthy : Json → Bool
  | null => false
  | bool b => b
  | number n => n.toBinary64.units ≠ 0
  | string s => s ≠ ""
  | array _ => true
  | object _ => true

def asNumber : Option Json → Option Binary64
  | some (number n) => some n.toBinary64
  | _ => none

def isNull : Option Json → Bool
  | none => true
  | some null => true
  | some _ => false

/-- Nothing to show: absent, null, or a string or array without content. -/
def isEmpty : Option Json → Bool
  | none => true
  | some null => true
  | some (string s) => s = ""
  | some (array items) => items.isEmpty
  | some _ => false

/-- A field that a form still waits for: absent, null, or the empty string. -/
def isBlank : Option Json → Bool
  | none => true
  | some null => true
  | some (string s) => s = ""
  | some _ => false

end Json

def Number.displayChars : Number → List Char
  | .float value => DecimalStyle.plain.chars value
  | n => n.chars

namespace Json

mutual

/-- The text shown for a value: nothing for null, a string as itself, the items of an array
between commas, and one fixed text for every object. -/
def displayChars : Json → List Char
  | null => []
  | bool b => if b then ['t', 'r', 'u', 'e'] else ['f', 'a', 'l', 's', 'e']
  | number n => n.displayChars
  | string s => s.toList
  | array items => displayItems items
  | object _ => "[object Object]".toList

def displayItems : List Json → List Char
  | [] => []
  | [x] => displayChars x
  | x :: y :: rest => displayChars x ++ ',' :: displayItems (y :: rest)

end

def display (j : Json) : String := String.ofList j.displayChars

def occursIn (needle : List Char) : List Char → Bool
  | [] => needle.isEmpty
  | c :: rest => needle.isPrefixOf (c :: rest) || occursIn needle rest

end Json

/-- A record is stored already when its `id` is truthy. -/
def Record.hasIdentity (record : Option Record) : Bool :=
  match record.bind (List.lookup "id") with
  | some id => id.isTruthy
  | none => false

end DeclaredScreens
