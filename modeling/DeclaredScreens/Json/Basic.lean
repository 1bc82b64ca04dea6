import DeclaredScreens.Number.Decimal

/-! Documents: the values that screens, records, requests and replies are made of. An object
keeps its members in the order in which their names first came; `put` and `remove` keep that
order, and names stay distinct. Integers and fractions are different values in a document,
although rules compare both by the double they stand for. -/

namespace DeclaredScreens

/-- A number of a document: an integer of at most 64 bits, or a double. -/
inductive Number
  | integer (value : Int) (fits : -9223372036854775808 ≤ value ∧ value < 18446744073709551616)
  | float (value : Binary64)
deriving DecidableEq

namespace Number

def toBinary64 : Number → Binary64
  | integer value _ => .ofInt value
  | float value => value

def ofInt (value : Int) : Number :=
  if fits : -9223372036854775808 ≤ value ∧ value < 18446744073709551616 then integer value fits
  else float (.ofInt value)

end Number

inductive Json
  | null
  | bool (value : Bool)
  | number (value : Number)
  | string (value : String)
  | array (items : List Json)
  | object (members : List (String × Json))

instance : Inhabited Json := ⟨.null⟩

abbrev Record := List (String × Json)

/-- Entries under distinct names, in the order in which the names were first put. -/
abbrev Entries (α : Type) := List (String × α)

namespace Entries

variable {α : Type}

/-- Replaces the entry in its place, or adds one at the end. -/
def put (name : String) (value : α) : Entries α → Entries α
  | [] => [(name, value)]
  | (other, old) :: rest =>
      if other = name then (name, value) :: rest else (other, old) :: put name value rest

def remove (name : String) (entries : Entries α) : Entries α :=
  entries.filter fun entry => entry.1 ≠ name

def names (entries : Entries α) : List String := entries.map Prod.fst

end Entries

namespace Number

/-- Equality of documents: integers and doubles apart, both zeros of the doubles together. -/
def same : Number → Number → Bool
  | integer m _, integer n _ => m = n
  | float f, float g => f.units = g.units
  | _, _ => false

end Number

namespace Json

mutual

/-- Equality of documents: the order of members does not count. -/
def same : Json → Json → Bool
  | null, null => true
  | bool a, bool b => a = b
  | number m, number n => m.same n
  | string s, string t => s = t
  | array xs, array ys => sameItems xs ys
  | object ms, object ns => ms.length = ns.length && sameMembers ms ns
  | _, _ => false

def sameItems : List Json → List Json → Bool
  | [], [] => true
  | x :: xs, y :: ys => same x y && sameItems xs ys
  | _, _ => false

def sameMembers : List (String × Json) → List (String × Json) → Bool
  | [], _ => true
  | (name, value) :: rest, others =>
      (match others.lookup name with
        | some other => same value other
        | none => false) && sameMembers rest others

end

def record? : Json → Option Record
  | object members => some members
  | _ => none

end Json

def Record.same (a b : Record) : Bool := Json.same (.object a) (.object b)

end DeclaredScreens
