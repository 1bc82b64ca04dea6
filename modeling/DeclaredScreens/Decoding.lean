import DeclaredScreens.Directory
import DeclaredScreens.Json.Raw

/-! Reading values of a type out of a raw tree. A failure carries the place where it shows, and
of several the earliest in the text is reported; fields that are missing show at the end, in
the order in which the type lists them. How much of the tree has been looked at before depends
on where it comes from: straight from the text, from a document held as a value, or from the
members set aside while the tag of a tagged value was still unknown. -/

namespace DeclaredScreens

inductive DecodeError
  | missingField (name : String)
  | unknownVariant (found : String) (known : List String)
  | duplicateField (name : String)
  | mismatch
deriving DecidableEq

namespace DecodeError

def backquoted (s : String) : String := "\x60" ++ s ++ "\x60"

def expectation : List String → String
  | [a] => "expected " ++ backquoted a
  | [a, b] => "expected " ++ backquoted a ++ " or " ++ backquoted b
  | names => "expected one of " ++ ", ".intercalate (names.map backquoted)

def message? : DecodeError → Option String
  | missingField name => some ("missing field " ++ backquoted name)
  | unknownVariant found known =>
      some ("unknown variant " ++ backquoted found ++ ", " ++ expectation known)
  | duplicateField name => some ("duplicate field " ++ backquoted name)
  | mismatch => none

end DecodeError

abbrev Decoded (α : Type) := Except DecodeError α

inductive Placed (α : Type)
  | ok (value : α)
  | error (place : Nat) (cause : DecodeError)

namespace Placed

variable {α β : Type}

def map (f : α → β) : Placed α → Placed β
  | ok a => ok (f a)
  | error place cause => error place cause

/-- Both readings; of two failures the one at the earlier place. -/
def both : Placed α → Placed β → Placed (α × β)
  | ok a, ok b => ok (a, b)
  | ok _, error place cause => error place cause
  | error place cause, ok _ => error place cause
  | error p c, error q d => if q < p then error q d else error p c

instance : Functor Placed where
  map := Placed.map

instance : Applicative Placed where
  pure := ok
  seq f x := (both f (x ())).map fun (f, a) => f a

def decoded : Placed α → Decoded α
  | ok a => .ok a
  | error _ cause => .error cause

end Placed

inductive Provenance
  | text
  | tree
  | aside
deriving DecidableEq

/-- The surroundings of a tree: where it comes from, and how many brackets it may open. -/
structure Scope where
  provenance : Provenance
  room : Nat

namespace Scope

def whole (provenance : Provenance) : Scope := ⟨provenance, Json.nestingLimit⟩

end Scope

abbrev Decoder (α : Type) := Scope → Raw → Decoded α

namespace Decoder

variable {α τ : Type}

def string : Decoder String
  | _, .string (some s) => .ok s
  | _, _ => .error .mismatch

def bool : Decoder Bool
  | _, .bool b => .ok b
  | _, _ => .error .mismatch

def value : Decoder Json := fun scope raw =>
  match raw.value? scope.room with
  | some j => .ok j
  | none => .error .mismatch

def record : Decoder Record := fun scope raw =>
  match (raw.value? scope.room).bind Json.record? with
  | some r => .ok r
  | none => .error .mismatch

def optional (decoder : Decoder α) : Decoder (Option α)
  | _, .null => .ok none
  | scope, raw => (decoder scope raw).map some

def items (item : Raw → Decoded α) : List Raw → Decoded (List α)
  | [] => .ok []
  | x :: xs => do
      let a ← item x
      let as ← items item xs
      return a :: as

def arrayOf (item : Decoder α) : Decoder (List α)
  | ⟨provenance, room + 1⟩, .array xs => items (item ⟨provenance, room⟩) xs
  | _, _ => .error .mismatch

def entries (entry : Raw → Decoded α) (done : Directory α) :
    List (Option String × Raw) → Decoded (Directory α)
  | [] => .ok done
  | (none, _) :: _ => .error .mismatch
  | (some name, raw) :: rest => do
      let a ← entry raw
      entries entry (done.insert name a) rest

def directory (entry : Decoder α) : Decoder (Directory α)
  | ⟨provenance, room + 1⟩, .object members =>
      entries (entry ⟨provenance, room⟩) .empty members
  | _, _ => .error .mismatch

def variant (table : List (String × τ)) (name : String) : Decoded τ :=
  match table.lookup name with
  | some a => .ok a
  | none => .error (.unknownVariant name (table.map Prod.fst))

/-- The empty payload of a variant that is written as an object. -/
def isUnit (provenance : Provenance) : Raw → Bool
  | .null => true
  | .object [] => provenance = .aside
  | _ => false

/-- A variant without payload: its name, or an object that has the name as its one member.
Straight from the text the name is judged before the rest of the object is seen. -/
def enumeration (table : List (String × τ)) : Decoder τ
  | _, .string (some name) => variant table name
  | ⟨.text, _ + 1⟩, .object ((some name, payload) :: rest) => do
      let a ← variant table name
      if isUnit .text payload && rest.isEmpty then return a else .error .mismatch
  | ⟨provenance, _ + 1⟩, .object [(some name, payload)] => do
      let a ← variant table name
      if isUnit provenance payload then return a else .error .mismatch
  | _, _ => .error .mismatch

/-- The tag of a tagged value; set aside, a tag may also be the number of its variant. -/
def tag (table : List (String × τ)) : Decoder τ
  | _, .string (some name) => variant table name
  | ⟨.aside, _⟩, .number (some (.integer (.ofNat n) _)) =>
      match table[n]? with
      | some (_, a) => .ok a
      | none => .error .mismatch
  | _, _ => .error .mismatch

end Decoder

/-- The members that fields are read from, each at its place. `named` is off when they come by
position, from an array. -/
structure Members where
  entries : List (Option String × Raw)
  named : Bool

namespace Members

variable {α : Type}

def occurrences (name : String) (place : Nat) :
    List (Option String × Raw) → List (Nat × Raw)
  | [] => []
  | (other, raw) :: rest =>
      if other = some name then (place, raw) :: occurrences name (place + 1) rest
      else occurrences name (place + 1) rest

/-- The field `name`; `absent` is its value when no member has that name. -/
def field (m : Members) (scope : Scope) (name : String) (decoder : Decoder α)
    (absent : Option α) : Placed α :=
  match occurrences name 0 m.entries with
  | [] =>
      match absent with
      | some a => .ok a
      | none => .error m.entries.length (if m.named then .missingField name else .mismatch)
  | (place, raw) :: later =>
      match decoder scope raw, later with
      | .error cause, _ => .error place cause
      | .ok _, (second, _) :: _ => .error second (.duplicateField name)
      | .ok a, [] => .ok a

/-- The members under other names pass when `accepts` does; a nameless one never does. -/
def others (known : List String) (accepts : Raw → Bool) (place : Nat) :
    List (Option String × Raw) → Placed Unit
  | [] => .ok ()
  | (none, _) :: _ => .error place .mismatch
  | (some name, raw) :: rest =>
      if known.contains name || accepts raw then others known accepts (place + 1) rest
      else .error place .mismatch

def without (known : List String) (m : Members) : Members :=
  { m with entries := m.entries.filter fun entry =>
      match entry.1 with
      | some name => !known.contains name
      | none => true }

def positional (names : List String) (items : List Raw) : Members :=
  ⟨(names.map some).zip items, false⟩

def noMoreThan (count : Nat) (items : List Raw) : Placed Unit :=
  if items.length ≤ count then .ok () else .error count .mismatch

end Members

namespace Decoder

variable {α τ : Type}

/-- Members that nobody reads: straight from the text they only have to be well formed,
elsewhere they have been read before. -/
def ignorable (provenance : Provenance) (raw : Raw) : Bool :=
  provenance ≠ .text || raw.complete

/-- Members set aside for later have to be values. -/
def setAside (room : Nat) (raw : Raw) : Bool := (raw.value? room).isSome

/-- A value made of fields, written as an object or as the array of its fields. -/
def fields (names : List String) (read : Scope → Members → Placed α) : Decoder α
  | ⟨provenance, room + 1⟩, .object members =>
      let others := Members.others names (ignorable provenance) 0 members
      ((fun a _ => a) <$> read ⟨provenance, room⟩ ⟨members, true⟩ <*> others).decoded
  | ⟨provenance, room + 1⟩, .array items =>
      let read := read ⟨provenance, room⟩ (.positional names items)
      ((fun a _ => a) <$> read <*> Members.noMoreThan names.length items).decoded
  | _, _ => .error .mismatch

structure Variant (α : Type) where
  names : List String
  read : Scope → Members → Placed α

/-- A value whose variant is told by the member `tagName`, wherever that member stands, or by
the first item of an array. -/
def tagged (tagName : String) (table : List (String × Variant α)) : Decoder α
  | ⟨provenance, room + 1⟩, .object members => do
      let tag := Members.field ⟨members, true⟩ ⟨provenance, room⟩ tagName (tag table) none
      let others := Members.others [tagName] (setAside room) 0 members
      let variant ← ((fun v _ => v) <$> tag <*> others).decoded
      (variant.read ⟨.aside, room⟩ (.without [tagName] ⟨members, true⟩)).decoded
  | ⟨_, _ + 1⟩, .array [] => .error (.missingField tagName)
  | ⟨provenance, room + 1⟩, .array (first :: items) => do
      let variant ← tag table ⟨provenance, room⟩ first
      if items.all (setAside room) then
        let read := variant.read ⟨.aside, room⟩ (.positional variant.names items)
        ((fun a _ => a) <$> read <*> Members.noMoreThan variant.names.length items).decoded
      else .error .mismatch
  | _, _ => .error .mismatch

def ofText (decoder : Decoder α) (text : String) : Decoded α :=
  match Raw.ofText text with
  | (raw, endsThere) => do
      let a ← decoder (.whole .text) raw
      if endsThere then return a else .error .mismatch

end Decoder

mutual

def Json.raw : Json → Raw
  | .null => .null
  | .bool b => .bool b
  | .number n => .number (some n)
  | .string s => .string (some s)
  | .array items => .array (Json.rawItems items)
  | .object members => .object (Json.rawMembers members)

def Json.rawItems : List Json → List Raw
  | [] => []
  | x :: xs => x.raw :: Json.rawItems xs

def Json.rawMembers : List (String × Json) → List (Option String × Raw)
  | [] => []
  | (name, value) :: rest => (some name, value.raw) :: Json.rawMembers rest

end

def Decoder.ofJson {α : Type} (decoder : Decoder α) (j : Json) : Decoded α :=
  decoder (.whole .tree) j.raw

end DeclaredScreens
