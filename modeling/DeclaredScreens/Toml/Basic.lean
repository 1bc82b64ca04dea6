import DeclaredScreens.Json.Basic

/-! Configuration tables as TOML text builds them up. A table remembers how it came about,
because that decides who may still add to it: a header may take over a table that other
headers only passed through, a dotted name may extend tables made by dotted names, and an
inline table is closed once it is read. -/

namespace DeclaredScreens

inductive TableKind
  /-- Named by a header of its own. -/
  | declared
  /-- Passed through by the header of another table. -/
  | implied
  /-- Made by a dotted name. -/
  | dotted
  /-- Written in one piece. -/
  | closed
deriving DecidableEq

/-- A configuration value. Floats and moments, which no setting uses, keep their spelling. -/
inductive Toml
  | text (value : String)
  | integer (value : Int)
  | float (spelling : String)
  | boolean (value : Bool)
  | moment (spelling : String)
  | array (items : List Toml)
  | table (kind : TableKind) (entries : List (String × Toml))
  /-- An array of tables made by headers; the last one is still open. -/
  | tables (earlier : List Toml) (last : List (String × Toml))

namespace Toml

def asText? : Toml → Option String
  | text value => some value
  | _ => none

def asInteger? : Toml → Option Int
  | integer value => some value
  | _ => none

/-- Adds a value under the dotted name `path.name`. The name must be free, the tables on the
way must not be closed or declared, and the last of them is one made by dotted names. -/
def place (name : String) (value : Toml) : List String → Entries Toml → Option (Entries Toml)
  | [], entries =>
      if (entries.lookup name).isSome then none else some (entries ++ [(name, value)])
  | key :: path, entries =>
      match entries.lookup key with
      | none => do
          let inner ← place name value path []
          return Entries.put key (table .dotted inner) entries
      | some (table kind inner) =>
          if kind = .dotted ∨ (kind = .implied ∧ path ≠ []) then do
            let inner ← place name value path inner
            return Entries.put key (table kind inner) entries
          else none
      | some (tables earlier last) =>
          if path = [] then none
          else do
            let last ← place name value path last
            return Entries.put key (tables earlier last) entries
      | some _ => none

def within (change : Entries Toml → Option (Entries Toml)) :
    List String → Entries Toml → Option (Entries Toml)
  | [], entries => change entries
  | key :: path, entries =>
      match entries.lookup key with
      | none => do
          let inner ← within change path []
          return Entries.put key (table .implied inner) entries
      | some (table kind inner) =>
          if kind = .closed then none
          else do
            let inner ← within change path inner
            return Entries.put key (table kind inner) entries
      | some (tables earlier last) => do
          let last ← within change path last
          return Entries.put key (tables earlier last) entries
      | some _ => none

/-- Opens the table of a header `[…name]`: a new one, or one passed through before, which then
counts as the latest. -/
def declare (name : String) (entries : Entries Toml) : Option (Entries Toml) :=
  match entries.lookup name with
  | none => some (entries ++ [(name, table .declared [])])
  | some (table .implied inner) =>
      some (Entries.remove name entries ++ [(name, table .declared inner)])
  | some _ => none

def append (name : String) (entries : Entries Toml) : Option (Entries Toml) :=
  match entries.lookup name with
  | none => some (entries ++ [(name, tables [] [])])
  | some (tables earlier last) =>
      some (Entries.put name (tables (earlier ++ [table .declared last]) []) entries)
  | some _ => none

/-- A dotted name: what stands before its last dot, and what stands after it. -/
structure Name where
  path : List String
  last : String

def Name.all (n : Name) : List String := n.path ++ [n.last]

def inlineTable? (members : List (Name × Toml)) : Option Toml :=
  let put (entries : Entries Toml) (member : Name × Toml) : Option (Entries Toml) :=
    place member.1.last member.2 member.1.path entries
  (members.foldlM put []).map (table .closed)

inductive Statement
  | entry (name : Name) (value : Toml)
  | header (name : Name)
  | arrayHeader (name : Name)

def Statement.take (statement : Statement) (state : List String × Entries Toml) :
    Option (List String × Entries Toml) :=
  let (current, root) := state
  match statement with
  | entry name value => do
      let root ← within (place name.last value name.path) current root
      return (current, root)
  | header name => do
      let root ← within (declare name.last) name.path root
      return (name.all, root)
  | arrayHeader name => do
      let root ← within (append name.last) name.path root
      return (name.all, root)

def ofStatements? (statements : List Statement) : Option (Entries Toml) :=
  let start : List String × Entries Toml := ([], [])
  (statements.foldlM (fun state (statement : Statement) => statement.take state) start).map Prod.snd

end Toml

end DeclaredScreens
