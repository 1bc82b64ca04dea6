import DeclaredScreens.Json.Basic

/-! Directories: entries under distinct names, held in the order of the names. Registries of
endpoints and the drawers of a screen are directories; a name entered twice keeps the later
entry. -/

namespace DeclaredScreens

structure Directory (α : Type) where
  entries : List (String × α)
  ordered : entries.Pairwise fun a b => a.1 < b.1

namespace Directory

variable {α : Type}

def empty : Directory α := ⟨[], .nil⟩

instance : Inhabited (Directory α) := ⟨empty⟩

def insertEntry (name : String) (value : α) : List (String × α) → List (String × α)
  | [] => [(name, value)]
  | entry :: rest =>
      if name < entry.1 then (name, value) :: entry :: rest
      else if name = entry.1 then (name, value) :: rest
      else entry :: insertEntry name value rest

theorem lt_of_mem_insertEntry {bound name : String} {value : α} {entries : List (String × α)}
    (below : ∀ entry ∈ entries, bound < entry.1) (first : bound < name) :
    ∀ entry ∈ insertEntry name value entries, bound < entry.1 := by
  induction entries with
  | nil => simpa [insertEntry] using first
  | cons head rest ih =>
    intro entry mem
    have rest_below := ih fun e m => below e (.tail _ m)
    rw [insertEntry] at mem
    split at mem
    · cases mem with
      | head => exact first
      | tail _ mem => exact below entry mem
    · split at mem
      · cases mem with
        | head => exact first
        | tail _ mem => exact below entry (.tail _ mem)
      · cases mem with
        | head => exact below _ (.head _)
        | tail _ mem => exact rest_below entry mem

theorem ordered_insertEntry {name : String} {value : α} {entries : List (String × α)}
    (ordered : entries.Pairwise fun a b => a.1 < b.1) :
    (insertEntry name value entries).Pairwise fun a b => a.1 < b.1 := by
  induction entries with
  | nil => simp [insertEntry]
  | cons head rest ih =>
    rw [List.pairwise_cons] at ordered
    rw [insertEntry]
    split
    case isTrue less =>
      rw [List.pairwise_cons, List.pairwise_cons]
      refine ⟨?_, ordered⟩
      intro entry mem
      cases mem with
      | head => exact less
      | tail _ mem => exact String.lt_trans less (ordered.1 entry mem)
    case isFalse notLess =>
      split
      case isTrue same =>
        rw [List.pairwise_cons]
        exact ⟨fun entry mem => same ▸ ordered.1 entry mem, ordered.2⟩
      case isFalse different =>
        rw [List.pairwise_cons]
        refine ⟨lt_of_mem_insertEntry ordered.1 ?_, ih ordered.2⟩
        exact Decidable.byContradiction fun notGreater =>
          different (String.le_antisymm (String.not_lt.mp notGreater) (String.not_lt.mp notLess))

def insert (d : Directory α) (name : String) (value : α) : Directory α :=
  ⟨insertEntry name value d.entries, ordered_insertEntry d.ordered⟩

def get? (d : Directory α) (name : String) : Option α := d.entries.lookup name

def contains (d : Directory α) (name : String) : Bool := (d.get? name).isSome

def size (d : Directory α) : Nat := d.entries.length

end Directory

end DeclaredScreens
