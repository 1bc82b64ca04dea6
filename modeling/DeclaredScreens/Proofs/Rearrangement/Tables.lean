import DeclaredScreens.Proofs.Record
import DeclaredScreens.Proofs.Rearrangement.Members

/-! Tables of fields. What a type may hold, and how each of its fields may be rearranged, is told by
a table, along which the members of an object or the items of an array are rearranged; a reader of
the fields then finds each of them rearranged for itself. -/

namespace DeclaredScreens

/-- How the members of known names may be rearranged. -/
abbrev MemberTable := List (String × (Raw → Raw → Prop))

abbrev FieldTable := List (String × Rearrangement)

namespace MemberTable

variable {table : MemberTable}

def names (table : MemberTable) : List String := table.map Prod.fst

def member (table : MemberTable) (name : Option String) : Raw → Raw → Prop :=
  (name.bind fun known => table.lookup known).getD Eq

def positional : MemberTable → List Raw → List Raw → Prop
  | (_, R) :: table, x :: xs, x' :: xs' => R x x' ∧ positional table xs xs'
  | _, xs, xs' => xs = xs'

theorem member_of_mem (distinct : table.names.Nodup) {entry : String × (Raw → Raw → Prop)}
    (mem : entry ∈ table) : table.member (some entry.1) = entry.2 := by
  rw [member, Option.bind_some, lookup_of_mem distinct mem, Option.getD_some]

theorem member_of_not_mem {name : String} (unknown : name ∉ table.names) :
    table.member (some name) = Eq := by
  have absent : table.lookup name = none := by
    rw [List.lookup_eq_none_iff]
    intro entry mem
    simpa using fun same : name = entry.1 => unknown (same ▸ List.mem_map_of_mem mem)
  rw [member, Option.bind_some, absent, Option.getD_none]

theorem mem_or_eq_of_member {name : Option String} {raw raw' : Raw}
    (related : table.member name raw raw') :
    (∃ entry ∈ table, name = some entry.1 ∧ entry.2 raw raw') ∨ raw = raw' := by
  cases name with
  | none => exact .inr related
  | some name =>
      cases found : table.lookup name with
      | none =>
          rw [member, Option.bind_some, found] at related
          exact .inr related
      | some R =>
          rw [member, Option.bind_some, found] at related
          obtain ⟨before, after, rfl, -⟩ := List.lookup_eq_some_iff.mp found
          exact .inl ⟨(name, R), by simp, rfl, related⟩

theorem iff_of_member {P : Raw → Prop}
    (keeps : ∀ entry ∈ table, ∀ raw raw', entry.2 raw raw' → (P raw' ↔ P raw))
    {name : Option String} {raw raw' : Raw} (related : table.member name raw raw') :
    P raw' ↔ P raw := by
  rcases mem_or_eq_of_member related with ⟨entry, mem, -, changed⟩ | rfl
  · exact keeps entry mem raw raw' changed
  · exact Iff.rfl

theorem member_refl (refl : ∀ entry ∈ table, ∀ raw, entry.2 raw raw) (name : Option String)
    (raw : Raw) : table.member name raw raw := by
  rw [member]
  cases found : name.bind fun known => table.lookup known with
  | none => rfl
  | some R =>
      obtain ⟨known, -, here⟩ := Option.bind_eq_some_iff.mp found
      obtain ⟨before, after, rfl, -⟩ := List.lookup_eq_some_iff.mp here
      exact refl (known, R) (by simp) raw

section Positional

variable {xs xs' : List Raw}

theorem positional_refl (refl : ∀ entry ∈ table, ∀ raw, entry.2 raw raw) (xs : List Raw) :
    table.positional xs xs := by
  induction table generalizing xs with
  | nil => rfl
  | cons entry table ih =>
      obtain ⟨first, rest⟩ := List.forall_mem_cons.mp refl
      cases xs with
      | nil => rfl
      | cons x xs => exact ⟨first x, ih rest xs⟩

theorem length_positional (related : table.positional xs xs') : xs'.length = xs.length := by
  fun_induction positional table xs xs' with
  | case1 name R table x xs x' xs' ih => rw [List.length_cons, List.length_cons, ih related.2]
  | case2 => rw [related]

theorem forall_positional {P : Raw → Prop} (related : table.positional xs xs')
    (keeps : ∀ entry ∈ table, ∀ raw raw', entry.2 raw raw' → (P raw' ↔ P raw)) :
    (∀ x ∈ xs', P x) ↔ ∀ x ∈ xs, P x := by
  fun_induction positional table xs xs' with
  | case1 name R table x xs x' xs' ih =>
      obtain ⟨first, rest⟩ := List.forall_mem_cons.mp keeps
      rw [List.forall_mem_cons, List.forall_mem_cons, ih related.2 rest, first _ _ related.1]
  | case2 => rw [related]

theorem under_positional (related : table.positional xs xs') (distinct : table.names.Nodup) :
    ∀ entry ∈ table, List.Forall₂ entry.2
      (Members.under entry.1 (Members.positional table.names xs).entries)
      (Members.under entry.1 (Members.positional table.names xs').entries) := by
  fun_induction positional table xs xs' with
  | case1 name R table x xs x' xs' ih =>
      obtain ⟨apart, distinct⟩ := List.nodup_cons.mp distinct
      -- The first item stands under the first name, and under no later one.
      have nowhere (items : List Raw) :
          Members.under name (Members.positional (names table) items).entries = [] := by
        refine Members.under_eq_nil fun mem => ?_
        obtain ⟨⟨_, raw⟩, here, rfl⟩ := List.mem_map.mp mem
        obtain ⟨_, known, same⟩ := List.mem_map.mp (List.of_mem_zip here).1
        exact apart (Option.some.inj same ▸ known)
      refine List.forall_mem_cons.mpr ⟨?_, fun entry mem => ?_⟩
      · have first (y : Raw) (ys : List Raw) : Members.under name
            (Members.positional (names ((name, R) :: table)) (y :: ys)).entries = [y] := by
          refine (Members.under_cons ..).trans ?_
          rw [if_pos rfl]
          exact congrArg (y :: ·) (nowhere ys)
        rw [first, first]
        exact .cons related.1 .nil
      · have other : name ≠ entry.1 := by
          rintro rfl
          exact apart (List.mem_map.mpr ⟨entry, mem, rfl⟩)
        have later (y : Raw) (ys : List Raw) : Members.under entry.1
            (Members.positional (names ((name, R) :: table)) (y :: ys)).entries =
            Members.under entry.1 (Members.positional (names table) ys).entries :=
          (Members.under_cons ..).trans (if_neg (by simpa using other))
        rw [later, later]
        exact ih related.2 distinct entry mem
  | case2 table xs xs' short =>
      intro entry mem
      have empty : xs = [] := by
        cases table with
        | nil => cases mem
        | cons first table =>
            cases xs with
            | nil => rfl
            | cons x xs => exact absurd related.symm (short first.1 first.2 table x xs x xs rfl rfl)
      rw [← related, empty]
      simp [Members.positional, Members.under]

end Positional

end MemberTable

theorem Members.Rearranged.others {table : MemberTable} {fresh : String → Raw → Prop}
    {ms ms' : List (Option String × Raw)} (rearranged : Rearranged table.member fresh ms ms')
    {known : List String} {accepts : Raw → Bool}
    (kept : ∀ entry ∈ table,
      entry.1 ∈ known ∨ ∀ raw raw', entry.2 raw raw' → accepts raw' = accepts raw)
    (added : ∀ name raw, fresh name raw → accepts raw = true) :
    (Members.others known accepts 0 ms').value? = (Members.others known accepts 0 ms).value? := by
  refine others_congr (rearranged.forall_iff (fun name raw raw' related => ?_)
    fun name raw isFresh => ⟨name, rfl, by simp [added name raw isFresh]⟩)
  rcases MemberTable.mem_or_eq_of_member related with ⟨entry, mem, rfl, changed⟩ | rfl
  · rcases kept entry mem with isKnown | same
    · simp [isKnown]
    · rw [same raw raw' changed]
  · exact Iff.rfl

namespace FieldTable

variable {table : FieldTable} {scope : Scope}

def names (table : FieldTable) : List String := table.map Prod.fst

def inScope (scope : Scope) (table : FieldTable) : MemberTable :=
  table.map fun (name, R) => (name, R scope)

@[simp] theorem names_inScope (scope : Scope) (table : FieldTable) :
    (table.inScope scope).names = table.names := by
  rw [MemberTable.names, inScope, List.map_map]
  rfl

theorem names_append (header told : FieldTable) (scope scope' : Scope) :
    MemberTable.names (header.inScope scope ++ told.inScope scope') =
      header.names ++ told.names := by
  rw [← names_inScope scope header, ← names_inScope scope' told]
  exact List.map_append

theorem mem_inScope {entry : String × Rearrangement} (mem : entry ∈ table) :
    (entry.1, entry.2 scope) ∈ table.inScope scope :=
  List.mem_map.mpr ⟨entry, mem, rfl⟩

theorem mem_names_of_mem_inScope {entry : String × (Raw → Raw → Prop)}
    (mem : entry ∈ table.inScope scope) : entry.1 ∈ table.names := by
  obtain ⟨field, here, rfl⟩ := List.mem_map.mp mem
  exact List.mem_map_of_mem here

theorem forall_mem_inScope {P : String × (Raw → Raw → Prop) → Prop} :
    (∀ entry ∈ table.inScope scope, P entry) ↔ ∀ entry ∈ table, P (entry.1, entry.2 scope) :=
  List.forall_mem_map

theorem alike_object {known : MemberTable} {fresh : String → Raw → Prop}
    {ms ms' : List (Option String × Raw)} (related : Members.Rearranged known.member fresh ms ms')
    (once : (Raw.object ms).namesOnce = true) (distinct : known.names.Nodup)
    (apart : ∀ name raw, fresh name raw → name ∉ known.names)
    (part : ∀ entry ∈ table.inScope scope, entry ∈ known) :
    ∀ entry ∈ table, Members.Alike entry.2 scope entry.1 ⟨ms, true⟩ ⟨ms', true⟩ := by
  intro entry mem
  have here := part _ (mem_inScope mem)
  refine related.alike once (fun raw isFresh => ?_) (MemberTable.member_of_mem distinct here)
  exact apart _ raw isFresh (List.mem_map.mpr ⟨_, here, rfl⟩)

theorem alike_array {xs xs' : List Raw} (related : (table.inScope scope).positional xs xs')
    (once : (Raw.array xs).namesOnce = true) (distinct : table.names.Nodup) :
    ∀ entry ∈ table, Members.Alike entry.2 scope entry.1 (.positional table.names xs)
      (.positional table.names xs') := by
  intro entry mem
  have each := MemberTable.under_positional related (by rwa [names_inScope]) _ (mem_inScope mem)
  rw [names_inScope] at each
  refine (List.forall₂_and_left _ _).mpr ⟨fun raw here => ?_, each⟩
  exact Raw.namesOnce_array_iff.mp once raw (List.of_mem_zip (Members.mem_of_mem_under here)).2

theorem refl_inScope (proper : ∀ entry ∈ table, entry.2.Proper) :
    ∀ entry ∈ table.inScope scope, ∀ raw, entry.2 raw raw :=
  forall_mem_inScope.mpr fun entry mem => (proper entry mem).refl scope

theorem hasValue_inScope (proper : ∀ entry ∈ table, entry.2.Proper) {room : Nat} :
    ∀ entry ∈ table.inScope ⟨.aside, room⟩, ∀ raw raw', entry.2 raw raw' →
      (raw'.HasValue room ↔ raw.HasValue room) :=
  forall_mem_inScope.mpr fun entry mem => (proper entry mem).hasValue_iff room

/-- A table covers a reader of fields if it lists the fields and the reader sees nothing of what
they become. -/
structure Covers {α : Type} (table : FieldTable) (names : List String)
    (read : Scope → Members → Placed α) : Prop where
  names_eq : table.names = names
  distinct : names.Nodup
  proper : ∀ entry ∈ table, entry.2.Proper
  reads : ∀ {scope : Scope} {m m' : Members},
    (∀ entry ∈ table, Members.Alike entry.2 scope entry.1 m m') →
      (read scope m').value? = (read scope m).value?

end FieldTable

end DeclaredScreens
