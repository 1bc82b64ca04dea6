import DeclaredScreens.Json.Raw

/-! Trees of texts, whether they are documents or not: whether names are repeated in them, how deep
they are, and when they have a value. A tree has a value just when all the trees in it have, so the
order of its members does not count for that. -/

namespace DeclaredScreens.Raw

mutual

def namesOnce : Raw → Bool
  | array items => namesOnceItems items
  | object members => (members.map Prod.fst).Nodup && namesOnceMembers members
  | _ => true

def namesOnceItems : List Raw → Bool
  | [] => true
  | x :: xs => namesOnce x && namesOnceItems xs

def namesOnceMembers : List (Option String × Raw) → Bool
  | [] => true
  | (_, value) :: rest => namesOnce value && namesOnceMembers rest

end

mutual

def nesting : Raw → Nat
  | array items => itemNesting items + 1
  | object members => memberNesting members + 1
  | _ => 0

def itemNesting : List Raw → Nat
  | [] => 0
  | x :: xs => max (nesting x) (itemNesting xs)

def memberNesting : List (Option String × Raw) → Nat
  | [] => 0
  | (_, value) :: rest => max (nesting value) (memberNesting rest)

end

theorem namesOnce_array_iff {items : List Raw} :
    (array items).namesOnce = true ↔ ∀ x ∈ items, x.namesOnce = true := by
  rw [namesOnce]
  induction items with
  | nil => simp [namesOnceItems]
  | cons x xs ih => simp [namesOnceItems, ih]

theorem namesOnce_tail {x : Raw} {xs : List Raw} (once : (array (x :: xs)).namesOnce = true) :
    (array xs).namesOnce = true :=
  namesOnce_array_iff.mpr fun y mem => namesOnce_array_iff.mp once y (.tail _ mem)

theorem namesOnce_object_iff {members : List (Option String × Raw)} :
    (object members).namesOnce = true ↔
      (members.map Prod.fst).Nodup ∧ ∀ m ∈ members, m.2.namesOnce = true := by
  have each : namesOnceMembers members = true ↔ ∀ m ∈ members, m.2.namesOnce = true := by
    induction members with
    | nil => simp [namesOnceMembers]
    | cons m rest ih => rw [namesOnceMembers, Bool.and_eq_true, ih, List.forall_mem_cons]
  rw [namesOnce, Bool.and_eq_true, decide_eq_true_eq, each]

/-- Is the tree one of a document that opens at most so many brackets? -/
def HasValue (room : Nat) (raw : Raw) : Prop := (raw.value? room).isSome = true

theorem hasValue_array_iff {room : Nat} {items : List Raw} :
    HasValue room (array items) ↔ 0 < room ∧ ∀ x ∈ items, HasValue (room - 1) x := by
  cases room with
  | zero => simp [HasValue, value?]
  | succ room =>
      rw [HasValue, value?, Option.isSome_map, Nat.add_sub_cancel, and_iff_right room.succ_pos]
      induction items with
      | nil => simp [itemValues?]
      | cons x xs ih =>
          rw [List.forall_mem_cons, ← ih, itemValues?, HasValue]
          cases x.value? room <;> cases itemValues? room xs <;> simp

theorem isSome_memberValues?_iff {room : Nat} {members : List (Option String × Raw)}
    (done : Record) : (memberValues? room members done).isSome = true ↔
      ∀ m ∈ members, m.1.isSome = true ∧ HasValue room m.2 := by
  induction members generalizing done with
  | nil => simp [memberValues?]
  | cons m rest ih =>
      obtain ⟨name, value⟩ := m
      cases name with
      | none => simp [memberValues?]
      | some name =>
          rw [List.forall_mem_cons, memberValues?, HasValue]
          cases read : value.value? room with
          | none => simp
          | some j => simpa using ih (Entries.put name j done)

theorem hasValue_object_iff {room : Nat} {members : List (Option String × Raw)} :
    HasValue room (object members) ↔
      0 < room ∧ ∀ m ∈ members, m.1.isSome = true ∧ HasValue (room - 1) m.2 := by
  cases room with
  | zero => simp [HasValue, value?]
  | succ room =>
      rw [HasValue, value?, Option.isSome_map, Nat.add_sub_cancel, and_iff_right room.succ_pos]
      exact isSome_memberValues?_iff []

end DeclaredScreens.Raw
