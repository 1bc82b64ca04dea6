import DeclaredScreens.Json.Basic
import Mathlib.Data.List.Perm.Subperm

/-! Records as tables: what `put` does to lookups and names, records overlaid by writes, and
equality of records seen through lookups. Equality only looks from the first record into the
second, so it is reflexive, and can be read backwards, where objects name each member once. -/

namespace DeclaredScreens

theorem lookup_of_mem {κ α : Type} [DecidableEq κ] {entries : List (κ × α)} {key : κ} {value : α}
    (distinct : (entries.map Prod.fst).Nodup) (mem : (key, value) ∈ entries) :
    entries.lookup key = some value := by
  obtain ⟨before, after, rfl⟩ := List.append_of_mem mem
  rw [List.map_append, List.nodup_append] at distinct
  refine List.lookup_eq_some_iff.mpr ⟨before, after, rfl, fun entry earlier => ?_⟩
  have apart := distinct.2.2 entry.1 (List.mem_map_of_mem earlier) key (by simp)
  simpa using apart.symm

theorem lookup_filter {κ α : Type} [DecidableEq κ] (keep : κ → Bool) (entries : List (κ × α))
    (key : κ) :
    (entries.filter fun entry => keep entry.1).lookup key =
      if keep key then entries.lookup key else none := by
  induction entries with
  | nil => simp
  | cons entry rest ih =>
      obtain ⟨first, value⟩ := entry
      by_cases here : key = first
      · subst here
        by_cases kept : keep key <;> simp [kept, ih]
      · have other : (key == first) = false := beq_eq_false_iff_ne.mpr here
        by_cases kept : keep first <;> simp [kept, ih, other, List.lookup_cons]

namespace Entries

variable {α : Type}

theorem mem_names_iff {entries : Entries α} {name : String} :
    name ∈ names entries ↔ (entries.lookup name).isSome := by
  rw [List.lookup_isSome_iff]
  simp [names]

theorem lookup_cons_if (first name : String) (value : α) (rest : Entries α) :
    List.lookup name ((first, value) :: rest) =
      if name = first then some value else rest.lookup name := by
  by_cases h : name = first
  · simp [h]
  · simp [List.lookup_cons, beq_eq_false_iff_ne.mpr h, h]

theorem lookup_put (name other : String) (value : α) (entries : Entries α) :
    (put name value entries).lookup other =
      if other = name then some value else entries.lookup other := by
  induction entries with
  | nil => rw [put, lookup_cons_if]
  | cons entry rest ih =>
      obtain ⟨first, old⟩ := entry
      by_cases here : first = name
      · simp only [put, here, if_true, lookup_cons_if]
        by_cases h : other = name <;> simp [h]
      · simp only [put, here, if_false, lookup_cons_if, ih]
        by_cases h : other = first <;> simp [h, here]

theorem mem_names_put {name other : String} {value : α} {entries : Entries α} :
    other ∈ names (put name value entries) ↔ other = name ∨ other ∈ names entries := by
  rw [mem_names_iff, mem_names_iff, lookup_put]
  by_cases h : other = name <;> simp [h]

theorem nodup_names_put {name : String} {value : α} {entries : Entries α}
    (distinct : (names entries).Nodup) : (names (put name value entries)).Nodup := by
  induction entries with
  | nil => simp [put, names]
  | cons entry rest ih =>
      obtain ⟨first, old⟩ := entry
      obtain ⟨absent, restDistinct⟩ := List.nodup_cons.mp distinct
      by_cases here : first = name
      · simpa only [put, here, if_true] using here ▸ distinct
      · simp only [put, here, if_false]
        refine List.nodup_cons.mpr ⟨?_, ih restDistinct⟩
        rw [← names, mem_names_put]
        rintro (same | later)
        · exact here same
        · exact absent later

end Entries

namespace Json

mutual

/-- Does every object, at any depth, name each of its members once? -/
def isDistinct : Json → Bool
  | array items => distinctItems items
  | object members => decide (members.map Prod.fst).Nodup && distinctMembers members
  | _ => true

def distinctItems : List Json → Bool
  | [] => true
  | item :: rest => isDistinct item && distinctItems rest

def distinctMembers : List (String × Json) → Bool
  | [] => true
  | (_, value) :: rest => isDistinct value && distinctMembers rest

end

theorem number_same_refl (n : Number) : n.same n = true := by
  cases n <;> simp [Number.same]

mutual

theorem same_refl (j : Json) (distinct : j.isDistinct = true) : j.same j = true := by
  cases j with
  | number n => exact number_same_refl n
  | array items =>
      rw [isDistinct] at distinct
      rw [same]
      exact sameItems_refl items distinct
  | object members =>
      rw [isDistinct, Bool.and_eq_true, decide_eq_true_eq] at distinct
      simp only [same, decide_true, Bool.true_and]
      exact sameMembers_refl members distinct.2 members fun name value mem =>
        lookup_of_mem distinct.1 mem
  | _ => simp [same]

theorem sameItems_refl (items : List Json) (distinct : distinctItems items = true) :
    sameItems items items = true := by
  cases items with
  | nil => rfl
  | cons item rest =>
      rw [distinctItems, Bool.and_eq_true] at distinct
      rw [sameItems, same_refl item distinct.1, sameItems_refl rest distinct.2]
      rfl

theorem sameMembers_refl (members : List (String × Json))
    (distinct : distinctMembers members = true) (others : List (String × Json))
    (found : ∀ name value, (name, value) ∈ members → others.lookup name = some value) :
    sameMembers members others = true := by
  cases members with
  | nil => rfl
  | cons member rest =>
      obtain ⟨name, value⟩ := member
      rw [distinctMembers, Bool.and_eq_true] at distinct
      have later := sameMembers_refl rest distinct.2 others fun name value mem =>
        found name value (.tail _ mem)
      simp only [sameMembers, found name value (.head _), same_refl value distinct.1, later,
        Bool.and_self]

end

end Json

namespace Record

/-- The record with the writes put over it; the first write of the list is the last one made. -/
def overlay (written : List (String × Json)) (r : Record) : Record :=
  written.foldr (fun write changed => Entries.put write.1 write.2 changed) r

@[simp] theorem overlay_nil (r : Record) : overlay [] r = r := rfl

@[simp] theorem overlay_cons (name : String) (value : Json) (written : List (String × Json))
    (r : Record) :
    overlay ((name, value) :: written) r = Entries.put name value (overlay written r) := rfl

theorem overlay_append (later earlier : List (String × Json)) (r : Record) :
    overlay (later ++ earlier) r = overlay later (overlay earlier r) := List.foldr_append ..

theorem lookup_overlay (written : List (String × Json)) (r : Record) (name : String) :
    (overlay written r).lookup name = (written.lookup name).or (r.lookup name) := by
  induction written with
  | nil => simp
  | cons write rest ih =>
      obtain ⟨first, value⟩ := write
      rw [overlay_cons, Entries.lookup_put, Entries.lookup_cons_if, ih]
      by_cases h : name = first <;> simp [h]

theorem nodup_names_overlay {written : List (String × Json)} {r : Record}
    (distinct : (Entries.names r).Nodup) : (Entries.names (overlay written r)).Nodup := by
  induction written with
  | nil => exact distinct
  | cons write rest ih => exact Entries.nodup_names_put ih

theorem lookup_of_sameMembers {members others : Record} {name : String} {value : Json}
    (same : Json.sameMembers members others = true) (found : members.lookup name = some value) :
    ∃ other, others.lookup name = some other ∧ value.same other = true := by
  induction members with
  | nil => simp at found
  | cons member rest ih =>
      obtain ⟨first, firstValue⟩ := member
      rw [Json.sameMembers, Bool.and_eq_true] at same
      rw [Entries.lookup_cons_if] at found
      by_cases here : name = first
      · subst here
        simp only [if_true, Option.some.injEq] at found
        subst found
        cases other : others.lookup name with
        | none => simp [other] at same
        | some shown =>
            refine ⟨shown, rfl, ?_⟩
            simpa [other] using same.1
      · simp only [here, if_false] at found
        exact ih same.2 found

def isDistinct (r : Record) : Bool := Json.isDistinct (.object r)

variable {a b : Record}

theorem nodup_names (distinct : a.isDistinct = true) : (Entries.names a).Nodup := by
  rw [isDistinct, Json.isDistinct, Bool.and_eq_true, decide_eq_true_eq] at distinct
  exact distinct.1

theorem same_refl (distinct : a.isDistinct = true) : Record.same a a = true :=
  Json.same_refl _ distinct

theorem length_eq_of_same (same : Record.same a b = true) : a.length = b.length := by
  rw [Record.same, Json.same, Bool.and_eq_true] at same
  simpa using same.1

theorem lookup_of_same {name : String} {value : Json} (same : Record.same a b = true)
    (found : a.lookup name = some value) :
    ∃ other, b.lookup name = some other ∧ value.same other = true := by
  rw [Record.same, Json.same, Bool.and_eq_true] at same
  exact lookup_of_sameMembers same.2 found

theorem names_perm_of_same (distinct : (Entries.names a).Nodup) (same : Record.same a b = true) :
    (Entries.names a).Perm (Entries.names b) := by
  have subset : Entries.names a ⊆ Entries.names b := by
    intro name mem
    rw [Entries.mem_names_iff] at mem ⊢
    obtain ⟨value, found⟩ := Option.isSome_iff_exists.mp mem
    obtain ⟨other, shown, -⟩ := lookup_of_same same found
    simp [shown]
  refine (distinct.subperm subset).perm_of_length_le ?_
  simp [Entries.names, length_eq_of_same same]

theorem lookup_of_same' {name : String} {other : Json} (distinct : (Entries.names a).Nodup)
    (same : Record.same a b = true) (found : b.lookup name = some other) :
    ∃ value, a.lookup name = some value ∧ value.same other = true := by
  have mem : name ∈ Entries.names a := by
    rw [(names_perm_of_same distinct same).mem_iff, Entries.mem_names_iff]
    simp [found]
  obtain ⟨value, shown⟩ := Option.isSome_iff_exists.mp (Entries.mem_names_iff.mp mem)
  obtain ⟨other', found', equal⟩ := lookup_of_same same shown
  rw [found] at found'
  cases found'
  exact ⟨value, shown, equal⟩

end Record

theorem Json.number_same_trans {k m n : Number} (first : k.same m = true)
    (second : m.same n = true) : k.same n = true := by
  cases k <;> cases m <;> cases n <;> simp_all [Number.same]

namespace Json

mutual

theorem same_trans (a : Json) {b c : Json} (first : a.same b = true) (second : b.same c = true) :
    a.same c = true := by
  cases a with
  | null => cases b <;> simp only [same, Bool.false_eq_true] at first; exact second
  | bool x | string x =>
      cases b <;> simp only [same, Bool.false_eq_true, decide_eq_true_eq] at first
      rwa [first]
  | number k =>
      cases b <;> simp only [same, Bool.false_eq_true] at first
      cases c <;> simp only [same, Bool.false_eq_true] at second ⊢
      exact number_same_trans first second
  | array xs =>
      cases b <;> simp only [same, Bool.false_eq_true] at first
      cases c <;> simp only [same, Bool.false_eq_true] at second ⊢
      exact sameItems_trans xs first second
  | object ms =>
      cases b <;> simp only [same, Bool.false_eq_true, Bool.and_eq_true, decide_eq_true_eq] at first
      cases c <;>
        simp only [same, Bool.false_eq_true, Bool.and_eq_true, decide_eq_true_eq] at second ⊢
      exact ⟨first.1.trans second.1, sameMembers_trans ms first.2 second.2⟩
termination_by structural a

theorem sameItems_trans (xs : List Json) {ys zs : List Json} (first : sameItems xs ys = true)
    (second : sameItems ys zs = true) : sameItems xs zs = true := by
  cases xs with
  | nil =>
      cases ys with
      | nil => exact second
      | cons => simp [sameItems] at first
  | cons x xs =>
      cases ys with
      | nil => simp [sameItems] at first
      | cons y ys =>
          cases zs with
          | nil => simp [sameItems] at second
          | cons z zs =>
              simp only [sameItems, Bool.and_eq_true] at first second ⊢
              exact ⟨same_trans x first.1 second.1, sameItems_trans xs first.2 second.2⟩
termination_by structural xs

theorem sameMembers_trans (ms : List (String × Json)) {ns os : List (String × Json)}
    (first : sameMembers ms ns = true) (second : sameMembers ns os = true) :
    sameMembers ms os = true := by
  cases ms with
  | nil => rfl
  | cons member rest =>
      obtain ⟨name, value⟩ := member
      simp only [sameMembers, Bool.and_eq_true] at first ⊢
      obtain ⟨here, later⟩ := first
      refine ⟨?_, sameMembers_trans rest later second⟩
      cases found : ns.lookup name with
      | none => simp [found] at here
      | some other =>
          obtain ⟨last, shown, equal⟩ := Record.lookup_of_sameMembers second found
          rw [found] at here
          rw [shown]
          exact same_trans value here equal
termination_by structural ms

end

end Json

theorem Record.same_trans {a b c : Record} (first : Record.same a b = true)
    (second : Record.same b c = true) : Record.same a c = true := Json.same_trans _ first second

end DeclaredScreens
