import DeclaredScreens.Proofs.Decoders
import DeclaredScreens.Proofs.Json.Trees
import Mathlib.Data.List.Perm.Basic

/-! Trees that differ in what no reader looks at: the order of the members of an object, and members
under names that nobody asks for. What counts as rearranged is told along the fields of a type, in
tables that stand beside its decoder, and for each combinator of decoders it is shown once that it
makes the same of both trees. What may be added is left open here; it only must not hinder. -/

namespace DeclaredScreens

namespace Placed

variable {α β : Type}

def value? : Placed α → Option α
  | ok a => some a
  | error .. => none

@[simp] theorem toOption_decoded (p : Placed α) : p.decoded.toOption = p.value? := by
  cases p <;> rfl

@[simp] theorem value?_map (f : α → β) (p : Placed α) : (f <$> p).value? = p.value?.map f := by
  cases p <;> rfl

@[simp] theorem value?_seq (f : Placed (α → β)) (p : Placed α) :
    (f <*> p).value? = f.value?.bind fun g => p.value?.map g := by
  cases f with
  | ok g => cases p <;> rfl
  | error place cause =>
      cases p with
      | ok a => rfl
      | error place' cause' =>
          change (Placed.map _ (Placed.both (error place cause) (error place' cause'))).value? = none
          rw [Placed.both]
          split <;> rfl

end Placed

namespace Decoded

variable {α β : Type}

theorem toOption_bind (x : Decoded α) (f : α → Decoded β) :
    (x >>= f).toOption = x.toOption.bind fun a => (f a).toOption := by
  cases x <;> rfl

theorem toOption_map (f : α → β) (x : Decoded α) : (x.map f).toOption = x.toOption.map f := by
  cases x <;> rfl

theorem toOption_eq_some_iff {x : Decoded α} {a : α} : x.toOption = some a ↔ x = .ok a := by
  cases x <;> simp [Except.toOption]

end Decoded

namespace Scope

def inner (scope : Scope) : Scope := ⟨scope.provenance, scope.room - 1⟩

def aside (scope : Scope) : Scope := ⟨.aside, scope.room⟩

end Scope

abbrev Rearrangement := Scope → Raw → Raw → Prop

/-- A proper rearrangement leaves trees as they are, among others, and a rearranged tree that is
set aside has a value just when the tree itself has one. -/
structure Rearrangement.Proper (R : Rearrangement) : Prop where
  refl : ∀ scope raw, R scope raw raw
  hasValue_iff : ∀ room raw raw', R ⟨.aside, room⟩ raw raw' →
    (raw'.HasValue room ↔ raw.HasValue room)

/-- A decoder follows a rearrangement if it does not see it: it makes the same value of both trees,
or fails on both. -/
structure Decoder.Follows {α : Type} (decoder : Decoder α) (R : Rearrangement) : Prop where
  reads : ∀ {scope : Scope} {raw raw' : Raw}, raw.namesOnce = true → R scope raw raw' →
    (decoder scope raw').toOption = (decoder scope raw).toOption
  proper : R.Proper

namespace Members

section Under

variable {name : String} {ms : List (Option String × Raw)}

def under (name : String) (ms : List (Option String × Raw)) : List Raw :=
  (ms.filter fun m => m.1 = some name).map Prod.snd

theorem under_cons (name : String) (m : Option String × Raw) (ms : List (Option String × Raw)) :
    under name (m :: ms) = if m.1 = some name then m.2 :: under name ms else under name ms := by
  rw [under, List.filter_cons]
  by_cases here : m.1 = some name <;> simp [here, under]

theorem under_append (ms others : List (Option String × Raw)) :
    under name (ms ++ others) = under name ms ++ under name others := by
  simp only [under, List.filter_append, List.map_append]

theorem under_eq_nil (absent : some name ∉ ms.map Prod.fst) : under name ms = [] := by
  have none : ms.filter (fun m => m.1 = some name) = [] := List.filter_eq_nil_iff.mpr fun m mem => by
    have other : m.1 ≠ some name := fun same => absent (same ▸ List.mem_map_of_mem mem)
    simpa using other
  rw [under, none, List.map_nil]

theorem mem_of_mem_under {raw : Raw} (mem : raw ∈ under name ms) : (some name, raw) ∈ ms := by
  obtain ⟨⟨other, _⟩, here, rfl⟩ := List.mem_map.mp mem
  obtain ⟨held, same⟩ := List.mem_filter.mp here
  obtain rfl : other = some name := by simpa using same
  exact held

theorem length_under_le (distinct : (ms.map Prod.fst).Nodup) : (under name ms).length ≤ 1 := by
  have names : (ms.filter fun m => m.1 = some name).map Prod.fst =
      List.replicate (under name ms).length (some name) := by
    rw [List.eq_replicate_iff, under, List.length_map, List.length_map]
    refine ⟨rfl, fun other mem => ?_⟩
    obtain ⟨m, here, rfl⟩ := List.mem_map.mp mem
    simpa using (List.mem_filter.mp here).2
  have sublist := (List.filter_sublist (p := fun m => m.1 = some name) (l := ms)).map Prod.fst
  rw [names] at sublist
  exact List.nodup_replicate.mp (distinct.sublist sublist)

theorem map_occurrences (name : String) (place : Nat) (ms : List (Option String × Raw)) :
    (occurrences name place ms).map Prod.snd = under name ms := by
  induction ms generalizing place with
  | nil => rfl
  | cons m rest ih =>
      rw [occurrences, under_cons]
      split
      · rw [List.map_cons, ih]
      · exact ih (place + 1)

theorem under_without {known : List String} (unknown : name ∉ known)
    (ms : List (Option String × Raw)) :
    under name (Members.without known ⟨ms, true⟩).entries = under name ms := by
  rw [under, under, without, List.filter_filter]
  congr 1
  refine List.filter_congr fun m _ => ?_
  by_cases here : m.1 = some name
  · simp [here, unknown]
  · simp [here]

end Under

section Alike

variable {α : Type} {R : Rearrangement} {scope : Scope} {name : String} {m m' : Members}

theorem value?_field (m : Members) (scope : Scope) (name : String) (decoder : Decoder α)
    (absent : Option α) :
    (m.field scope name decoder absent).value? =
      match under name m.entries with
      | [] => absent
      | [raw] => (decoder scope raw).toOption
      | _ => none := by
  rw [← map_occurrences name 0]
  unfold Members.field
  cases occurrences name 0 m.entries with
  | nil => cases absent <;> rfl
  | cons first later =>
      cases read : decoder scope first.2 <;> cases later <;> simp [read] <;> rfl

theorem value?_field_without {known : List String} (unknown : name ∉ known)
    (ms : List (Option String × Raw)) (decoder : Decoder α) (absent : Option α) :
    ((Members.without known ⟨ms, true⟩).field scope name decoder absent).value? =
      (Members.field ⟨ms, true⟩ scope name decoder absent).value? := by
  rw [value?_field, value?_field, under_without unknown]

def Alike (R : Rearrangement) (scope : Scope) (name : String) (m m' : Members) : Prop :=
  List.Forall₂ (fun raw raw' => raw.namesOnce = true ∧ R scope raw raw') (under name m.entries)
    (under name m'.entries)

theorem Alike.without {ms ms' : List (Option String × Raw)}
    (alike : Alike R scope name ⟨ms, true⟩ ⟨ms', true⟩) {known : List String}
    (unknown : name ∉ known) :
    Alike R scope name (.without known ⟨ms, true⟩) (.without known ⟨ms', true⟩) := by
  rw [Alike, under_without unknown, under_without unknown]
  exact alike

theorem Alike.field (alike : Alike R scope name m m') {decoder : Decoder α}
    (follows : decoder.Follows R) (absent : Option α) :
    (m'.field scope name decoder absent).value? = (m.field scope name decoder absent).value? := by
  rw [value?_field, value?_field]
  unfold Alike at alike
  generalize under name m.entries = raws at alike ⊢
  generalize under name m'.entries = raws' at alike ⊢
  cases alike with
  | nil => rfl
  | cons first later =>
      cases later with
      | nil => exact follows.reads first.1 first.2
      | cons second later => rfl

end Alike

section Rearranged

variable {inside : Option String → Raw → Raw → Prop} {fresh : String → Raw → Prop}
  {ms ms' : List (Option String × Raw)}

/-- Members are rearranged inside, fresh ones join them, and all are put into some order. -/
def Rearranged (inside : Option String → Raw → Raw → Prop) (fresh : String → Raw → Prop)
    (ms ms' : List (Option String × Raw)) : Prop :=
  ∃ kept added, List.Forall₂ (fun m k => k.1 = m.1 ∧ inside m.1 m.2 k.2) ms kept ∧
    (∀ m ∈ added, ∃ name, m.1 = some name ∧ fresh name m.2) ∧ ms'.Perm (kept ++ added)

theorem Rearranged.of_perm {added : List (Option String × Raw)}
    (refl : ∀ name raw, inside name raw raw)
    (joined : ∀ m ∈ added, ∃ name, m.1 = some name ∧ fresh name m.2)
    (order : ms'.Perm (ms ++ added)) : Rearranged inside fresh ms ms' :=
  ⟨ms, added, List.forall₂_same.mpr fun m _ => ⟨rfl, refl m.1 m.2⟩, joined, order⟩

theorem Rearranged.refl (refl : ∀ name raw, inside name raw raw) :
    Rearranged inside fresh ms ms :=
  @of_perm _ _ _ _ [] refl nofun (by simp)

theorem Rearranged.forall_iff (rearranged : Rearranged inside fresh ms ms')
    {P : Option String × Raw → Prop}
    (kept : ∀ name raw raw', inside name raw raw' → (P (name, raw') ↔ P (name, raw)))
    (added : ∀ name raw, fresh name raw → P (some name, raw)) :
    (∀ m ∈ ms', P m) ↔ ∀ m ∈ ms, P m := by
  obtain ⟨keeps, more, pairs, joined, order⟩ := rearranged
  have same : (∀ k ∈ keeps, P k) ↔ ∀ m ∈ ms, P m := by
    clear order
    induction pairs with
    | nil => simp
    | @cons m k _ _ pair _ ih =>
        obtain ⟨name, raw⟩ := m
        obtain ⟨_, raw'⟩ := k
        obtain ⟨rfl, related⟩ := pair
        rw [List.forall_mem_cons, List.forall_mem_cons, ih, kept _ raw raw' related]
  have new : ∀ m ∈ more, P m := by
    rintro ⟨_, raw⟩ mem
    obtain ⟨name, rfl, isFresh⟩ := joined _ mem
    exact added name raw isFresh
  have all : (∀ m ∈ ms', P m) ↔ ∀ m ∈ keeps ++ more, P m :=
    forall_congr' fun m => by rw [order.mem_iff]
  rw [all, List.forall_mem_append, same, and_iff_left new]

theorem Rearranged.under (rearranged : Rearranged inside fresh ms ms')
    (distinct : (ms.map Prod.fst).Nodup) {name : String} (known : ∀ raw, ¬fresh name raw) :
    List.Forall₂ (inside (some name)) (under name ms) (under name ms') := by
  obtain ⟨keeps, more, pairs, joined, order⟩ := rearranged
  have absent : Members.under name more = [] := by
    refine under_eq_nil fun mem => ?_
    obtain ⟨m, here, same⟩ := List.mem_map.mp mem
    obtain ⟨_, own, isFresh⟩ := joined m here
    obtain rfl := Option.some.inj (own.symm.trans same)
    exact known m.2 isFresh
  have related : List.Forall₂ (inside (some name)) (Members.under name ms)
      (Members.under name keeps) := by
    clear order
    induction pairs with
    | nil => exact .nil
    | @cons m k _ _ pair _ ih =>
        rw [List.map_cons, List.nodup_cons] at distinct
        rw [under_cons, under_cons, pair.1]
        split
        · next here => exact .cons (here ▸ pair.2) (ih distinct.2)
        · exact ih distinct.2
  have order' : (Members.under name ms').Perm (Members.under name keeps) := by
    have all : (Members.under name ms').Perm (Members.under name (keeps ++ more)) := by
      unfold Members.under
      exact (order.filter _).map Prod.snd
    rwa [under_append, absent, List.append_nil] at all
  -- Of at most one member there is only one order.
  have single : (Members.under name keeps).length ≤ 1 :=
    related.length_eq ▸ length_under_le distinct
  suffices same : Members.under name ms' = Members.under name keeps from same ▸ related
  match Members.under name keeps, single, order' with
  | [], _, order' => exact order'.eq_nil
  | [raw], _, order' => exact List.perm_singleton.mp order'

theorem Rearranged.alike (rearranged : Rearranged inside fresh ms ms')
    (once : (Raw.object ms).namesOnce = true) {R : Rearrangement} {scope : Scope} {name : String}
    (known : ∀ raw, ¬fresh name raw) (field : inside (some name) = R scope) :
    Alike R scope name ⟨ms, true⟩ ⟨ms', true⟩ := by
  obtain ⟨distinct, each⟩ := Raw.namesOnce_object_iff.mp once
  have related := rearranged.under distinct known
  rw [field] at related
  exact (List.forall₂_and_left _ _).mpr
    ⟨fun raw mem => each _ (mem_of_mem_under mem), related⟩

theorem Rearranged.hasValue_iff (rearranged : Rearranged inside fresh ms ms') {room : Nat}
    (keeps : ∀ name raw raw', inside name raw raw' →
      (raw'.HasValue (room - 1) ↔ raw.HasValue (room - 1)))
    (values : ∀ name raw, fresh name raw → raw.HasValue (room - 1)) :
    (Raw.object ms').HasValue room ↔ (Raw.object ms).HasValue room := by
  rw [Raw.hasValue_object_iff, Raw.hasValue_object_iff]
  refine and_congr_right fun _ => rearranged.forall_iff (fun name raw raw' related => ?_)
    fun name raw isFresh => ?_
  · exact and_congr_right fun _ => keeps name raw raw' related
  · exact ⟨rfl, values name raw isFresh⟩

end Rearranged

theorem value?_others (known : List String) (accepts : Raw → Bool) (place : Nat)
    (ms : List (Option String × Raw)) :
    (others known accepts place ms).value? = some () ↔
      ∀ m ∈ ms, ∃ name, m.1 = some name ∧ (known.contains name || accepts m.2) = true := by
  induction ms generalizing place with
  | nil => simp [others, Placed.value?]
  | cons m rest ih =>
      obtain ⟨_ | name, raw⟩ := m
      · simp [others, Placed.value?]
      · rw [List.forall_mem_cons, ← ih (place + 1), others]
        split
        · next passes => simp only [Option.some.injEq, exists_eq_left', passes, true_and]
        · next stops =>
            refine iff_of_false (by simp [Placed.value?]) fun all => ?_
            obtain ⟨⟨_, same, passes⟩, -⟩ := all
            cases same
            exact absurd passes stops

theorem others_congr {known : List String} {accepts : Raw → Bool}
    {ms ms' : List (Option String × Raw)}
    (same : (∀ m ∈ ms', ∃ name, m.1 = some name ∧ (known.contains name || accepts m.2) = true) ↔
      ∀ m ∈ ms, ∃ name, m.1 = some name ∧ (known.contains name || accepts m.2) = true) :
    (others known accepts 0 ms').value? = (others known accepts 0 ms).value? := by
  rw [← value?_others, ← value?_others] at same
  exact Option.ext fun ⟨⟩ => same

end Members

end DeclaredScreens
