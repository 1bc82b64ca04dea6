import DeclaredScreens.Proofs.ListCache
import DeclaredScreens.Proofs.Run
import Mathlib.Data.List.Induction

/-! The cached lists over a history of stores and invalidations. What is found under a key is told
by the last change that concerns the key, and an invalidation counts the keys that it drops. -/

namespace DeclaredScreens

namespace ListCache

inductive Change
  | store (key : String) (list : Json)
  | invalidate (address : String)

namespace Change

/-- A store concerns its key; an invalidation its address, and the address with any query. -/
def Concerns (key : String) : Change → Prop
  | store other _ => key = other
  | invalidate address => key = address ∨ ∃ query, key = address ++ "?" ++ query

def apply (c : ListCache) : Change → ListCache
  | store key list => c.store key list
  | invalidate address => c.invalidate address

def step : Change → Step
  | store key list => .storeList key list
  | invalidate address => .invalidate address

/-- Is the change one of the history, with none after it that concerns the key? -/
def IsLast (key : String) (change : Change) (changes : List Change) : Prop :=
  ∃ before after, changes = before ++ change :: after ∧ ∀ later ∈ after, ¬later.Concerns key

variable {key : String} {change last : Change} {changes : List Change}

theorem not_isLast_nil : ¬IsLast key change [] := by
  rintro ⟨before, after, none, -⟩
  simp at none

theorem isLast_concat :
    IsLast key change (changes ++ [last]) ↔
      change = last ∨ ¬last.Concerns key ∧ IsLast key change changes := by
  constructor
  · rintro ⟨before, after, split, unconcerned⟩
    rcases List.eq_nil_or_concat' after with rfl | ⟨earlier, final, rfl⟩
    · obtain ⟨-, same⟩ := List.append_inj' split rfl
      exact .inl (List.cons.inj same).1.symm
    · rw [← List.cons_append, ← List.append_assoc] at split
      obtain ⟨rfl, same⟩ := List.append_inj' split rfl
      obtain rfl := (List.cons.inj same).1
      exact .inr ⟨unconcerned last (by simp), before, earlier, rfl, fun later mem =>
        unconcerned later (by simp [mem])⟩
  · rintro (rfl | ⟨unconcerned, before, after, rfl, rest⟩)
    · exact ⟨changes, [], rfl, nofun⟩
    · refine ⟨before, after ++ [last], by simp, fun later mem => ?_⟩
      rcases List.mem_append.mp mem with mem | mem
      · exact rest later mem
      · exact List.mem_singleton.mp mem ▸ unconcerned

theorem get?_apply_of_not_concerns (c : ListCache) (apart : ¬change.Concerns key) :
    (change.apply c).get? key = c.get? key := by
  cases change with
  | store other list => exact (get?_store ..).trans (if_neg apart)
  | invalidate address =>
      refine (get?_invalidate ..).trans (if_neg ?_)
      rwa [covers_iff]

theorem nodup_names_apply {c : ListCache} (distinct : (Entries.names c.lists).Nodup) :
    (Entries.names (change.apply c).lists).Nodup := by
  cases change with
  | store other list => exact Entries.nodup_names_put distinct
  | invalidate address => exact distinct.sublist (List.filter_sublist.map Prod.fst)

end Change

def history (changes : List Change) : ListCache := changes.foldl Change.apply empty

theorem history_concat (changes : List Change) (last : Change) :
    history (changes ++ [last]) = last.apply (history changes) := List.foldl_append

theorem get?_history (changes : List Change) (key : String) (list : Json) :
    (history changes).get? key = some list ↔ Change.IsLast key (.store key list) changes := by
  induction changes using List.reverseRecOn with
  | nil => exact iff_of_false nofun Change.not_isLast_nil
  | append_singleton changes last ih =>
      rw [history_concat, Change.isLast_concat, ← ih]
      by_cases concerned : last.Concerns key
      · cases last with
        | store other shown =>
            have here : key = other := concerned
            subst here
            simp [Change.apply, get?_store, concerned, eq_comm]
        | invalidate address =>
            have gone : ((history changes).invalidate address).get? key = none :=
              (get?_invalidate ..).trans (if_pos ((covers_iff ..).mpr concerned))
            simp [Change.apply, gone, concerned]
      · have other : Change.store key list ≠ last := fun same => concerned (same ▸ rfl)
        simp [Change.get?_apply_of_not_concerns _ concerned, concerned, other]

theorem nodup_names_history (changes : List Change) :
    (Entries.names (history changes).lists).Nodup := by
  induction changes using List.reverseRecOn with
  | nil => exact .nil
  | append_singleton changes last ih =>
      rw [history_concat]
      exact Change.nodup_names_apply ih

section Invalidation

variable (c : ListCache) (address other : String)

def droppedKeys : List String := (Entries.names c.lists).filter (covers address)

theorem mem_droppedKeys {key : String} :
    key ∈ c.droppedKeys address ↔
      (c.get? key).isSome = true ∧ (key = address ∨ ∃ query, key = address ++ "?" ++ query) := by
  rw [droppedKeys, List.mem_filter, Entries.mem_names_iff, covers_iff]
  rfl

theorem size_invalidate_add :
    (c.invalidate address).size + (c.droppedKeys address).length = c.size := by
  have parts := List.length_eq_length_filter_add (l := c.lists) fun entry => covers address entry.1
  have keys : (c.droppedKeys address).length =
      (c.lists.filter fun entry => covers address entry.1).length := by
    rw [droppedKeys, Entries.names, List.filter_map, List.length_map]
    rfl
  simp only [size, invalidate, keys]
  omega

theorem invalidated_eq : c.invalidated address = (c.droppedKeys address).length := by
  have parts := c.size_invalidate_add address
  simp only [size] at parts
  rw [invalidated]
  omega

theorem invalidate_invalidate :
    (c.invalidate address).invalidate address = c.invalidate address := by
  simp [invalidate, List.filter_filter]

theorem invalidate_comm :
    (c.invalidate address).invalidate other = (c.invalidate other).invalidate address := by
  simp [invalidate, List.filter_filter, Bool.and_comm]

end Invalidation

end ListCache

theorem Screen.cache_run_changes (host : Host) (s : Screen) (changes : List ListCache.Change) :
    (run host s (changes.map ListCache.Change.step)).cache =
      changes.foldl ListCache.Change.apply s.cache := by
  induction changes generalizing s with
  | nil => rfl
  | cons change rest ih =>
      rw [List.map_cons, run_cons, ih, List.foldl_cons]
      cases change <;> rfl

namespace ListCache

/-- After any history, a list is found under a key just when storing it there was the last change
that concerns the key. An invalidation drops the keys that are held and that it covers, each counted
once; repeated it drops none, and two of them may change places. A screen that takes such changes as
steps caches the same, and tells that number. -/
theorem history_tells_last_store (changes : List Change) :
    let c := history changes
    (∀ key list, c.get? key = some list ↔ Change.IsLast key (.store key list) changes) ∧
    (∀ address, ∃ dropped : List String, dropped.Nodup ∧
      (∀ key, key ∈ dropped ↔ (c.get? key).isSome = true ∧
        (key = address ∨ ∃ query, key = address ++ "?" ++ query)) ∧
      c.invalidated address = dropped.length ∧
      (c.invalidate address).size + dropped.length = c.size ∧
      (c.invalidate address).invalidated address = 0) ∧
    (∀ address other,
      (c.invalidate address).invalidate other = (c.invalidate other).invalidate address ∧
      c.invalidated address + (c.invalidate address).invalidated other =
        c.invalidated other + (c.invalidate other).invalidated address) ∧
    ∀ host schema,
      let s := Screen.run host (.ofSchema schema) (changes.map Change.step)
      s.cache = c ∧
        ∀ address,
          (s.step host (.invalidate address)).result = .dropped (c.invalidated address) := by
  intro c
  have cached (host : Host) (schema : Schema) :
      (Screen.run host (.ofSchema schema) (changes.map Change.step)).cache = c :=
    Screen.cache_run_changes host _ changes
  refine ⟨get?_history changes, fun address => ⟨c.droppedKeys address, ?_, ?_, ?_, ?_, ?_⟩,
    fun address other => ⟨c.invalidate_comm address other, ?_⟩,
    fun host schema => ⟨cached host schema, fun address => by rw [← cached host schema]; rfl⟩⟩
  · exact (nodup_names_history changes).filter _
  · exact fun key => c.mem_droppedKeys address
  · exact c.invalidated_eq address
  · exact c.size_invalidate_add address
  · simp [invalidated, invalidate_invalidate]
  · -- Both orders leave the same lists of the same cache.
    have first := c.size_invalidate_add address
    have second := (c.invalidate address).size_invalidate_add other
    have first' := c.size_invalidate_add other
    have second' := (c.invalidate other).size_invalidate_add address
    rw [invalidate_comm] at second
    simp only [invalidated_eq]
    omega

example :
    let c := history [.store "/api/a" .null, .store "/api/a?page=2" .null, .store "/api/ab" .null]
    c.invalidated "/api/a" = 2 ∧ (c.invalidate "/api/a").size = 1 := by decide +kernel

end ListCache

end DeclaredScreens
