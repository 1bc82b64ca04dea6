import DeclaredScreens.ListCache
import DeclaredScreens.Proofs.Record

/-! The cached lists as a table, and which of them an invalidation drops. -/

namespace DeclaredScreens.ListCache

theorem get?_store (c : ListCache) (key other : String) (list : Json) :
    (c.store key list).get? other = if other = key then some list else c.get? other :=
  Entries.lookup_put ..

theorem get?_invalidate (c : ListCache) (address key : String) :
    (c.invalidate address).get? key = if covers address key then none else c.get? key := by
  have kept := lookup_filter (fun key => !covers address key) c.lists key
  simp only [get?, invalidate, kept]
  cases covers address key <;> rfl

@[simp] theorem covers_self (address : String) : covers address address = true := by
  simp [covers]

theorem covers_iff (address key : String) :
    covers address key = true ↔ key = address ∨ ∃ query, key = address ++ "?" ++ query := by
  simp only [covers, Bool.or_eq_true, decide_eq_true_eq, List.isPrefixOf_iff_prefix]
  refine or_congr_right ⟨?_, ?_⟩
  · rintro ⟨rest, same⟩
    refine ⟨String.ofList rest, String.toList_inj.mp ?_⟩
    rw [← same]
    simp
  · rintro ⟨query, rfl⟩
    exact ⟨query.toList, by simp⟩

end DeclaredScreens.ListCache
