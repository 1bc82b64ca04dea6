/-! What is known of a computation that may fail once it has come to an end: so have the parts of it
that came first. -/

namespace DeclaredScreens

section Except

variable {α β δ ε : Type} {x : Except ε α} {f : α → Except ε β} {e : ε} {r : β}

theorem ok_of_bind (ok : (x >>= f) = .ok r) : ∃ a, x = .ok a ∧ f a = .ok r := by
  cases x with
  | error e => cases ok
  | ok a => exact ⟨a, rfl, ok⟩

theorem ok_of_guard {refused : Bool} {g : PUnit → Except ε β} {rest : Except ε β}
    (ok : (if refused then throw e >>= g else rest) = .ok r) : rest = .ok r := by
  cases refused with
  | true => cases ok
  | false => exact ok

theorem mapError_eq_ok_iff {rename : ε → δ} {a : α} : x.mapError rename = .ok a ↔ x = .ok a := by
  cases x with
  | error e => exact ⟨nofun, nofun⟩
  | ok b =>
      constructor
      all_goals
        intro same
        cases same
        rfl

theorem ok_of_map {g : α → β} (ok : x.map g = .ok r) : ∃ a, x = .ok a ∧ g a = r := by
  cases x with
  | error e => cases ok
  | ok a => exact ⟨a, rfl, Except.ok.inj ok⟩

theorem map_eq_error_iff {g : α → β} : x.map g = .error e ↔ x = .error e := by
  cases x <;> simp [Except.map]

theorem ok_of_toOption {a : α} (some : x.toOption = .some a) : x = .ok a := by
  cases x with
  | error e => cases some
  | ok b => cases some; rfl

end Except

end DeclaredScreens
