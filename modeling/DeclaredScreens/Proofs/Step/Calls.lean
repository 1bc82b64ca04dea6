import DeclaredScreens.Proofs.Record
import DeclaredScreens.Proofs.Step.Execution

/-! What one step does to the calls in flight: a reply or a cancellation takes its call away,
and any other step adds at most one, under the next number. -/

namespace DeclaredScreens

def Step.finishes (n : Nat) : Step → Bool
  | .reply m _ | .cancel m => m = n
  | _ => false

namespace Screen

variable (host : Host) (s : Screen) (step : Step)

def callsKept : Step → List (Nat × Call)
  | .reply n _ | .cancel n => (s.withoutCall n).calls
  | _ => s.calls

variable {calls : List (Nat × Call)} {issued : Nat} {stepped : Stepped}

theorem Asks.mono {purposes more : Purpose → Prop} (weaker : ∀ p, purposes p → more p)
    (asks : Asks calls issued purposes stepped) : Asks calls issued more stepped := by
  cases asks with
  | nothing calls_eq issued_eq told => exact .nothing calls_eq issued_eq told
  | call call isFor calls_eq issued_eq waits =>
      exact .call call (weaker _ isFor) calls_eq issued_eq waits

theorem submit_asks (i : Nat) (f : Form) :
    Asks s.calls s.issued (Step.asksFor (.submit i)) (submit host s i f) := by
  unfold submit
  split
  · exact .nothing rfl rfl fun n => by simp [quiet]
  · split
    · refine Asks.mono ?_ (execute_asks host (s.withForm i { f with submitting := true }) ..)
      rintro purpose rfl
      exact ⟨_, rfl⟩
    · exact .nothing rfl rfl fun n => by simp [quiet]

theorem onForm_asks {i : Nat} {operation : Form → Stepped} {purposes : Purpose → Prop}
    (asks : ∀ f, Asks s.calls s.issued purposes (operation f)) :
    Asks s.calls s.issued purposes (s.onForm i operation) := by
  unfold onForm
  split
  · exact asks _
  · exact .nothing rfl rfl fun n => by simp [quiet]

theorem withoutCall_calls_of_none {n : Nat} (unknown : s.calls.lookup n = none) :
    (s.withoutCall n).calls = s.calls := by
  rw [List.lookup_eq_none_iff] at unknown
  simp only [withoutCall, List.filter_eq_self, decide_eq_true_eq]
  intro entry mem same
  simpa [same] using unknown entry mem

theorem reply_asks (n : Nat) (r : Reply) :
    Asks (s.withoutCall n).calls s.issued (Step.asksFor (.reply n r)) (s.reply host n r) := by
  unfold reply
  cases waiting : s.calls.lookup n with
  | none => exact .nothing (withoutCall_calls_of_none s waiting).symm rfl fun n => by simp [quiet]
  | some call =>
      obtain ⟨url, request, purpose⟩ := call
      cases r <;> cases purpose <;> simp only [answered, conclude_eq, Purpose.told] <;>
        exact .nothing (by simp [quiet, takeIn_eq]) (by simp [quiet, takeIn_eq, withoutCall])
          (by simp [quiet])

theorem step_asks : Asks (s.callsKept step) s.issued step.asksFor (s.step host step) := by
  cases step with
  | execute action item payload notification confirmation => exact confirmed_asks ..
  | trigger action row approved =>
      cases action with
      | drawer name =>
          cases known : s.drawers.contains name <;>
            exact .nothing (by simp [Screen.step, trigger, openDrawer, known, quiet, callsKept])
              (by simp [Screen.step, trigger, openDrawer, known, quiet])
              (by simp [Screen.step, trigger, openDrawer, known, quiet])
      | navigate path => exact .nothing rfl rfl fun n => by simp [Screen.step, trigger]
      | api action confirm notification sendRow => exact confirmed_asks ..
  | list =>
      simp only [Screen.step, list]
      split
      · exact .nothing rfl rfl fun n => by simp [quiet]
      · split
        · exact .call ⟨_, _, .list⟩ rfl rfl rfl rfl
        · exact .nothing rfl rfl fun n => by simp [quiet]
  | submit i => exact onForm_asks s fun f => submit_asks host (s.withForm i f) i f
  | write | touch | validate | read =>
      simp only [Screen.step, callsKept]
      refine onForm_asks s fun f => ?_
      exact .nothing rfl rfl fun n => by simp [quiet]
  | refresh i =>
      simp only [Screen.step]
      split <;> exact .nothing rfl rfl fun n => by simp [quiet]
  | openDrawer name payload =>
      cases known : s.drawers.contains name <;>
        exact .nothing (by simp [Screen.step, openDrawer, known, quiet, callsKept])
          (by simp [Screen.step, openDrawer, known, quiet])
          (by simp [Screen.step, openDrawer, known, quiet])
  | reply n r => exact reply_asks host s n r
  | cancel n =>
      simp only [Screen.step, cancel, callsKept]
      split
      · split
        · rw [endSubmission_eq]
          exact .nothing rfl rfl fun n => by simp [quiet]
        · exact .nothing rfl rfl fun n => by simp [quiet]
      · next unknown =>
          exact .nothing (withoutCall_calls_of_none s unknown).symm rfl fun n => by simp [quiet]
  | navigate | closeDrawer | showDrawer | setPayload | pick | storeList | invalidate | mount =>
      exact .nothing rfl rfl fun n => by simp [Screen.step, quiet]

/-- Every call in flight has a number of its own, which was given out before. -/
structure Numbered (s : Screen) : Prop where
  lt_issued : ∀ entry ∈ s.calls, entry.1 < s.issued
  nodup : (s.calls.map Prod.fst).Nodup

theorem callsKept_sublist : (s.callsKept step).Sublist s.calls := by
  cases step with
  | reply | cancel => exact List.filter_sublist
  | _ => exact .refl _

variable {s step}

theorem numbered_step (numbered : s.Numbered) : (s.step host step).screen.Numbered := by
  have kept := s.callsKept_sublist step
  have nodup := (kept.map Prod.fst).nodup numbered.nodup
  have older : ∀ entry ∈ s.callsKept step, entry.1 < s.issued := fun entry mem =>
    numbered.lt_issued entry (kept.subset mem)
  cases step_asks host s step with
  | nothing calls_eq issued_eq told =>
      constructor
      · rwa [calls_eq, issued_eq]
      · rwa [calls_eq]
  | call call isFor calls_eq issued_eq waits =>
      constructor
      · rw [calls_eq, issued_eq]
        intro entry mem
        rcases List.mem_append.mp mem with old | new
        · exact Nat.lt_succ_of_lt (older entry old)
        · rw [List.mem_singleton.mp new]
          exact Nat.lt_succ_self _
      · rw [calls_eq, List.map_append, List.nodup_append]
        refine ⟨nodup, by simp, ?_⟩
        rintro n old m new rfl
        obtain ⟨entry, mem, rfl⟩ := List.mem_map.mp old
        exact absurd (List.mem_singleton.mp new) (Nat.ne_of_lt (older entry mem))

theorem issued_le_step : s.issued ≤ (s.step host step).screen.issued := by
  cases step_asks host s step with
  | nothing calls_eq issued_eq told => omega
  | call call isFor calls_eq issued_eq waits => omega

theorem mem_of_lookup {n : Nat} {call : Call} (found : s.calls.lookup n = some call) :
    (n, call) ∈ s.calls := by
  obtain ⟨before, after, split, -⟩ := List.lookup_eq_some_iff.mp found
  simp [split]

theorem Numbered.lookup_iff (numbered : s.Numbered) {n : Nat} {call : Call} :
    s.calls.lookup n = some call ↔ (n, call) ∈ s.calls :=
  ⟨mem_of_lookup, lookup_of_mem numbered.nodup⟩

theorem lookup_withoutCall (n m : Nat) :
    (s.withoutCall n).calls.lookup m = if m ≠ n then s.calls.lookup m else none := by
  simpa [withoutCall] using lookup_filter (fun m => decide (m ≠ n)) s.calls m

theorem lookup_step {n : Nat} {call : Call} (waiting : s.calls.lookup n = some call)
    (unfinished : step.finishes n = false) :
    (s.step host step).screen.calls.lookup n = some call := by
  have kept : (s.callsKept step).lookup n = some call := by
    cases step with
    | reply m r | cancel m =>
        have other : n ≠ m := by simpa [Step.finishes, eq_comm] using unfinished
        simp [callsKept, lookup_withoutCall, other, waiting]
    | _ => exact waiting
  cases step_asks host s step with
  | nothing calls_eq issued_eq told => rw [calls_eq, kept]
  | call call isFor calls_eq issued_eq waits => rw [calls_eq, List.lookup_append, kept]; rfl

end Screen

end DeclaredScreens
