import DeclaredScreens.Proofs.ListCache
import DeclaredScreens.Proofs.Run
import DeclaredScreens.Proofs.Step.Frame

/-! Lists after a mutation. The cached list of a screen is traced to the index request whose
reply it came from. A completed execution drops the list, and no older one comes back exactly
when no index request is in flight at that time: the reply to one that is would be stored after
the drop, and show the list from before the mutation. -/

namespace DeclaredScreens

def Step.stores : Step → Bool
  | .storeList _ _ => true
  | _ => false

namespace Screen

variable (host : Host) {s : Screen} {step : Step}

/-- The index request that the cached list of the screen came from, with that list. A response to
an execution drops it, and so does an invalidation of its address. -/
def noteSource (s : Screen) (step : Step) (source : Option (Nat × Json)) : Option (Nat × Json) :=
  match step with
  | .reply n (.response response) =>
      match s.calls.lookup n with
      | some call =>
          if call.purpose.isExecution then none else some (n, response.data.getD (.array []))
      | none => source
  | .invalidate address => if ListCache.covers address s.baseUrl then none else source
  | _ => source

def listSource (schema : Schema) (steps : List Step) : Option (Nat × Json) :=
  remember host noteSource (ofSchema schema) none steps

theorem cached_step {source : Option (Nat × Json)} (unstored : step.stores = false)
    (cached : s.cache.get? s.baseUrl = source.map Prod.snd) :
    (s.step host step).screen.cache.get? (s.step host step).screen.baseUrl =
      (noteSource s step source).map Prod.snd := by
  rw [baseUrl_step, cache_step]
  cases step with
  | storeList key list => cases unstored
  | invalidate address =>
      simp only [cacheAfter, noteSource, ListCache.get?_invalidate, cached]
      split <;> rfl
  | reply n r =>
      cases r with
      | rejected causes => exact cached
      | response response =>
          cases waiting : s.calls.lookup n with
          | none => simpa [cacheAfter, noteSource, waiting] using cached
          | some call =>
              by_cases execution : call.purpose.isExecution
              · simp [cacheAfter, noteSource, waiting, execution, ListCache.get?_invalidate]
              · simp [cacheAfter, noteSource, waiting, execution, ListCache.get?_store]
  | _ => exact cached

/-- What is shown as a list, now or once it is answered, comes from requests that were issued
with number `bound` or later. -/
structure Fresh (bound : Nat) (s : Screen) (source : Option (Nat × Json)) : Prop where
  cached : s.cache.get? s.baseUrl = source.map Prod.snd
  source_le : ∀ n list, source = some (n, list) → bound ≤ n
  calls_le : ∀ entry ∈ s.calls, entry.2.purpose = .list → bound ≤ entry.1
  issued_le : bound ≤ s.issued

theorem fresh_step {bound : Nat} {source : Option (Nat × Json)} (unstored : step.stores = false)
    (fresh : Fresh bound s source) :
    Fresh bound (s.step host step).screen (noteSource s step source) := by
  obtain ⟨cached, source_le, calls_le, issued_le⟩ := fresh
  refine ⟨cached_step host unstored cached, ?_, ?_, Nat.le_trans issued_le (issued_le_step host)⟩
  · intro n list same
    cases step with
    | reply m r =>
        cases r with
        | rejected causes => exact source_le n list same
        | response response =>
            simp only [noteSource] at same
            split at same
            · next call waiting =>
                split at same
                · cases same
                · next other =>
                    cases same
                    exact calls_le _ (mem_of_lookup waiting)
                      (Purpose.eq_list_of_not_execution (Bool.eq_false_iff.mpr other))
            · exact source_le n list same
    | invalidate address =>
        simp only [noteSource] at same
        split at same
        · cases same
        · exact source_le n list same
    | _ => exact source_le n list same
  · have kept := (s.callsKept_sublist step).subset
    cases step_asks host s step with
    | nothing calls_eq issued_eq told =>
        rw [calls_eq]
        exact fun entry mem => calls_le entry (kept mem)
    | call call isFor calls_eq issued_eq waits =>
        rw [calls_eq]
        intro entry mem isList
        rcases List.mem_append.mp mem with old | new
        · exact calls_le entry (kept old) isList
        · rw [List.mem_singleton.mp new]
          exact issued_le

theorem fresh_run {bound : Nat} {source : Option (Nat × Json)} (fresh : Fresh bound s source)
    (steps : List Step) (unstored : ∀ step ∈ steps, step.stores = false) :
    Fresh bound (run host s steps) (remember host noteSource s source steps) :=
  remember_invariant host s noteSource source (·.stores = false) (Fresh bound)
    (fun _ _ _ proper before => fresh_step host proper before) fresh steps unstored

theorem list_told_iff (list : Json) :
    (s.step host .list).result = .outcome (.ok (some list)) ↔
      s.cache.get? s.baseUrl = some list := by
  simp only [step, Screen.list]
  split
  · next cached same => simp [quiet, same, Outcome.ok]
  · next missing =>
      split <;> simp [quiet, send, missing, Outcome.ok, Outcome.failed]

theorem fresh_completed {n : Nat} {call : Call} {response : Response}
    {source : Option (Nat × Json)} (waiting : s.calls.lookup n = some call)
    (execution : call.purpose.isExecution = true)
    (quietly : ∀ entry ∈ (s.step host (.reply n (.response response))).screen.calls,
      entry.2.purpose ≠ .list) :
    Fresh (s.step host (.reply n (.response response))).screen.issued
      (s.step host (.reply n (.response response))).screen
      (noteSource s (.reply n (.response response)) source) := by
  have dropped : noteSource s (.reply n (.response response)) source = none := by
    simp [noteSource, waiting, execution]
  rw [dropped]
  refine ⟨?_, by simp, fun entry mem isList => absurd isList (quietly entry mem), Nat.le_refl _⟩
  rw [baseUrl_step, cache_step]
  simp [cacheAfter, waiting, execution, ListCache.get?_invalidate]

theorem told_after_list_reply {n : Nat} {call : Call}
    (waiting : s.calls.lookup n = some call) (isList : call.purpose = .list) :
    ((run host s [.reply n (.response ⟨none⟩)]).step host .list).result =
      .outcome (.ok (some (.array []))) := by
  rw [list_told_iff, run_cons, run_nil, baseUrl_step, cache_step]
  simp [cacheAfter, waiting, isList, Purpose.isExecution, ListCache.get?_store]

/-- After an execution completed with a response, a list that has to be called for waits for a
request that is issued after the completion. The lists that are told at once all came from such
requests exactly when no index request was in flight at the completion. -/
theorem lists_fresh_iff_none_in_flight (schema : Schema) (earlier : List Step) (n : Nat)
    (call : Call) (response : Response)
    (waiting : (run host (ofSchema schema) earlier).calls.lookup n = some call)
    (execution : call.purpose.isExecution = true) :
    let completed := earlier ++ [.reply n (.response response)]
    let done := run host (ofSchema schema) completed
    (∀ later m, ((run host done later).step host .list).result = .waiting m → done.issued ≤ m) ∧
    ((∀ later, (∀ step ∈ later, step.stores = false) → ∀ list,
        ((run host done later).step host .list).result = .outcome (.ok (some list)) →
        ∃ m, listSource host schema (completed ++ later) = some (m, list) ∧ done.issued ≤ m) ↔
      ∀ entry ∈ done.calls, entry.2.purpose ≠ .list) := by
  intro completed done
  refine ⟨?_, ?_, ?_⟩
  · intro later m waits
    have older : done.issued ≤ (run host done later).issued := issued_le_run host done later
    cases step_asks host (run host done later) .list with
    | nothing calls_eq issued_eq told => exact absurd waits (told m)
    | call call isFor calls_eq issued_eq waits' =>
        cases waits.symm.trans waits'
        exact older
  -- An index request in flight is answered next, with a list from before the completion.
  · intro fresh entry mem isList
    have numbered : done.Numbered := run_numbered host schema completed
    have inFlight : done.calls.lookup entry.1 = some entry.2 := numbered.lookup_iff.mpr mem
    obtain ⟨m, source, younger⟩ := fresh [.reply entry.1 (.response ⟨none⟩)]
      (by simp [Step.stores]) _ (told_after_list_reply host inFlight isList)
    rw [listSource, remember_append, remember_cons, remember_nil] at source
    have same : entry.1 = m := by
      simp only [noteSource, done, inFlight, isList, Purpose.isExecution] at source
      cases source
      rfl
    have older := numbered.lt_issued entry mem
    omega
  -- Nothing older is cached or in flight at the completion, and no step brings it back.
  · intro quietly later unstored list told
    have split : done = ((run host (ofSchema schema) earlier).step host
        (.reply n (.response response))).screen := run_append ..
    have start : Fresh done.issued done (listSource host schema completed) := by
      rw [listSource, remember_append, split]
      exact fresh_completed host waiting execution (split ▸ quietly)
    have after := fresh_run host start later unstored
    rw [listSource, remember_append]
    have cached := (list_told_iff host list).mp told
    rw [after.cached, Option.map_eq_some_iff] at cached
    obtain ⟨⟨m, _⟩, source, rfl⟩ := cached
    exact ⟨m, source, after.source_le m _ source⟩

def creation : Step := .execute "create" none ⟨some (.object [("name", .string "Ann")])⟩ none none

def created : Reply := .response ⟨some (.object (Record.contact "1" "Ann"))⟩

theorem lists_after_lone_creation_are_fresh :
    (run .plain (ofSchema .contacts) [creation, .reply 0 created]).calls.length = 0 ∧
    ∀ later, (∀ step ∈ later, step.stores = false) → ∀ list,
      ((run .plain (run .plain (ofSchema .contacts) [creation, .reply 0 created]) later).step
        .plain .list).result = .outcome (.ok (some list)) →
      ∃ m, listSource .plain .contacts ([creation, .reply 0 created] ++ later) = some (m, list) ∧
        1 ≤ m :=
  ⟨rfl, (lists_fresh_iff_none_in_flight .plain .contacts [creation] 0 _ _ rfl rfl).2.mpr
    fun _ mem => (List.not_mem_nil mem).elim⟩

/-- The empty list is on its way when the contact is created, and is shown after. -/
theorem list_in_flight_outlives_creation :
    ((run .plain (ofSchema .contacts) [.list, creation, .reply 1 created,
        .reply 0 (.response ⟨some (.array [])⟩)]).step .plain .list).result =
      .outcome (.ok (some (.array []))) ∧
    listSource .plain .contacts [.list, creation, .reply 1 created,
        .reply 0 (.response ⟨some (.array [])⟩)] = some (0, .array []) ∧
    0 < (run .plain (ofSchema .contacts) [.list, creation, .reply 1 created]).issued := by
  refine ⟨rfl, rfl, by decide⟩

end Screen

end DeclaredScreens
