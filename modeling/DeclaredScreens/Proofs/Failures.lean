import DeclaredScreens.Proofs.Run
import DeclaredScreens.Proofs.Step.Told

/-! Failures. A step that fails, when it is asked for or when its call is rejected, leaves alone
what is shared: the drawer, the cached lists, the page that is shown. So does a call that is
dropped, and so did the step that put it in flight. A failure calls nothing, and it is shown just
when the action was not configured or its call was rejected, and its notification has a text. -/

namespace DeclaredScreens.Screen

variable (host : Host) {s : Screen} {step : Step}

/-- The drawer and the cached lists stay as they are, and nothing is navigated. -/
structure Undisturbed (s : Screen) (stepped : Stepped) : Prop where
  drawer_eq : stepped.screen.drawer = s.drawer
  cache_eq : stepped.screen.cache = s.cache
  paths_eq : stepped.paths = []

theorem shared_kept (asked : (s.step host step).result.isPlain = false)
    (unsuccessful : ∀ outcome, (s.step host step).result.outcome? = some outcome →
      outcome.success = false) :
    s.drawerAfter step = s.drawer ∧ s.cacheAfter step = s.cache := by
  cases step with
  | openDrawer name payload =>
      cases known : s.drawers.contains name with
      | true => simp [Screen.step, openDrawer, known, quiet, Result.isPlain] at asked
      | false => simp [drawerAfter, cacheAfter, known]
  | trigger action row approved =>
      cases action with
      | drawer name =>
          cases known : s.drawers.contains name with
          | true => simp [Screen.step, trigger, openDrawer, known, quiet, Result.isPlain] at asked
          | false => simp [drawerAfter, cacheAfter, known]
      | _ => exact ⟨rfl, rfl⟩
  | reply n r =>
      cases r with
      | rejected causes => exact ⟨rfl, rfl⟩
      | response response =>
          cases waiting : s.calls.lookup n with
          | none => simp [drawerAfter, cacheAfter, delivers, waiting]
          | some call =>
              simp only [Screen.step, reply, waiting] at unsuccessful
              cases execution : call.purpose.isExecution with
              | true =>
                  rw [answered_response host _ execution] at unsuccessful
                  simp [Outcome.ok] at unsuccessful
              | false =>
                  rw [Purpose.eq_list_of_not_execution execution, answered_list] at unsuccessful
                  simp [quiet, Result.outcome?, Outcome.ok] at unsuccessful
  | showDrawer | closeDrawer | setPayload | pick | storeList | invalidate =>
      simp [Screen.step, quiet, Result.isPlain] at asked
  | _ => exact ⟨rfl, rfl⟩

theorem undisturbed (paths_eq : (s.step host step).paths = [])
    (kept : s.drawerAfter step = s.drawer ∧ s.cacheAfter step = s.cache) :
    s.Undisturbed (s.step host step) :=
  ⟨by rw [drawer_step, kept.1], by rw [cache_step, kept.2], paths_eq⟩

theorem undisturbed_of_waiting {n : Nat} (waits : (s.step host step).result = .waiting n) :
    s.Undisturbed (s.step host step) := by
  cases step_tells host s step with
  | waits call notified calls result requests toasts paths =>
      exact undisturbed host paths (shared_kept host (by simp [waits, Result.isPlain])
        (by simp [waits, Result.outcome?]))
  | fails failure failed outcome requests toasts paths =>
      simp [waits, Result.failure?, Result.outcome?] at failed
  | answers failed outcome told requests => exact absurd waits (told n)

theorem undisturbed_of_failure {failure : Failure}
    (failed : (s.step host step).result.failure? = some failure) :
    s.Undisturbed (s.step host step) ∧ (s.step host step).requests = [] ∧
      (s.step host step).toasts = failure.toasts host (s.notification step) := by
  cases step_tells host s step with
  | waits call notified calls result requests toasts paths =>
      simp [result, Result.failure?, Result.outcome?] at failed
  | fails cause failed' outcome requests toasts paths =>
      cases failed.symm.trans failed'
      refine ⟨undisturbed host paths (shared_kept host ?_ fun o told => ?_), requests, toasts⟩
      · refine Bool.eq_false_iff.mpr fun plain => ?_
        simp [Result.failure?_of_isPlain plain] at failed
      · rw [outcome o told]
        rfl
  | answers unfailed outcome told requests => cases failed.symm.trans unfailed

theorem code_of_failed_reply {n : Nat} {r : Reply} {failure : Failure}
    (failed : (s.step host (.reply n r)).result.failure? = some failure) :
    failure.code = .remote := by
  simp only [Screen.step, reply] at failed
  cases waiting : s.calls.lookup n with
  | none => simp [waiting, quiet, Result.failure?, Result.outcome?] at failed
  | some call =>
      simp only [waiting] at failed
      cases r with
      | rejected causes =>
          rw [answered_rejected, Purpose.told_failure?] at failed
          cases failed
          rfl
      | response response =>
          cases execution : call.purpose.isExecution with
          | true =>
              rw [answered_response host _ execution, Purpose.told_failure?] at failed
              cases failed
          | false =>
              rw [Purpose.eq_list_of_not_execution execution, answered_list] at failed
              cases failed

theorem call_of_waiting (numbered : s.Numbered) {n : Nat}
    (waits : (s.step host step).result = .waiting n) :
    (s.step host step).toasts = [] ∧
    ∃ call, Purpose.notification call.purpose = s.notification step ∧
      ∀ later, (∀ other ∈ later, other.finishes n = false) →
        (run host (s.step host step).screen later).calls.lookup n = some call := by
  cases step_tells host s step with
  | waits call notified calls result requests toasts paths =>
      cases waits.symm.trans result
      refine ⟨toasts, call, notified, fun later unfinished => ?_⟩
      have inFlight : (s.issued, call) ∈ (s.step host step).screen.calls := by simp [calls]
      have numberedAfter : (s.step host step).screen.Numbered := numbered_step host numbered
      exact lookup_run host (numberedAfter.lookup_iff.mpr inFlight) later unfinished
  | fails failure failed outcome requests toasts paths =>
      simp [waits, Result.failure?, Result.outcome?] at failed
  | answers failed outcome told requests => exact absurd waits (told n)

theorem refused_setPayload {payload : Option Record}
    (refused : (s.step host (.setPayload payload)).result = .accepted false) :
    s.step host (.setPayload payload) = s.quiet (.accepted false) := by
  obtain ⟨baseUrl, registry, drawers, drawer, cache, forms, calls, issued⟩ := s
  cases drawer with
  | closed => rfl
  | opened name old => cases refused

theorem cancel_undisturbed (n : Nat) :
    s.Undisturbed (s.step host (.cancel n)) ∧ (s.step host (.cancel n)).events = [] := by
  have quietly : (s.step host (.cancel n)).events = [] := by
    simp only [Screen.step, cancel]
    split
    · split <;> rfl
    · rfl
  exact ⟨undisturbed host (by simp [Stepped.paths, quietly]) ⟨rfl, rfl⟩, quietly⟩

/-- Whatever fails leaves the drawer, the cached lists and the page alone: a step that waits for a
call, whose notification it hands on to the reply; a failure, which makes no call and shows the
error of its notification when the action is not configured or the call rejected, and else
nothing; a payload that a closed drawer refuses; and a call that is dropped. Only a rejected call
fails after it was asked for. -/
theorem failure_leaves_shared_state (schema : Schema) (earlier : List Step) (step : Step) :
    let s := run host (ofSchema schema) earlier
    let after := s.step host step
    (∀ n, after.result = .waiting n → s.Undisturbed after ∧ after.toasts = [] ∧
      ∃ call, Purpose.notification call.purpose = s.notification step ∧
        ∀ later, (∀ other ∈ later, other.finishes n = false) →
          (run host after.screen later).calls.lookup n = some call) ∧
    (∀ failure, after.result.failure? = some failure → s.Undisturbed after ∧
      after.requests = [] ∧ after.toasts = failure.toasts host (s.notification step) ∧
      ∀ n r, step = .reply n r → failure.code = .remote) ∧
    (after.result = .accepted false → (∃ payload, step = .setPayload payload) ∨
      (∃ selection, step = .pick selection) → after = ⟨s, [], .accepted false⟩) ∧
    (∀ n, step = .cancel n → s.Undisturbed after ∧ after.events = []) := by
  intro s after
  refine ⟨fun n waits => ?_, fun failure failed => ?_, ?_, ?_⟩
  · have numbered : s.Numbered := run_numbered host schema earlier
    exact ⟨undisturbed_of_waiting host waits, call_of_waiting host numbered waits⟩
  · obtain ⟨kept, requests, toasts⟩ := undisturbed_of_failure host failed
    refine ⟨kept, requests, toasts, ?_⟩
    rintro n r rfl
    exact code_of_failed_reply host failed
  · rintro refused (⟨payload, rfl⟩ | ⟨selection, rfl⟩)
    · exact refused_setPayload host refused
    · have unchanged : s.step host (.setPayload (some selection)) = s.quiet (.accepted false) :=
        refused_setPayload host refused
      exact unchanged
  · rintro n rfl
    exact cancel_undisturbed host n

def creating : List Step :=
  [.list, .reply 0 (.response ⟨some (.array [])⟩),
    .openDrawer "edit" (some (Record.contact "1" "Ann")),
    .execute "create" none .none (some ⟨some "Saved", some "Could not save"⟩) none]

theorem rejected_creation_shows_error :
    (run .plain (ofSchema .contacts) creating).Undisturbed
      ((run .plain (ofSchema .contacts) creating).step .plain (.reply 1 (.rejected ["timeout"]))) ∧
    ((run .plain (ofSchema .contacts) creating).step .plain
      (.reply 1 (.rejected ["timeout"]))).requests = [] ∧
    ((run .plain (ofSchema .contacts) creating).step .plain
      (.reply 1 (.rejected ["timeout"]))).toasts = [⟨.error, "Could not save"⟩] := by
  obtain ⟨kept, requests, toasts, -⟩ := (failure_leaves_shared_state .plain .contacts creating
    (.reply 1 (.rejected ["timeout"]))).2.1 (.remote ["timeout"]) rfl
  exact ⟨kept, requests, toasts⟩

end DeclaredScreens.Screen
