import DeclaredScreens.Proofs.ListCache
import DeclaredScreens.Proofs.Run
import DeclaredScreens.Proofs.Step.Told

/-! What an execution does. It makes one request if its action is registered, fixed when it
starts, and none otherwise. Whatever happened while it waited, its response hands a record to the
drawer that is open by then, drops the cached lists of the screen and shows one toast at most. -/

namespace DeclaredScreens.Screen

/-- An execution that has come to look up its endpoint. -/
structure Attempt where
  action : String
  item : Option Record
  payload : Payload
  purpose : Purpose

def Attempt.resolved (e : Attempt) : String := Action.resolve e.action e.item

def Attempt.request (e : Attempt) (endpoint : Endpoint) : Request :=
  ⟨endpoint.method, e.payload.data⟩

variable (host : Host) (s : Screen)

def passes : Option Confirmation → Bool
  | none => true
  | some confirmation => confirmation.approved || !host.hasUser

def submission? (i : Nat) (f : Form) : Option Attempt :=
  if f.submitting = false ∧ f.missing = [] then
    some ⟨f.spec.actionName, s.submitItem f, .ofData (.object f.values),
      .submission i f.spec.notification⟩
  else none

/-- The execution that a step comes to: past its prompt, and ready if it is that of a form. -/
def attempt? : Step → Option Attempt
  | .execute action item payload notification confirmation =>
      if passes host confirmation then some ⟨action, item, payload, .execution notification⟩
      else none
  | .trigger (.api action confirm notification sendRow) row approved =>
      if passes host (confirm.map (⟨·, approved⟩)) then
        some ⟨action, row, ⟨if sendRow then row.map .object else none⟩, .trigger notification⟩
      else none
  | .submit i => s.forms[i]?.bind fun f => s.submission? i (s.current f)
  | _ => none

def promptFor : Option Confirmation → List Event
  | none => []
  | some confirmation => [.prompt (host.localize confirmation.message)]

@[simp] theorem filterMap_request?_promptFor (confirmation : Option Confirmation) :
    (promptFor host confirmation).filterMap Event.request? = [] := by
  cases confirmation <;> rfl

def Attempt.start (e : Attempt) (forms : List Form) (confirmation : Option Confirmation) :
    Stepped :=
  let stepped := execute host { s with forms := forms } e.action e.item e.payload e.purpose
  { stepped with events := promptFor host confirmation ++ stepped.events }

variable {s} {step : Step} {e : Attempt}

theorem confirmed_passes {confirmation : Option Confirmation}
    (approved : passes host confirmation = true) :
    confirmed host s confirmation e.action e.item e.payload e.purpose =
      e.start host s s.forms confirmation := by
  cases confirmation with
  | none => rfl
  | some confirmation =>
      obtain ⟨message, yes⟩ := confirmation
      simp only [passes] at approved
      simp [confirmed, approved, Attempt.start, promptFor]

theorem step_of_attempt (comes : s.attempt? host step = some e) :
    e.purpose.isExecution = true ∧
      ∃ forms confirmation, s.step host step = e.start host s forms confirmation := by
  cases step with
  | execute action item payload notification confirmation =>
      simp only [attempt?] at comes
      split at comes
      · next approved =>
          cases comes
          exact ⟨rfl, s.forms, confirmation, confirmed_passes host (e := ⟨_, _, _, _⟩) approved⟩
      · cases comes
  | trigger action row approved =>
      cases action with
      | api action confirm notification sendRow =>
          simp only [attempt?] at comes
          split at comes
          · next approved =>
              cases comes
              exact ⟨rfl, s.forms, _, confirmed_passes host (e := ⟨_, _, _, _⟩) approved⟩
          · cases comes
      | _ => cases comes
  | submit i =>
      obtain ⟨f, mounted, ready⟩ := Option.bind_eq_some_iff.mp comes
      simp only [submission?] at ready
      split at ready
      · next ready' =>
          cases ready
          obtain ⟨idle, complete⟩ := ready'
          refine ⟨rfl, s.forms.set i { s.current f with submitting := true }, none, ?_⟩
          rw [step_submit host s mounted]
          simp only [submit, idle, complete, withForm_withForm]
          rfl
      · cases ready
  | _ => cases comes

theorem attempt_registered {endpoint : Endpoint} (comes : s.attempt? host step = some e)
    (registered : s.registry.get? e.resolved = some endpoint) :
    (s.step host step).requests = [(endpoint.url s.baseUrl e.item, e.request endpoint)] ∧
    (s.step host step).toasts = [] ∧ (s.step host step).result = .waiting s.issued ∧
    (s.step host step).screen.calls = s.calls ++
      [(s.issued, ⟨endpoint.url s.baseUrl e.item, e.request endpoint, e.purpose⟩)] := by
  obtain ⟨-, forms, confirmation, same⟩ := step_of_attempt host comes
  have found : { s with forms := forms }.endpointFor e.action e.item =
      .ok (endpoint, endpoint.url s.baseUrl e.item) := endpointFor_ok_iff.mpr ⟨registered, rfl⟩
  rw [same, Attempt.start, execute_registered host _ e.purpose e.action e.item e.payload found]
  cases confirmation <;> exact ⟨rfl, rfl, rfl, rfl⟩

theorem attempt_unregistered (comes : s.attempt? host step = some e)
    (absent : s.registry.get? e.resolved = none) :
    (s.step host step).requests = [] ∧
    (s.step host step).result = e.purpose.told (.failed (.unregistered e.resolved)) := by
  obtain ⟨-, forms, confirmation, same⟩ := step_of_attempt host comes
  have missing : { s with forms := forms }.endpointFor e.action e.item =
      .error (.unregistered e.resolved) := by
    have absent : s.registry.get? (Action.resolve e.action e.item) = none := absent
    simp only [endpointFor, absent]
    rfl
  rw [same, Attempt.start, execute_unregistered host _ e.purpose e.action e.item e.payload missing]
  simp [Stepped.requests, errorToast]

structure Completes (base : String) (purpose : Purpose) (response : Response) (before : Screen)
    (after : Stepped) : Prop where
  result_eq : after.result = purpose.told ⟨true, response.data, none⟩
  requests_eq : after.requests = []
  toasts_eq : after.toasts =
    host.toasts .success ((Purpose.notification purpose).bind (·.success))
  handed : ∀ fields name old, response.data = some (.object fields) →
    before.drawer = .opened name old → after.screen.drawer = .opened name (some fields)
  untouched : (∀ fields, response.data ≠ some (.object fields)) ∨ before.drawer.isOpen = false →
    after.screen.drawer = before.drawer
  dropped : ∀ key, (key = base ∨ ∃ query, key = base ++ "?" ++ query) →
    after.screen.cache.get? key = none
  kept : ∀ key, ¬ (key = base ∨ ∃ query, key = base ++ "?" ++ query) →
    after.screen.cache.get? key = before.cache.get? key

theorem record?_eq_some_iff {response : Response} {fields : Record} :
    response.record? = some fields ↔ response.data = some (.object fields) := by
  obtain ⟨data⟩ := response
  cases data with
  | none => simp [Response.record?]
  | some data => cases data <;> simp [Response.record?, Json.record?]

theorem completes_reply {n : Nat} {call : Call} {response : Response}
    (waiting : s.calls.lookup n = some call) (execution : call.purpose.isExecution = true) :
    Completes host s.baseUrl call.purpose response s
      (s.step host (.reply n (.response response))) := by
  have answers : s.step host (.reply n (.response response)) =
      answered host (s.withoutCall n) call.purpose (.response response) := by
    simp [Screen.step, reply, waiting]
  have delivered : s.delivers n (.response response) = response.record? := by
    simp [delivers, waiting, execution]
  have cache : (s.step host (.reply n (.response response))).screen.cache =
      s.cache.invalidate s.baseUrl := by
    rw [cache_step]
    simp [cacheAfter, waiting, execution]
  rw [answered_response host _ execution] at answers
  constructor
  case result_eq => rw [answers]; rfl
  case requests_eq => simp [answers, Stepped.requests, successToast]
  case toasts_eq => simp [answers, Stepped.toasts, successToast]
  case handed =>
    intro fields name old isObject opened
    rw [drawer_step, drawerAfter, delivered, record?_eq_some_iff.mpr isObject, opened]
    rfl
  case untouched =>
    intro notHanded
    rw [drawer_step, drawerAfter, delivered]
    cases record : response.record? with
    | none => rfl
    | some fields =>
        rcases notHanded with other | closed
        · exact absurd (record?_eq_some_iff.mp record) (other fields)
        · cases shown : s.drawer with
          | closed => rfl
          | opened name old => simp [shown, Drawer.isOpen] at closed
  case dropped =>
    intro key covered
    rw [cache, ListCache.get?_invalidate, if_pos ((ListCache.covers_iff _ _).mpr covered)]
  case kept =>
    intro key uncovered
    rw [cache, ListCache.get?_invalidate, if_neg (mt (ListCache.covers_iff _ _).mp uncovered)]

theorem outcome_step {outcome : Outcome}
    (told : (s.step host step).result.outcome? = some outcome) :
    (outcome.success = true ↔ outcome.error = none) ∧
      (outcome.success = false → outcome.data = none) := by
  cases step_tells host s step with
  | waits call notified calls result requests toasts paths =>
      simp [result, Result.outcome?] at told
  | fails failure failed isFailed requests toasts paths =>
      rw [isFailed outcome told]
      simp [Outcome.failed]
  | answers failed isOk waits requests =>
      rw [isOk outcome told]
      simp [Outcome.ok]

/-- An execution whose action is not registered makes no request and fails. One whose action is
registered makes one request, fixed at once, and completes with its response whatever the screen
has done in between. An outcome is a success just when it has no error, and data belongs to a
success. -/
theorem execution_effects (schema : Schema) (earlier : List Step) (step : Step) :
    let s := run host (ofSchema schema) earlier
    let started := s.step host step
    (∀ e, s.attempt? host step = some e →
      (schema.api.get? e.resolved = none → started.requests = [] ∧
        started.result = e.purpose.told (.failed (.unregistered e.resolved))) ∧
      ∀ endpoint, schema.api.get? e.resolved = some endpoint →
        started.requests = [(endpoint.url schema.baseUrl e.item, e.request endpoint)] ∧
        started.toasts = [] ∧ started.result = .waiting s.issued ∧
        ∀ later response, (∀ other ∈ later, other.finishes s.issued = false) →
          let before := run host started.screen later
          Completes host schema.baseUrl e.purpose response before
            (before.step host (.reply s.issued (.response response)))) ∧
    ∀ outcome, started.result.outcome? = some outcome →
      (outcome.success = true ↔ outcome.error = none) ∧
        (outcome.success = false → outcome.data = none) := by
  intro s started
  have base : s.baseUrl = schema.baseUrl := baseUrl_run host _ earlier
  have registry : s.registry = schema.api := registry_run host _ earlier
  refine ⟨fun e comes => ⟨fun absent => ?_, fun endpoint registered => ?_⟩,
    fun outcome told => outcome_step host told⟩
  · exact attempt_unregistered host comes (registry ▸ absent)
  · obtain ⟨requests, toasts, waits, calls⟩ :=
      attempt_registered host comes (registry ▸ registered)
    refine ⟨base ▸ requests, toasts, waits, fun later response unfinished => ?_⟩
    intro before
    have numbered : started.screen.Numbered := numbered_step host (run_numbered host schema earlier)
    have inFlight : started.screen.calls.lookup s.issued =
        some ⟨endpoint.url s.baseUrl e.item, e.request endpoint, e.purpose⟩ :=
      numbered.lookup_iff.mpr (by simp [started, calls])
    have waiting := lookup_run host inFlight later unfinished
    have same : before.baseUrl = schema.baseUrl := by simp [before, started, base]
    rw [← same]
    exact completes_reply host waiting (step_of_attempt host comes).1

def listed : List Step :=
  [.list, .reply 0 (.response ⟨some (.array [])⟩),
    .openDrawer "edit" (some (Record.contact "1" "Ann"))]

def saving : Step :=
  .execute "save" (some (Record.contact "1" "Ann"))
    ⟨some (.object (Record.contact "1" "Anna"))⟩ (some ⟨some "Saved", some "Could not save"⟩)
    (some ⟨"Save?", true⟩)

theorem approved_save_completes :
    ((run .plain (ofSchema .contacts) listed).step .plain saving).requests =
      [("/api/contacts/1", ⟨"PUT", some (.object (Record.contact "1" "Anna"))⟩)] ∧
    ∃ after, after = (run .plain (ofSchema .contacts)
        (listed ++ [saving, .openDrawer "edit" (some (Record.contact "2" "Bob"))])).step .plain
          (.reply 1 (.response ⟨some (.object (Record.contact "1" "Anna"))⟩)) ∧
      after.screen.drawer = .opened "edit" (some (Record.contact "1" "Anna")) ∧
      after.toasts = [⟨.success, "Saved"⟩] ∧ after.screen.cache.get? "/api/contacts" = none := by
  have url : Endpoint.url ⟨"PUT", ":id"⟩ "/api/contacts" (some (Record.contact "1" "Ann")) =
      "/api/contacts/1" := by decide +kernel
  obtain ⟨effects, -⟩ := execution_effects .plain .contacts listed saving
  obtain ⟨requests, -, -, completes⟩ := (effects _ rfl).2 ⟨"PUT", ":id"⟩ rfl
  have completed := completes [.openDrawer "edit" (some (Record.contact "2" "Bob"))]
    ⟨some (.object (Record.contact "1" "Anna"))⟩ (by decide)
  refine ⟨url ▸ requests, _, rfl, completed.handed _ _ _ rfl rfl, completed.toasts_eq, ?_⟩
  exact completed.dropped _ (.inl rfl)

end DeclaredScreens.Screen
