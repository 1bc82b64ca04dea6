import DeclaredScreens.Proofs.Step.Forms

/-! What one step tells: the requests and toasts among its events, where it navigates, and whether
its result is an outcome or a failure. A step waits for its one request, fails, or answers at
once; only a failure of configuration or of a call shows a toast, the error of its notification. -/

namespace DeclaredScreens

namespace Event

def request? : Event → Option (String × Request)
  | .call url request => some (url, request)
  | _ => none

def toast? : Event → Option Toast
  | .toast shown => some shown
  | _ => none

def path? : Event → Option String
  | .navigate path => some path
  | _ => none

end Event

namespace Stepped

variable (stepped : Stepped)

def requests : List (String × Request) := stepped.events.filterMap Event.request?

def toasts : List Toast := stepped.events.filterMap Event.toast?

def paths : List String := stepped.events.filterMap Event.path?

end Stepped

namespace Result

def outcome? : Result → Option Outcome
  | .outcome told | .triggered (.executed told) => some told
  | .submitted told => some told.outcome
  | _ => none

def failure? : Result → Option Failure
  | .refused failure | .triggered (.rejected failure) => some failure
  | result => result.outcome?.bind (·.error)

/-- Neither an outcome nor a failure, and nothing to wait for. -/
def isPlain : Result → Bool
  | .refused _ | .outcome _ | .triggered (.executed _) | .triggered (.rejected _) | .submitted _
  | .waiting _ => false
  | _ => true

variable {result : Result}

theorem failure?_of_isPlain (plain : result.isPlain = true) : result.failure? = none := by
  unfold isPlain at plain
  split at plain <;> simp_all [failure?, outcome?]

theorem outcome?_of_isPlain (plain : result.isPlain = true) : result.outcome? = none := by
  unfold isPlain at plain
  split at plain <;> simp_all [outcome?]

end Result

namespace Purpose

variable (purpose : Purpose)

@[simp] theorem told_outcome? (outcome : Outcome) :
    (purpose.told outcome).outcome? = some outcome := by
  cases purpose <;> rfl

@[simp] theorem told_failure? (outcome : Outcome) :
    (purpose.told outcome).failure? = outcome.error := by
  cases purpose <;> rfl

end Purpose

def Host.toasts (host : Host) (kind : ToastKind) (text : Option String) : List Toast :=
  text.toList.map fun text => ⟨kind, host.localize text⟩

/-- What a failure shows: the error of the notification, when the action is not configured or
its call was rejected. -/
def Failure.toasts (host : Host) (notification : Option Notification) (failure : Failure) :
    List Toast :=
  match failure.code with
  | .notConfigured | .remote => host.toasts .error (notification.bind (·.error))
  | _ => []

namespace Screen

variable (host : Host) (s : Screen)

section Toast

variable (kind : ToastKind) (text : Option String)

@[simp] theorem filterMap_request?_toast : (toast host kind text).filterMap Event.request? = [] := by
  cases text <;> rfl

@[simp] theorem filterMap_toast?_toast :
    (toast host kind text).filterMap Event.toast? = host.toasts kind text := by
  cases text <;> rfl

@[simp] theorem filterMap_path?_toast : (toast host kind text).filterMap Event.path? = [] := by
  cases text <;> rfl

end Toast

def notification : Step → Option Notification
  | .execute _ _ _ notification _ => notification
  | .trigger (.api _ _ notification _) _ _ => notification
  | .submit i => s.forms[i]?.bind (·.spec.notification)
  | .reply n _ => (s.calls.lookup n).bind fun call => Purpose.notification call.purpose
  | _ => none

/-- How a step goes: it waits for the reply to its one request, it fails, or it answers without
a failure and without a request. -/
inductive Tells (notification : Option Notification) (stepped : Stepped) : Prop
  | waits (call : Call) (notified : Purpose.notification call.purpose = notification)
      (calls_eq : stepped.screen.calls = s.calls ++ [(s.issued, call)])
      (result_eq : stepped.result = .waiting s.issued)
      (requests_eq : stepped.requests = [(call.url, call.request)])
      (toasts_eq : stepped.toasts = []) (paths_eq : stepped.paths = [])
  | fails (failure : Failure) (failure_eq : stepped.result.failure? = some failure)
      (outcome_eq : ∀ outcome, stepped.result.outcome? = some outcome → outcome = .failed failure)
      (requests_eq : stepped.requests = [])
      (toasts_eq : stepped.toasts = failure.toasts host notification)
      (paths_eq : stepped.paths = [])
  | answers (failure_eq : stepped.result.failure? = none)
      (outcome_eq : ∀ outcome, stepped.result.outcome? = some outcome → outcome = .ok outcome.data)
      (told : ∀ n, stepped.result ≠ .waiting n) (requests_eq : stepped.requests = [])

variable {host s}

theorem Tells.plain {notification : Option Notification} {stepped : Stepped}
    (plain : stepped.result.isPlain = true) (requests_eq : stepped.requests = []) :
    Tells host s notification stepped := by
  refine .answers (Result.failure?_of_isPlain plain) ?_ ?_ requests_eq
  · simp [Result.outcome?_of_isPlain plain]
  · intro n waits
    simp [waits, Result.isPlain] at plain

theorem endpointFor_error {action : String} {item : Option Record} {failure : Failure}
    (absent : s.endpointFor action item = .error failure) :
    failure = .unregistered (Action.resolve action item) := by
  simp only [endpointFor] at absent
  split at absent <;> cases absent
  rfl

theorem endpointFor_ok_iff {action : String} {item : Option Record} {endpoint : Endpoint}
    {url : String} :
    s.endpointFor action item = .ok (endpoint, url) ↔
      s.registry.get? (Action.resolve action item) = some endpoint ∧
        url = endpoint.url s.baseUrl item := by
  simp only [endpointFor]
  split
  · next found same =>
      simp only [Except.ok.injEq, Prod.mk.injEq, same, Option.some.injEq]
      constructor <;> (rintro ⟨rfl, rfl⟩; exact ⟨rfl, rfl⟩)
  · next absent => simp [absent]

variable (host s)

section Execution

variable (purpose : Purpose) (action : String) (item : Option Record) (payload : Payload)
  (confirmation : Option Confirmation)

theorem send_tells {notification : Option Notification} (forms : List Form) (call : Call)
    (notified : Purpose.notification call.purpose = notification) :
    Tells host s notification ({ s with forms := forms }.send call) :=
  .waits call notified rfl rfl rfl rfl rfl

theorem execute_tells :
    Tells host s (Purpose.notification purpose) (execute host s action item payload purpose) := by
  cases found : s.endpointFor action item with
  | ok pair =>
      rw [execute_registered host s purpose action item payload found]
      exact send_tells host s s.forms _ rfl
  | error failure =>
      rw [execute_unregistered host s purpose action item payload found]
      have code : failure.code = .notConfigured := by rw [endpointFor_error found]; rfl
      refine .fails failure (by simp [Outcome.failed]) (by simp) ?_ ?_ ?_
      · simp [Stepped.requests, errorToast]
      · simp [Stepped.toasts, errorToast, Failure.toasts, code]
      · simp [Stepped.paths, errorToast]

theorem confirmed_tells :
    Tells host s (Purpose.notification purpose)
      (confirmed host s confirmation action item payload purpose) := by
  cases confirmation with
  | none => exact execute_tells ..
  | some confirmation =>
      simp only [confirmed, conclude_eq]
      split
      · cases execute_tells host s purpose action item payload with
        | waits call notified calls result requests toasts paths =>
            exact .waits call notified calls result requests toasts paths
        | fails failure failed outcome requests toasts paths =>
            exact .fails failure failed outcome requests toasts paths
        | answers failed outcome told requests => exact .answers failed outcome told requests
      · exact .fails (.unconfirmed action) (by simp [Outcome.failed]) (by simp) rfl rfl rfl

end Execution

theorem submit_tells (i : Nat) : Tells host s (s.notification (.submit i)) (s.step host (.submit i)) := by
  cases mounted : s.forms[i]? with
  | none =>
      simp only [Screen.step, onForm, mounted]
      exact .plain rfl rfl
  | some f =>
      have notified : s.notification (.submit i) = (s.current f).spec.notification := by
        simp [notification, mounted, current]
      rw [notified]
      cases submit_step host s mounted with
      | busy busy same =>
          rw [same]
          exact .fails .inProgress rfl (by simp [quiet, Result.outcome?, SubmitOutcome.outcome])
            rfl rfl rfl
      | incomplete idle lacking same =>
          rw [same]
          exact .fails (.incomplete (s.current f).missing) rfl
            (by simp [quiet, Result.outcome?, SubmitOutcome.outcome]) rfl rfl rfl
      | registered endpoint url idle complete found same =>
          rw [same]
          exact send_tells host s _ _ rfl
      | unregistered failure idle complete absent same =>
          rw [same]
          have code : failure.code = .notConfigured := by rw [endpointFor_error absent]; rfl
          refine .fails failure rfl (by simp [Result.outcome?, SubmitOutcome.outcome]) ?_ ?_ ?_
          · simp [Stepped.requests, errorToast]
          · simp [Stepped.toasts, errorToast, Failure.toasts, code]
          · simp [Stepped.paths, errorToast]

theorem answered_rejected (purpose : Purpose) (causes : List String) :
    answered host s purpose (.rejected causes) =
      ⟨{ s with forms := s.settledForms purpose false },
        errorToast host (Purpose.notification purpose),
        purpose.told (.failed (.remote causes))⟩ := by
  cases purpose with
  | list => rfl
  | _ => simp only [answered, conclude_eq, Outcome.failed]

theorem answered_response {purpose : Purpose} (execution : purpose.isExecution = true)
    (response : Response) :
    answered host s purpose (.response response) =
      ⟨{ s.takeIn response with forms := (s.takeIn response).settledForms purpose true },
        successToast host (Purpose.notification purpose),
        purpose.told (.ok response.data)⟩ := by
  cases purpose with
  | list => cases execution
  | _ => simp only [answered, conclude_eq, Outcome.ok]

theorem answered_list (response : Response) :
    answered host s .list (.response response) =
      { s with cache := s.cache.store s.baseUrl (response.data.getD (.array [])) }.quiet
        (.outcome (.ok (some (response.data.getD (.array []))))) := rfl

theorem answered_tells (met : Screen) (purpose : Purpose) (r : Reply) :
    Tells host s (Purpose.notification purpose) (answered host met purpose r) := by
  cases r with
  | rejected causes =>
      rw [answered_rejected]
      refine .fails (.remote causes) (by simp [Outcome.failed]) (by simp) ?_ ?_ ?_
      · simp [Stepped.requests, errorToast]
      · simp [Stepped.toasts, errorToast, Failure.toasts, Failure.remote]
      · simp [Stepped.paths, errorToast]
  | response response =>
      cases execution : purpose.isExecution with
      | true =>
          rw [answered_response host met execution]
          exact .answers (by simp [Outcome.ok]) (by simp [Outcome.ok]) (told_ne_waiting purpose _)
            (by simp [Stepped.requests, successToast])
      | false =>
          rw [Purpose.eq_list_of_not_execution execution, answered_list]
          exact .answers rfl (by simp [quiet, Result.outcome?, Outcome.ok]) (by simp [quiet]) rfl

theorem reply_tells (n : Nat) (r : Reply) :
    Tells host s (s.notification (.reply n r)) (s.reply host n r) := by
  unfold reply
  cases waiting : s.calls.lookup n with
  | none => exact .plain rfl rfl
  | some call =>
      have notified : s.notification (.reply n r) = Purpose.notification call.purpose := by
        simp [notification, waiting]
      rw [notified]
      exact answered_tells host s (s.withoutCall n) call.purpose r

theorem step_tells (step : Step) : Tells host s (s.notification step) (s.step host step) := by
  cases step with
  | execute action item payload notification confirmation =>
      exact confirmed_tells host s (.execution notification) action item payload confirmation
  | trigger action row approved =>
      cases action with
      | drawer name =>
          cases known : s.drawers.contains name with
          | true =>
              simp only [Screen.step, trigger, openDrawer, known, if_true]
              exact .plain rfl rfl
          | false =>
              simp only [Screen.step, trigger, openDrawer, known]
              exact .fails (.unknownDrawer name) rfl (by simp [quiet, Result.outcome?]) rfl rfl rfl
      | navigate path => exact .plain rfl rfl
      | api action confirm notification sendRow =>
          exact confirmed_tells host s (.trigger notification) action row _ _
  | openDrawer name payload =>
      cases known : s.drawers.contains name with
      | true =>
          simp only [Screen.step, openDrawer, known, if_true]
          exact .plain rfl rfl
      | false =>
          simp only [Screen.step, openDrawer, known]
          exact .fails (.unknownDrawer name) rfl (by simp [quiet, Result.outcome?]) rfl rfl rfl
  | list =>
      simp only [Screen.step, list]
      split
      · exact .answers rfl (by simp [quiet, Result.outcome?, Outcome.ok]) (by simp [quiet]) rfl
      · split
        · exact send_tells host s s.forms _ rfl
        · next failure absent =>
            have code : failure.code = .notConfigured := by rw [endpointFor_error absent]; rfl
            exact .fails failure rfl (by simp [quiet, Result.outcome?]) rfl
              (by simp [quiet, Stepped.toasts, Failure.toasts, code, notification, Host.toasts]) rfl
  | submit i => exact submit_tells host s i
  | reply n r => exact reply_tells host s n r
  | cancel n =>
      simp only [Screen.step, cancel]
      split
      · split <;> exact .plain rfl rfl
      · exact .plain rfl rfl
  | write | touch | validate | read | refresh =>
      simp only [Screen.step, onForm]
      split <;> exact .plain rfl rfl
  | _ => exact .plain rfl rfl

end Screen

end DeclaredScreens
