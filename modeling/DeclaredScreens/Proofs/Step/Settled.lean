import DeclaredScreens.Proofs.Step.Calls
import DeclaredScreens.Proofs.Step.Told

/-! Steps together with the replies to their calls, in a screen where nothing else is in flight.
But for listing and for work on the cache itself, such a step goes the same way whatever is
cached and however many calls there have been; what it does to the cache is told by its success
alone. -/

namespace DeclaredScreens

def Step.editsCache : Step → Bool
  | .storeList _ _ | .invalidate _ => true
  | _ => false

def Step.isList : Step → Bool
  | .list => true
  | _ => false

theorem isExecution_of_asksFor {step : Step} {purpose : Purpose} (unlisted : step.isList = false)
    (isFor : step.asksFor purpose) : purpose.isExecution = true := by
  unfold Step.asksFor at isFor
  split at isFor
  case h_3 => cases unlisted
  case h_4 => obtain ⟨notification, rfl⟩ := isFor; rfl
  case h_5 => cases isFor
  all_goals rw [isFor]; rfl

def Result.succeeds (result : Result) : Bool := result.outcome?.any (·.success)

def Result.waits : Result → Bool
  | .waiting _ => true
  | _ => false

theorem Result.ne_waiting {result : Result} (told : result.waits = false) (n : Nat) :
    result ≠ .waiting n := by
  rintro rfl
  cases told

def Host.replyTo (host : Host) (call : Call) (given : Reply) : Reply :=
  (host.instantReply call.url).getD given

namespace Screen

variable (host : Host) (s : Screen) (given : Reply)

def exchange (call : Call) : Stepped :=
  let second :=
    answered host { s with issued := s.issued + 1 } call.purpose (host.replyTo call given)
  { second with events := .call call.url call.request :: second.events }

def settle (first : Stepped) : Stepped :=
  match first.result with
  | .waiting number =>
      match first.screen.calls.lookup number with
      | none => first
      | some call =>
          let second := first.screen.step host (.reply number (host.replyTo call given))
          { second with events := first.events ++ second.events }
  | _ => first

theorem stepAnswered_eq (step : Step) :
    s.stepAnswered host step (some given) = settle host given (s.step host step) := by
  simp only [stepAnswered, settle]
  cases (s.step host step).result with
  | waiting number =>
      simp only
      cases (s.step host step).screen.calls.lookup number with
      | none => rfl
      | some call => simp only [Host.replyTo]; cases host.instantReply call.url <;> rfl
  | _ => rfl

theorem settle_of_told {first : Stepped} (told : ∀ n, first.result ≠ .waiting n) :
    settle host given first = first := by
  unfold settle
  split
  · next n waits => exact absurd waits (told n)
  · rfl

theorem settle_append (earlier : List Event) (first : Stepped) :
    settle host given { first with events := earlier ++ first.events } =
      { settle host given first with events := earlier ++ (settle host given first).events } := by
  obtain ⟨screen, events, result⟩ := first
  cases result with
  | waiting number =>
      simp only [settle]
      cases screen.calls.lookup number with
      | none => rfl
      | some call => simp
  | _ => rfl

theorem settle_send (idle : s.calls = []) (call : Call) :
    settle host given (s.send call) = exchange host s given call := by
  simp [settle, send, idle, Screen.step, reply, withoutCall, exchange]

/-- The screen with other cached lists, and with other numbers for the calls to come. -/
def recast (cache : ListCache) (issued : Nat) : Screen :=
  { s with cache := cache, issued := issued }

/-- The same events and result, and the same screen but for cached lists and numbers. -/
structure SameButCache (stepped other : Stepped) : Prop where
  events_eq : other.events = stepped.events
  result_eq : other.result = stepped.result
  screen_eq : other.screen = stepped.screen.recast other.screen.cache other.screen.issued

variable {host s given} {cache : ListCache} {issued : Nat}

theorem SameButCache.append (earlier : List Event) {stepped other : Stepped}
    (same : SameButCache stepped other) :
    SameButCache { stepped with events := earlier ++ stepped.events }
      { other with events := earlier ++ other.events } :=
  ⟨congrArg (earlier ++ ·) same.events_eq, same.result_eq, same.screen_eq⟩

theorem answered_recast (purpose : Purpose) (r : Reply) :
    SameButCache (answered host s purpose r) (answered host (s.recast cache issued) purpose r) := by
  cases r with
  | rejected causes =>
      rw [answered_rejected, answered_rejected]
      exact ⟨rfl, rfl, rfl⟩
  | response response =>
      cases execution : purpose.isExecution with
      | true =>
          rw [answered_response host _ execution, answered_response host _ execution]
          simp only [takeIn_eq]
          exact ⟨rfl, rfl, rfl⟩
      | false =>
          rw [Purpose.eq_list_of_not_execution execution, answered_list, answered_list]
          exact ⟨rfl, rfl, rfl⟩

theorem exchange_recast (call : Call) :
    SameButCache (exchange host s given call)
      (exchange host (s.recast cache issued) given call) := by
  have same : SameButCache
      (answered host { s with issued := s.issued + 1 } call.purpose (host.replyTo call given))
      (answered host (s.recast cache (issued + 1)) call.purpose (host.replyTo call given)) :=
    answered_recast (s := { s with issued := s.issued + 1 }) ..
  exact same.append [.call call.url call.request]

section Execution

variable (idle : s.calls = []) (purpose : Purpose) (action : String) (item : Option Record)
  (payload : Payload)

include idle

theorem send_recast (call : Call) :
    SameButCache (settle host given (s.send call))
      (settle host given ((s.recast cache issued).send call)) := by
  rw [settle_send host s given idle, settle_send host (s.recast cache issued) given idle]
  exact exchange_recast call

theorem execute_recast :
    SameButCache (settle host given (execute host s action item payload purpose))
      (settle host given (execute host (s.recast cache issued) action item payload purpose)) := by
  cases found : s.endpointFor action item with
  | ok pair =>
      have found' : (s.recast cache issued).endpointFor action item = .ok pair := found
      rw [execute_registered host s purpose action item payload found,
        execute_registered host _ purpose action item payload found']
      exact send_recast idle _
  | error failure =>
      have absent : (s.recast cache issued).endpointFor action item = .error failure := found
      rw [execute_unregistered host s purpose action item payload found,
        execute_unregistered host _ purpose action item payload absent,
        settle_of_told host given (told_ne_waiting purpose _),
        settle_of_told host given (told_ne_waiting purpose _)]
      exact ⟨rfl, rfl, rfl⟩

theorem confirmed_recast (confirmation : Option Confirmation) :
    SameButCache (settle host given (confirmed host s confirmation action item payload purpose))
      (settle host given
        (confirmed host (s.recast cache issued) confirmation action item payload purpose)) := by
  cases confirmation with
  | none => exact execute_recast idle purpose action item payload
  | some confirmation =>
      simp only [confirmed, conclude_eq]
      split
      · have same : SameButCache (settle host given (execute host s action item payload purpose))
            (settle host given
              (execute host (s.recast cache issued) action item payload purpose)) :=
          execute_recast idle purpose action item payload
        have prompted := settle_append host given [.prompt (host.localize confirmation.message)]
        simp only [List.singleton_append] at prompted
        rw [prompted, prompted]
        exact same.append [_]
      · rw [settle_of_told host given (told_ne_waiting purpose _),
          settle_of_told host given (told_ne_waiting purpose _)]
        exact ⟨rfl, rfl, rfl⟩

end Execution

theorem SameButCache.settled {stepped other : Stepped} (same : SameButCache stepped other)
    (told : stepped.result.waits = false) :
    SameButCache (settle host given stepped) (settle host given other) := by
  have told' : other.result.waits = false := same.result_eq ▸ told
  rw [settle_of_told host given (Result.ne_waiting told),
    settle_of_told host given (Result.ne_waiting told')]
  exact same

theorem onForm_recast (i : Nat) {operation other : Form → Stepped}
    (same : ∀ f, SameButCache (settle host given (operation f)) (settle host given (other f))) :
    SameButCache (settle host given (s.onForm i operation))
      (settle host given ((s.recast cache issued).onForm i other)) := by
  have forms : (s.recast cache issued).forms = s.forms := rfl
  unfold onForm
  rw [forms]
  cases s.forms[i]? with
  | none => exact SameButCache.settled ⟨rfl, rfl, rfl⟩ rfl
  | some f => exact same _

theorem submit_recast (idle : s.calls = []) (i : Nat) (f : Form) :
    SameButCache (settle host given (submit host s i f))
      (settle host given (submit host (s.recast cache issued) i f)) := by
  unfold submit
  split
  · exact SameButCache.settled ⟨rfl, rfl, rfl⟩ rfl
  · split
    · exact execute_recast (s := s.withForm i { f with submitting := true }) idle _ _ _ _
    · exact SameButCache.settled ⟨rfl, rfl, rfl⟩ rfl

theorem trigger_recast (idle : s.calls = []) (action : ButtonAction) (row : Option Record)
    (approved : Bool) :
    SameButCache (settle host given (s.trigger host action row approved))
      (settle host given ((s.recast cache issued).trigger host action row approved)) := by
  cases action with
  | drawer name =>
      cases known : s.drawers.contains name <;> simp only [trigger, openDrawer, recast, known] <;>
        exact SameButCache.settled ⟨rfl, rfl, rfl⟩ rfl
  | navigate path => exact SameButCache.settled ⟨rfl, rfl, rfl⟩ rfl
  | api action confirm notification sendRow => exact confirmed_recast idle _ _ _ _ _

variable (host given cache issued) in
/-- A step that is no list and leaves the cache alone does not see what is cached. -/
theorem step_recast (idle : s.calls = []) {step : Step} (unlisted : step.isList = false)
    (blind : step.editsCache = false) :
    SameButCache (s.stepAnswered host step (some given))
      ((s.recast cache issued).stepAnswered host step (some given)) := by
  have idle' : (s.recast cache issued).calls = [] := idle
  rw [stepAnswered_eq, stepAnswered_eq]
  cases step with
  | list => cases unlisted
  | storeList | invalidate => cases blind
  | execute => exact confirmed_recast idle _ _ _ _ _
  | trigger action row approved => exact trigger_recast idle action row approved
  | submit i => exact onForm_recast i fun f => submit_recast (s := s.withForm i f) idle i f
  | write i | touch i | validate i | read i =>
      exact onForm_recast i fun f => SameButCache.settled ⟨rfl, rfl, rfl⟩ rfl
  | refresh i =>
      have forms : (s.recast cache issued).forms = s.forms := rfl
      simp only [Screen.step, forms]
      split <;> exact SameButCache.settled ⟨rfl, rfl, rfl⟩ rfl
  | openDrawer name payload =>
      cases known : s.drawers.contains name <;>
        simp only [Screen.step, openDrawer, recast, known] <;>
        exact SameButCache.settled ⟨rfl, rfl, rfl⟩ rfl
  | reply n r =>
      simp only [Screen.step, reply, idle, idle', List.lookup_nil]
      exact SameButCache.settled ⟨rfl, rfl, rfl⟩ rfl
  | cancel n =>
      simp only [Screen.step, cancel, idle, idle', List.lookup_nil]
      exact SameButCache.settled ⟨rfl, rfl, rfl⟩ rfl
  | _ => exact SameButCache.settled ⟨rfl, rfl, rfl⟩ rfl

theorem execute_unsuccessful (purpose : Purpose) (action : String) (item : Option Record)
    (payload : Payload) : (execute host s action item payload purpose).result.succeeds = false := by
  cases found : s.endpointFor action item with
  | ok pair =>
      rw [execute_registered host s purpose action item payload found]
      rfl
  | error failure =>
      rw [execute_unregistered host s purpose action item payload found]
      simp [Result.succeeds, Outcome.failed]

theorem confirmed_unsuccessful (purpose : Purpose) (action : String) (item : Option Record)
    (payload : Payload) (confirmation : Option Confirmation) :
    (confirmed host s confirmation action item payload purpose).result.succeeds = false := by
  rcases confirmed_cases host s purpose action item payload confirmation with
    ⟨-, result⟩ | ⟨-, result⟩
  · rw [result]
    exact execute_unsuccessful purpose action item payload
  · rw [result]
    simp [Result.succeeds, Outcome.failed]

theorem reply_cache {n : Nat} {call : Call} (waiting : s.calls.lookup n = some call)
    (execution : call.purpose.isExecution = true) (r : Reply) :
    (s.step host (.reply n r)).screen.cache =
      if (s.step host (.reply n r)).result.succeeds then s.cache.invalidate s.baseUrl
      else s.cache := by
  have answers : s.step host (.reply n r) = answered host (s.withoutCall n) call.purpose r := by
    simp only [Screen.step, reply, waiting]
  rw [cache_step, answers]
  cases r with
  | rejected causes =>
      rw [answered_rejected]
      simp [cacheAfter, Result.succeeds, Outcome.failed]
  | response response =>
      rw [answered_response host _ execution]
      simp [cacheAfter, waiting, execution, Result.succeeds, Outcome.ok]

section Effects

variable (host given) (idle : s.calls = []) (step : Step)

include idle

theorem callsKept_idle : s.callsKept step = [] :=
  List.sublist_nil.mp (idle ▸ s.callsKept_sublist step)

theorem stepAnswered_cases :
    ((∀ n, (s.step host step).result ≠ .waiting n) ∧ (s.step host step).screen.calls = [] ∧
      s.stepAnswered host step (some given) = s.step host step) ∨
    ∃ call, step.asksFor call.purpose ∧
      (s.step host step).screen.calls = [(s.issued, call)] ∧
      let second := (s.step host step).screen.step host (.reply s.issued (host.replyTo call given))
      s.stepAnswered host step (some given) =
        { second with events := (s.step host step).events ++ second.events } := by
  have kept : s.callsKept step = [] := callsKept_idle idle step
  rw [stepAnswered_eq]
  cases step_asks host s step with
  | nothing calls_eq issued_eq told =>
      exact .inl ⟨told, calls_eq.trans kept, settle_of_told host given told⟩
  | call call isFor calls_eq issued_eq waits =>
      have calls : (s.step host step).screen.calls = [(s.issued, call)] := by
        rw [calls_eq, kept]
        rfl
      refine .inr ⟨call, isFor, calls, ?_⟩
      simp [settle, waits, calls]

theorem stepAnswered_frame :
    let after := (s.stepAnswered host step (some given)).screen
    after.baseUrl = s.baseUrl ∧ after.registry = s.registry ∧ after.calls = [] := by
  rcases stepAnswered_cases host given idle step with
    ⟨-, calls, same⟩ | ⟨call, -, calls, same⟩
  · rw [same]
    exact ⟨baseUrl_step .., registry_step .., calls⟩
  · rw [same]
    refine ⟨by simp, by simp, ?_⟩
    cases reply_asks host (s.step host step).screen s.issued (host.replyTo call given) with
    | nothing calls_eq issued_eq told =>
        refine calls_eq.trans ?_
        simp [withoutCall, calls]
    | call call isFor => cases isFor

theorem step_unsuccessful (unlisted : step.isList = false) :
    (s.step host step).result.succeeds = false := by
  cases step with
  | list => cases unlisted
  | execute => exact confirmed_unsuccessful _ _ _ _ _
  | trigger action row approved =>
      cases action with
      | drawer name =>
          cases known : s.drawers.contains name <;>
            simp [Screen.step, trigger, openDrawer, known, quiet, Result.succeeds, Result.outcome?]
      | navigate path => rfl
      | api action confirm notification sendRow => exact confirmed_unsuccessful _ _ _ _ _
  | submit i =>
      cases mounted : s.forms[i]? with
      | none => simp [Screen.step, onForm, mounted, quiet, Result.succeeds, Result.outcome?]
      | some f =>
          cases submit_step host s mounted with
          | busy _ same | incomplete _ _ same | registered _ _ _ _ _ same
          | unregistered _ _ _ _ same =>
              rw [same]
              rfl
  | openDrawer name payload =>
      cases known : s.drawers.contains name <;>
        simp [Screen.step, openDrawer, known, quiet, Result.succeeds, Result.outcome?]
  | reply | cancel =>
      simp [Screen.step, reply, cancel, idle, quiet, Result.succeeds, Result.outcome?]
  | write | touch | validate | read | refresh =>
      simp only [Screen.step, onForm]
      split <;> rfl
  | _ => rfl

/-- Of the cached lists, a success of a step that is no list drops those of the screen; anything
else leaves them. -/
theorem stepAnswered_cache (unlisted : step.isList = false) (blind : step.editsCache = false) :
    let after := s.stepAnswered host step (some given)
    after.screen.cache =
      if after.result.succeeds then s.cache.invalidate s.baseUrl else s.cache := by
  intro after
  have untouched : (s.step host step).screen.cache = s.cache := by
    rw [cache_step]
    cases step with
    | storeList | invalidate => cases blind
    | reply n r => cases r <;> simp [cacheAfter, idle]
    | _ => rfl
  rcases stepAnswered_cases host given idle step with
    ⟨-, calls, same⟩ | ⟨call, isFor, calls, same⟩
  · rw [show after = s.step host step from same, step_unsuccessful host idle step unlisted,
      untouched]
    rfl
  · have execution : call.purpose.isExecution = true := isExecution_of_asksFor unlisted isFor
    have waiting : (s.step host step).screen.calls.lookup s.issued = some call := by simp [calls]
    rw [show after = _ from same]
    refine (reply_cache waiting execution (host.replyTo call given)).trans ?_
    rw [untouched, baseUrl_step]

end Effects

end Screen

end DeclaredScreens
