import DeclaredScreens.Proofs.FreshLists
import DeclaredScreens.Proofs.Step.Settled

/-! The cached list is not seen. Steps are taken one after the other, each with the reply to its
call, from a server that answers index requests by how many executions have succeeded so far.
Then a screen tells the same results as one that has nothing cached when a step begins, and
between two successful executions it fetches the list once at most. -/

namespace DeclaredScreens

/-- A step, and the reply to its call if it is no list. -/
structure Turn where
  step : Step
  reply : Reply

/-- A turn that has been taken, after so many successful executions. -/
structure Visit where
  step : Step
  successes : Nat
  stepped : Stepped

theorem Step.eq_list_of_isList {step : Step} (listed : step.isList = true) : step = .list := by
  cases step with
  | list => rfl
  | _ => cases listed

namespace Visit

def executes (v : Visit) : Bool := !v.step.isList && v.stepped.result.succeeds

def fetches (v : Visit) : Bool :=
  v.step.isList && !v.stepped.requests.isEmpty && v.stepped.result.succeeds

def successesAfter (v : Visit) : Nat := if v.executes then v.successes + 1 else v.successes

end Visit

namespace Screen

variable (host : Host) (s : Screen)

def withoutCache : Screen := { s with cache := .empty }

def visit (prepare : Screen → Screen) (index : Nat → Reply) (successes : Nat) (turn : Turn) :
    Visit :=
  let given := if turn.step.isList then index successes else turn.reply
  ⟨turn.step, successes, (prepare s).stepAnswered host turn.step (some given)⟩

def visits (prepare : Screen → Screen) (index : Nat → Reply) : Screen → Nat → List Turn → List Visit
  | _, _, [] => []
  | s, successes, turn :: rest =>
      let v := s.visit host prepare index successes turn
      v :: visits prepare index v.stepped.screen v.successesAfter rest

section Visit

variable {prepare : Screen → Screen} {index : Nat → Reply} {successes : Nat} {turn : Turn}

theorem visit_list (listed : turn.step.isList = true) :
    s.visit host prepare index successes turn =
      ⟨.list, successes, (prepare s).stepAnswered host .list (some (index successes))⟩ := by
  simp [visit, Step.eq_list_of_isList listed, Step.isList]

theorem visit_other (unlisted : turn.step.isList = false) :
    s.visit host prepare index successes turn =
      ⟨turn.step, successes, (prepare s).stepAnswered host turn.step (some turn.reply)⟩ := by
  simp [visit, unlisted]

end Visit

def indexCall : Except Failure Call :=
  (s.endpointFor Action.index none).map fun (endpoint, url) =>
    ⟨url, ⟨endpoint.method, none⟩, .list⟩

def listOutcome (given : Reply) : Outcome :=
  match s.indexCall with
  | .error failure => .failed failure
  | .ok call =>
      match host.replyTo call given with
      | .response response => .ok (some (response.data.getD (.array [])))
      | .rejected causes => .failed (.remote causes)

variable {s} (given : Reply)

theorem list_hit {cached : Json} (hit : s.cache.get? s.baseUrl = some cached) :
    s.stepAnswered host .list (some given) = s.quiet (.outcome (.ok (some cached))) := by
  rw [stepAnswered_eq]
  simp only [Screen.step, list, hit]
  exact settle_of_told host given (Result.ne_waiting rfl)

theorem list_miss (idle : s.calls = []) (miss : s.cache.get? s.baseUrl = none) :
    s.stepAnswered host .list (some given) =
      match s.indexCall with
      | .error failure => s.quiet (.outcome (.failed failure))
      | .ok call => exchange host s given call := by
  rw [stepAnswered_eq]
  simp only [Screen.step, list, miss, indexCall]
  cases s.endpointFor Action.index none with
  | error failure => exact settle_of_told host given (Result.ne_waiting rfl)
  | ok pair => exact settle_send host s given idle _

theorem list_missed (idle : s.calls = []) (miss : s.cache.get? s.baseUrl = none) :
    let after := s.stepAnswered host .list (some given)
    after.result = .outcome (s.listOutcome host given) ∧
    after.screen.cache.get? s.baseUrl = (s.listOutcome host given).data ∧
    (∃ cache issued, after.screen = s.recast cache issued) ∧
    ∀ call, s.indexCall = .ok call → after.requests = [(call.url, call.request)] := by
  have missed : s.stepAnswered host .list (some given) = _ := list_miss host given idle miss
  intro after
  cases asked : s.indexCall with
  | error failure =>
      rw [asked] at missed
      rw [show after = _ from missed]
      simp only [listOutcome, asked]
      exact ⟨rfl, miss, ⟨_, _, rfl⟩, nofun⟩
  | ok call =>
      have isList : call.purpose = .list := by
        simp only [indexCall] at asked
        cases found : s.endpointFor Action.index none with
        | error failure => simp [found, Except.map] at asked
        | ok pair =>
            simp only [found, Except.map, Except.ok.injEq] at asked
            rw [← asked]
      rw [asked] at missed
      rw [show after = _ from missed]
      simp only [listOutcome, asked, exchange, isList]
      cases host.replyTo call given with
      | rejected causes =>
          refine ⟨rfl, miss, ⟨_, _, rfl⟩, ?_⟩
          rintro _ ⟨⟩
          rfl
      | response response =>
          rw [answered_list]
          refine ⟨rfl, ?_, ⟨_, _, rfl⟩, ?_⟩
          · simp [quiet, ListCache.get?_store, Outcome.ok]
          · rintro _ ⟨⟩
            rfl

/-- The cached list, if there is one, is the list that would be requested. -/
def Coherent (host : Host) (s : Screen) (given : Reply) : Prop :=
  ∀ cached, s.cache.get? s.baseUrl = some cached → s.listOutcome host given = .ok (some cached)

theorem listOutcome_of_data {list : Json} (data : (s.listOutcome host given).data = some list) :
    s.listOutcome host given = .ok (some list) := by
  unfold listOutcome at data ⊢
  split at data
  · cases data
  · split at data
    · exact congrArg Outcome.ok data
    · cases data

theorem list_told (idle : s.calls = []) (coherent : Coherent host s given) :
    let after := s.stepAnswered host .list (some given)
    after.result = .outcome (s.listOutcome host given) ∧ Coherent host after.screen given ∧
      ∃ cache issued, after.screen = s.recast cache issued := by
  intro after
  cases cached : s.cache.get? s.baseUrl with
  | some list =>
      rw [show after = _ from list_hit host given cached, coherent list cached]
      exact ⟨rfl, coherent, s.cache, s.issued, rfl⟩
  | none =>
      obtain ⟨result, stored, ⟨cache, issued, screen⟩, -⟩ :
        after.result = _ ∧ after.screen.cache.get? _ = _ ∧ _ :=
        list_missed host given idle cached
      refine ⟨result, fun list hit => ?_, cache, issued, screen⟩
      rw [screen] at hit stored ⊢
      exact listOutcome_of_data host given (stored.symm.trans hit)

theorem coherent_step (index : Nat → Reply) {step : Step} {successes : Nat} (idle : s.calls = [])
    (unlisted : step.isList = false) (blind : step.editsCache = false)
    (coherent : Coherent host s (index successes)) :
    let after := s.stepAnswered host step (some given)
    Coherent host after.screen
      (index (if after.result.succeeds then successes + 1 else successes)) := by
  intro after
  obtain ⟨base, registry, -⟩ : after.screen.baseUrl = _ ∧ after.screen.registry = _ ∧ _ :=
    stepAnswered_frame host given idle step
  have cache : after.screen.cache = _ := stepAnswered_cache host given idle step unlisted blind
  have outcome (r : Reply) : after.screen.listOutcome host r = s.listOutcome host r := by
    simp only [listOutcome, indexCall, endpointFor, base, registry]
  intro list hit
  rw [base, cache] at hit
  rw [outcome]
  split at hit
  · simp [ListCache.get?_invalidate] at hit
  · next failed =>
      rw [if_neg failed]
      exact coherent list hit

/-- Two screens between turns, the second of which forgets its cache before each. -/
structure Shadows (host : Host) (index : Nat → Reply) (successes : Nat) (s t : Screen) : Prop where
  idle : s.calls = []
  coherent : Coherent host s (index successes)
  same : ∃ cache issued, t = s.recast cache issued

theorem Shadows.turn {index : Nat → Reply} {successes : Nat} {t : Screen} {turn : Turn}
    (shadows : Shadows host index successes s t) (blind : turn.step.editsCache = false) :
    let v := s.visit host id index successes turn
    let w := t.visit host withoutCache index successes turn
    w.stepped.result = v.stepped.result ∧ w.successesAfter = v.successesAfter ∧
      Shadows host index v.successesAfter v.stepped.screen w.stepped.screen := by
  obtain ⟨idle, coherent, cache, issued, rfl⟩ := shadows
  have forgotten : (s.recast cache issued).withoutCache = s.recast .empty issued := rfl
  cases listed : turn.step.isList with
  | true =>
      rw [visit_list host s listed, visit_list host _ listed, forgotten]
      have idle' : (s.recast .empty issued).calls = [] := idle
      obtain ⟨told, kept, cache₁, issued₁, screen₁⟩ := list_told host _ idle coherent
      obtain ⟨told', -, ⟨cache₂, issued₂, screen₂⟩, -⟩ :=
        list_missed host (index successes) idle' rfl
      refine ⟨told'.trans told.symm, rfl, ?_, kept, ?_⟩
      · exact screen₁ ▸ idle
      · refine ⟨cache₂, issued₂, ?_⟩
        exact screen₂.trans (congrArg (·.recast cache₂ issued₂) screen₁).symm
  | false =>
      rw [visit_other host s listed, visit_other host _ listed, forgotten]
      have same := step_recast host turn.reply .empty issued idle listed blind
      obtain ⟨-, -, idle'⟩ := stepAnswered_frame host turn.reply idle turn.step
      have kept := coherent_step host turn.reply index idle listed blind coherent
      simp only [id, Visit.successesAfter, Visit.executes, listed, same.result_eq, Bool.not_false,
        Bool.true_and, true_and]
      exact ⟨idle', kept, _, _, same.screen_eq⟩

theorem visits_result {index : Nat → Reply} {successes : Nat} {t : Screen} {turns : List Turn}
    (shadows : Shadows host index successes s t)
    (blind : ∀ turn ∈ turns, turn.step.editsCache = false) :
    (visits host id index s successes turns).map (·.stepped.result) =
      (visits host withoutCache index t successes turns).map (·.stepped.result) := by
  induction turns generalizing s t successes with
  | nil => rfl
  | cons turn rest ih =>
      obtain ⟨result, count, after⟩ := shadows.turn host (blind turn (.head _))
      have later := ih after fun other mem => blind other (.tail _ mem)
      simp only [visits, List.map_cons, List.cons.injEq]
      refine ⟨result.symm, ?_⟩
      rw [count]
      exact later

theorem visits_requests {index : Nat → Reply} {successes : Nat} {turns : List Turn} {call : Call}
    (idle : s.calls = []) (asked : s.indexCall = .ok call) :
    ∀ v ∈ visits host withoutCache index s successes turns, v.step.isList = true →
      v.stepped.requests = [(call.url, call.request)] := by
  induction turns generalizing s successes with
  | nil =>
      intro v mem
      cases mem
  | cons turn rest ih =>
      have idle' : s.withoutCache.calls = [] := idle
      have miss : s.withoutCache.cache.get? s.withoutCache.baseUrl = none := rfl
      intro v mem listed
      rcases List.mem_cons.mp mem with rfl | later
      · have isList : turn.step.isList = true := listed
        obtain ⟨-, -, -, requests⟩ := list_missed host (index successes) idle' miss
        rw [visit_list host s isList]
        exact requests call asked
      · obtain ⟨base, registry, idle''⟩ := stepAnswered_frame host _ idle' turn.step
        refine ih idle'' ?_ v later listed
        rw [← asked]
        simp only [indexCall, endpointFor, base, registry]
        simp only [withoutCache]

/-- How many more fetches there can be after just `k` successes: none if they have gone by, none
while a list is cached, and one otherwise. -/
def fetchesLeft (s : Screen) (successes k : Nat) : Nat :=
  if k < successes ∨ k = successes ∧ (s.cache.get? s.baseUrl).isSome then 0 else 1

theorem succeeds_listOutcome :
    (Result.outcome (s.listOutcome host given)).succeeds =
      (s.listOutcome host given).data.isSome := by
  simp only [Result.succeeds, Result.outcome?, Option.any_some, listOutcome]
  split
  · rfl
  · split <;> rfl

/-- A fetch uses up what is left after just as many successes, and no other turn adds to it. -/
theorem visit_fetchesLeft (index : Nat → Reply) (successes : Nat) {turn : Turn}
    (idle : s.calls = []) (blind : turn.step.editsCache = false) (k : Nat) :
    let v := s.visit host id index successes turn
    (if v.successes = k && v.fetches then 1 else 0) +
      v.stepped.screen.fetchesLeft v.successesAfter k ≤ s.fetchesLeft successes k := by
  cases listed : turn.step.isList with
  | true =>
      rw [visit_list host s listed]
      cases cached : s.cache.get? s.baseUrl with
      | some list =>
          have hit := list_hit host (index successes) cached
          simp [hit, Visit.fetches, Visit.successesAfter, Visit.executes, Step.isList, quiet,
            Stepped.requests]
      | none =>
          obtain ⟨result, stored, ⟨cache, issued, screen⟩, -⟩ :=
            list_missed host (index successes) idle cached
          have base : (s.recast cache issued).baseUrl = s.baseUrl := rfl
          rw [screen] at stored
          -- The list is there after the turn just when the request has succeeded.
          simp only [id, Visit.fetches, Visit.successesAfter, Visit.executes, Step.isList, screen,
            result, succeeds_listOutcome, fetchesLeft, base, stored, cached]
          cases (s.listOutcome host (index successes)).data with
          | none => simp
          | some list => grind
  | false =>
      rw [visit_other host s listed]
      have cache := stepAnswered_cache host turn.reply idle turn.step listed blind
      obtain ⟨base, -, -⟩ := stepAnswered_frame host turn.reply idle turn.step
      simp only [id, Visit.fetches, Visit.successesAfter, Visit.executes, listed, fetchesLeft, base,
        cache]
      cases (s.stepAnswered host turn.step (some turn.reply)).result.succeeds with
      | false => simp
      | true => grind

theorem countP_fetches_le (index : Nat → Reply) (successes : Nat) {turns : List Turn}
    (idle : s.calls = []) (blind : ∀ turn ∈ turns, turn.step.editsCache = false) (k : Nat) :
    (visits host id index s successes turns).countP (fun v => v.successes = k && v.fetches) ≤
      s.fetchesLeft successes k := by
  induction turns generalizing s successes with
  | nil => exact Nat.zero_le _
  | cons turn rest ih =>
      let v := s.visit host id index successes turn
      have spent := visit_fetchesLeft host index successes idle (blind turn (.head _)) k
      have idle' : v.stepped.screen.calls = [] := (stepAnswered_frame host _ idle turn.step).2.2
      have later := ih v.successesAfter idle' fun other mem => blind other (.tail _ mem)
      calc (v :: visits host id index v.stepped.screen v.successesAfter rest).countP _
          ≤ v.stepped.screen.fetchesLeft v.successesAfter k +
              (if v.successes = k && v.fetches then 1 else 0) :=
            List.countP_cons ▸ Nat.add_le_add_right later _
        _ ≤ s.fetchesLeft successes k := Nat.add_comm .. ▸ spent

/-- From an empty cache, turns tell what they tell without one, where every list that can be
requested is; and of the requests after just `k` successful executions at most one succeeds. -/
theorem cached_lists_are_transparent (index : Nat → Reply) (turns : List Turn)
    (idle : s.calls = []) (empty : s.cache = .empty)
    (blind : ∀ turn ∈ turns, turn.step.editsCache = false) :
    let cached := visits host id index s 0 turns
    let uncached := visits host withoutCache index s 0 turns
    cached.map (·.stepped.result) = uncached.map (·.stepped.result) ∧
    (∀ call, s.indexCall = .ok call → ∀ v ∈ uncached, v.step.isList = true →
      v.stepped.requests = [(call.url, call.request)]) ∧
    ∀ k, cached.countP (fun v => v.successes = k && v.fetches) ≤ 1 := by
  have coherent : Coherent host s (index 0) := by
    intro list hit
    rw [empty] at hit
    cases hit
  have shadows : Shadows host index 0 s s := ⟨idle, coherent, s.cache, s.issued, rfl⟩
  refine ⟨visits_result host shadows blind, fun call => visits_requests host idle, fun k => ?_⟩
  have left : s.fetchesLeft 0 k ≤ 1 := by
    unfold fetchesLeft
    split <;> decide
  exact Nat.le_trans (countP_fetches_le host index 0 idle blind k) left

def aroundCreation : List Turn :=
  [⟨.list, created⟩, ⟨.list, created⟩, ⟨creation, created⟩, ⟨.list, created⟩, ⟨.list, created⟩]

def contactsAfter : Nat → Reply
  | 0 => .response ⟨none⟩
  | _ => .response ⟨some (.array [.object (Record.contact "1" "Ann")])⟩

theorem lists_around_creation_are_transparent :
    let cached := visits .plain id contactsAfter (ofSchema .contacts) 0 aroundCreation
    let uncached := visits .plain withoutCache contactsAfter (ofSchema .contacts) 0 aroundCreation
    cached.map (·.stepped.result) = uncached.map (·.stepped.result) ∧
    cached.map Visit.fetches = [true, false, false, true, false] ∧
    uncached.map Visit.fetches = [true, true, false, true, true] ∧
    ∀ k, cached.countP (fun v => v.successes = k && v.fetches) ≤ 1 := by
  obtain ⟨results, -, fetches⟩ := cached_lists_are_transparent .plain contactsAfter aroundCreation
    (s := ofSchema .contacts) rfl rfl (by decide)
  exact ⟨results, by decide +kernel, by decide +kernel, fetches⟩

end Screen

end DeclaredScreens
