import DeclaredScreens.Screen

/-! Executions by cases: an execution puts its call in flight when its endpoint is registered,
and otherwise ends at once, its submission with it. A prompt adds an event, or ends the
execution too. -/

namespace DeclaredScreens

namespace Purpose

def form? : Purpose → Option Nat
  | submission i _ => some i
  | _ => none

def isExecution : Purpose → Bool
  | list => false
  | _ => true

def told (outcome : Outcome) : Purpose → Result
  | list | execution _ => .outcome outcome
  | trigger _ => .triggered (.executed outcome)
  | submission _ _ => .submitted (.completed outcome)

theorem eq_list_of_not_execution {purpose : Purpose} (other : purpose.isExecution = false) :
    purpose = .list := by
  cases purpose with
  | list => rfl
  | _ => cases other

theorem eq_submission_of_form? {purpose : Purpose} {i : Nat} (isFor : purpose.form? = some i) :
    ∃ notification, purpose = .submission i notification := by
  cases purpose with
  | submission j notification => exact ⟨notification, by rw [Option.some.inj isFor]⟩
  | _ => cases isFor

end Purpose

def Reply.succeeds : Reply → Bool
  | .response _ => true
  | .rejected _ => false

/-- A step asks for what it names: only a list for a list, only the submission of its form. -/
def Step.asksFor : Step → Purpose → Prop
  | .execute _ _ _ notification _, purpose => purpose = .execution notification
  | .trigger (.api _ _ notification _) _ _, purpose => purpose = .trigger notification
  | .list, purpose => purpose = .list
  | .submit i, purpose => ∃ notification, purpose = .submission i notification
  | _, _ => False

namespace Form

def settled (f : Form) (succeeded : Bool) (seed : Record) : Form :=
  if succeeded && f.spec.usesActiveRecord then f.endSubmission.catchUp seed
  else f.endSubmission

@[simp] theorem catchUp_spec (f : Form) (seed : Record) : (f.catchUp seed).spec = f.spec := by
  unfold catchUp
  split <;> rfl

theorem catchUp_of_submitting {f : Form} (busy : f.submitting = true) (seed : Record) :
    f.catchUp seed = f := by
  simp [catchUp, isBehind, busy]

@[simp] theorem catchUp_submitting (f : Form) (seed : Record) :
    (f.catchUp seed).submitting = f.submitting := by
  unfold catchUp
  split
  · next behind => simp_all [isBehind, reset]
  · rfl

@[simp] theorem catchUp_catchUp (f : Form) (seed : Record) :
    (f.catchUp seed).catchUp seed = f.catchUp seed := by
  by_cases behind : f.isBehind seed
  · simp only [catchUp, behind, if_true]
    split <;> rfl
  · simp [catchUp, behind]

theorem settled_failed (f : Form) (seed : Record) : f.settled false seed = f.endSubmission := by
  simp [settled]

@[simp] theorem settled_submitting (f : Form) (succeeded : Bool) (seed : Record) :
    (f.settled succeeded seed).submitting = false := by
  unfold settled
  split
  · rw [catchUp_submitting]
    rfl
  · rfl

theorem catchUp_settled (f : Form) (succeeded : Bool) (seed : Record) :
    (f.settled succeeded seed).catchUp seed = f.endSubmission.catchUp seed := by
  unfold settled
  split
  · exact catchUp_catchUp _ _
  · rfl

end Form

namespace Screen

variable (host : Host) (s : Screen) (purpose : Purpose)

def settledForms (succeeded : Bool) : List Form :=
  match purpose.form? with
  | some i => s.forms.modify i fun f => f.settled succeeded (s.seedFor f.spec)
  | none => s.forms

theorem forms_set {i : Nat} {f : Form} (mounted : s.forms[i]? = some f) (change : Form → Form) :
    s.forms.set i (change f) = s.forms.modify i change := by
  apply List.ext_getElem?
  intro j
  rw [List.getElem?_set, List.getElem?_modify]
  by_cases here : i = j
  · subst here
    have bound := (List.getElem?_eq_some_iff.mp mounted).1
    rw [mounted]
    simp [bound]
  · simp [here]

theorem endSubmission_eq (i : Nat) (succeeded : Bool) :
    s.endSubmission i succeeded = { s with
      forms := s.forms.modify i fun f => f.settled succeeded (s.seedFor f.spec) } := by
  unfold endSubmission
  cases mounted : s.forms[i]? with
  | none => simp [List.modify_eq_self (List.getElem?_eq_none_iff.mp mounted)]
  | some f =>
      rw [← forms_set s mounted]
      simp only [withForm, Form.settled]
      split <;> rfl

theorem conclude_eq (outcome : Outcome) :
    s.conclude purpose outcome =
      ({ s with forms := s.settledForms purpose outcome.success }, purpose.told outcome) := by
  cases purpose with
  | submission i notification =>
      simp only [conclude, endSubmission_eq, settledForms, Purpose.form?, Purpose.told]
  | _ => rfl

theorem takeIn_eq (response : Response) :
    s.takeIn response = { s with
      drawer := match response.record? with
        | some record => s.drawer.setPayload (some record)
        | none => s.drawer
      cache := s.cache.invalidate s.baseUrl } := by
  unfold takeIn
  cases response.record? <;> rfl

section Execution

variable (action : String) (item : Option Record) (payload : Payload)
  (confirmation : Option Confirmation)

theorem execute_registered {endpoint : Endpoint} {url : String}
    (found : s.endpointFor action item = .ok (endpoint, url)) :
    execute host s action item payload purpose =
      s.send ⟨url, ⟨endpoint.method, payload.data⟩, purpose⟩ := by
  simp [execute, found]

theorem execute_unregistered {failure : Failure}
    (absent : s.endpointFor action item = .error failure) :
    execute host s action item payload purpose =
      ⟨{ s with forms := s.settledForms purpose false },
        errorToast host (Purpose.notification purpose), purpose.told (.failed failure)⟩ := by
  simp [execute, absent, conclude_eq, Outcome.failed]

/-- Whether a step puts a call in flight: it leaves the calls as they are and tells its result
at once, or it adds one call under the next number and waits for it. -/
inductive Asks (calls : List (Nat × Call)) (issued : Nat) (purpose : Purpose → Prop)
    (stepped : Stepped) : Prop
  | nothing (calls_eq : stepped.screen.calls = calls) (issued_eq : stepped.screen.issued = issued)
      (told : ∀ n, stepped.result ≠ .waiting n)
  | call (call : Call) (isFor : purpose call.purpose)
      (calls_eq : stepped.screen.calls = calls ++ [(issued, call)])
      (issued_eq : stepped.screen.issued = issued + 1)
      (waits : stepped.result = .waiting issued)

theorem told_ne_waiting (outcome : Outcome) (n : Nat) : purpose.told outcome ≠ .waiting n := by
  cases purpose <;> simp [Purpose.told]

theorem execute_asks :
    Asks s.calls s.issued (· = purpose) (execute host s action item payload purpose) := by
  cases found : s.endpointFor action item with
  | ok endpoint =>
      rw [execute_registered host s purpose action item payload found]
      exact .call _ rfl rfl rfl rfl
  | error failure =>
      rw [execute_unregistered host s purpose action item payload found]
      exact .nothing rfl rfl (told_ne_waiting purpose _)

theorem execute_frame :
    ∃ forms calls issued, (execute host s action item payload purpose).screen =
      { s with forms := forms, calls := calls, issued := issued } := by
  cases found : s.endpointFor action item with
  | ok endpoint =>
      rw [execute_registered host s purpose action item payload found]
      exact ⟨_, _, _, rfl⟩
  | error failure =>
      rw [execute_unregistered host s purpose action item payload found]
      exact ⟨_, _, _, rfl⟩

theorem execute_forms (unbound : purpose.form? = none) :
    (execute host s action item payload purpose).screen.forms = s.forms := by
  cases found : s.endpointFor action item with
  | ok endpoint => rw [execute_registered host s purpose action item payload found]; rfl
  | error failure =>
      rw [execute_unregistered host s purpose action item payload found]
      simp [settledForms, unbound]

/-- A prompt in front of an execution that it lets through changes no more than the events; a
declined one ends the execution. -/
theorem confirmed_cases :
    ((confirmed host s confirmation action item payload purpose).screen =
        (execute host s action item payload purpose).screen ∧
      (confirmed host s confirmation action item payload purpose).result =
        (execute host s action item payload purpose).result) ∨
    ((confirmed host s confirmation action item payload purpose).screen =
        { s with forms := s.settledForms purpose false } ∧
      (confirmed host s confirmation action item payload purpose).result =
        purpose.told (.failed (.unconfirmed action))) := by
  cases confirmation with
  | none => exact .inl ⟨rfl, rfl⟩
  | some confirmation =>
      simp only [confirmed, conclude_eq]
      split
      · exact .inl ⟨rfl, rfl⟩
      · exact .inr ⟨rfl, rfl⟩

theorem confirmed_asks :
    Asks s.calls s.issued (· = purpose)
      (confirmed host s confirmation action item payload purpose) := by
  rcases confirmed_cases host s purpose action item payload confirmation with
    ⟨screen, result⟩ | ⟨screen, result⟩
  · cases execute_asks host s purpose action item payload with
    | nothing calls issued told =>
        exact .nothing (screen ▸ calls) (screen ▸ issued) (result ▸ told)
    | call call isFor calls issued waits =>
        exact .call call isFor (screen ▸ calls) (screen ▸ issued) (result ▸ waits)
  · exact .nothing (by rw [screen]) (by rw [screen]) (result ▸ told_ne_waiting purpose _)

theorem confirmed_frame :
    ∃ forms calls issued, (confirmed host s confirmation action item payload purpose).screen =
      { s with forms := forms, calls := calls, issued := issued } := by
  rcases confirmed_cases host s purpose action item payload confirmation with
    ⟨screen, -⟩ | ⟨screen, -⟩
  · rw [screen]
    exact execute_frame host s purpose action item payload
  · exact ⟨_, _, _, screen⟩

theorem confirmed_forms (unbound : purpose.form? = none) :
    (confirmed host s confirmation action item payload purpose).screen.forms = s.forms := by
  rcases confirmed_cases host s purpose action item payload confirmation with
    ⟨screen, -⟩ | ⟨screen, -⟩
  · rw [screen]
    exact execute_forms host s purpose action item payload unbound
  · rw [screen]
    simp [settledForms, unbound]

end Execution

end Screen

end DeclaredScreens
