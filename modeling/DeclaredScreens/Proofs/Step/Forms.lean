import DeclaredScreens.Proofs.Step.Frame

/-! What one step does to the mounted forms: it works on one of them at most, and what it makes
of that form is told by the drawer and the call it belongs to. -/

namespace DeclaredScreens

def Step.form? : Step → Option Nat
  | .write i _ _ | .touch i _ | .validate i | .refresh i | .read i | .submit i => some i
  | _ => none

namespace Screen

variable (host : Host) (s : Screen) (step : Step)

/-- The form brought up to its seed, as every operation on it finds it. -/
def current (f : Form) : Form := f.catchUp (s.seedFor f.spec)

def submitItem (f : Form) : Option Record :=
  if f.spec.usesActiveRecord then s.drawer.payload else some f.values

def submitted (f : Form) : Form :=
  if f.submitting then f
  else if f.missing = [] then
    { f with submitting := (s.endpointFor f.spec.actionName (s.submitItem f)).isOk }
  else f.complain (host.localize Form.requiredMessage)

/-- The form that a step works on, with what it makes of it. -/
def formChange : Step → Option (Nat × (Form → Form))
  | .write i name value => some (i, fun f => (s.current f).write name value)
  | .touch i name => some (i, fun f => (s.current f).touch name)
  | .validate i =>
      some (i, fun f => (s.current f).complain (host.localize Form.requiredMessage))
  | .refresh i | .read i => some (i, s.current)
  | .submit i => some (i, fun f => s.submitted host (s.current f))
  | .reply n r =>
      match (s.calls.lookup n).bind fun call => call.purpose.form? with
      | some i =>
          let payload := (s.drawerAfter (.reply n r)).payload
          some (i, fun f => f.settled r.succeeds (f.spec.seed payload))
      | none => none
  | .cancel n =>
      match (s.calls.lookup n).bind fun call => call.purpose.form? with
      | some i => some (i, Form.endSubmission)
      | none => none
  | _ => none

def formsChanged (step : Step) : List Form :=
  match s.formChange host step with
  | some (i, change) => s.forms.modify i change
  | none => s.forms

def formsMounted : Step → List Form
  | .mount spec => [Form.mount spec (s.seedFor spec)]
  | _ => []

theorem onForm_forms {i : Nat} {operation : Form → Stepped} (change : Form → Form)
    (sets : ∀ f, (operation f).screen.forms = s.forms.set i (change f)) :
    (s.onForm i operation).screen.forms = s.forms.modify i fun f => change (s.current f) := by
  unfold onForm
  cases mounted : s.forms[i]? with
  | none => exact (List.modify_eq_self (List.getElem?_eq_none_iff.mp mounted)).symm
  | some f =>
      rw [← forms_set s mounted]
      exact sets _

theorem modify_set (forms : List Form) (i : Nat) (f : Form) (change : Form → Form) :
    (forms.set i f).modify i change = forms.set i (change f) := by
  apply List.ext_getElem?
  intro j
  by_cases here : i = j
  · subst here
    by_cases bound : i < forms.length <;> simp [bound]
  · simp [here]

section Submit

variable (i : Nat) {f : Form}

theorem submit_busy (busy : f.submitting = true) :
    submit host s i f = s.quiet (.submitted .busy) := by
  simp [submit, busy]

theorem submit_incomplete (idle : f.submitting = false) (lacking : f.missing ≠ []) :
    submit host s i f =
      (s.withForm i (f.complain (host.localize Form.requiredMessage))).quiet
        (.submitted (.invalid f.missing)) := by
  unfold submit
  cases missing : f.missing with
  | nil => exact absurd missing lacking
  | cons name rest => simp [idle]

theorem submit_registered {endpoint : Endpoint} {url : String} (idle : f.submitting = false)
    (complete : f.missing = [])
    (found : s.endpointFor f.spec.actionName (s.submitItem f) = .ok (endpoint, url)) :
    submit host s i f =
      (s.withForm i { f with submitting := true }).send
        ⟨url, ⟨endpoint.method, some (.object f.values)⟩, .submission i f.spec.notification⟩ := by
  simp only [submit, idle, complete]
  exact execute_registered host (s.withForm i { f with submitting := true }) _ _ _ _ found

theorem submit_unregistered {failure : Failure} (idle : f.submitting = false)
    (complete : f.missing = [])
    (absent : s.endpointFor f.spec.actionName (s.submitItem f) = .error failure) :
    submit host s i f =
      ⟨s.withForm i { f with submitting := false }, errorToast host f.spec.notification,
        .submitted (.completed (.failed failure))⟩ := by
  have ended := execute_unregistered host (s.withForm i { f with submitting := true })
    (.submission i f.spec.notification) f.spec.actionName (s.submitItem f)
    (.ofData (.object f.values)) absent
  simp only [submit, idle, complete]
  refine ended.trans ?_
  simp [settledForms, Purpose.form?, withForm, modify_set, Form.settled_failed,
    Form.endSubmission, Purpose.notification, Purpose.told]

end Submit

theorem withForm_withForm (i : Nat) (f g : Form) :
    (s.withForm i f).withForm i g = s.withForm i g := by
  simp [withForm]

theorem withForm_mounted {i : Nat} {f : Form} (mounted : s.forms[i]? = some f) :
    s.withForm i f = s := by
  obtain ⟨bound, rfl⟩ := List.getElem?_eq_some_iff.mp mounted
  simp [withForm]

/-- How a submit goes for form `i`, which is `f` once it is up to its seed. -/
inductive Submits (i : Nat) (f : Form) (stepped : Stepped) : Prop
  | busy (busy : f.submitting = true)
      (stepped_eq : stepped = (s.withForm i f).quiet (.submitted .busy))
  | incomplete (idle : f.submitting = false) (lacking : f.missing ≠ [])
      (stepped_eq : stepped = (s.withForm i (f.complain (host.localize Form.requiredMessage))).quiet
        (.submitted (.invalid f.missing)))
  | registered (endpoint : Endpoint) (url : String) (idle : f.submitting = false)
      (complete : f.missing = [])
      (found : s.endpointFor f.spec.actionName (s.submitItem f) = .ok (endpoint, url))
      (stepped_eq : stepped = (s.withForm i { f with submitting := true }).send
        ⟨url, ⟨endpoint.method, some (.object f.values)⟩, .submission i f.spec.notification⟩)
  | unregistered (failure : Failure) (idle : f.submitting = false) (complete : f.missing = [])
      (absent : s.endpointFor f.spec.actionName (s.submitItem f) = .error failure)
      (stepped_eq : stepped = ⟨s.withForm i { f with submitting := false },
        errorToast host f.spec.notification, .submitted (.completed (.failed failure))⟩)

theorem submit_cases (i : Nat) (f : Form) :
    Submits host s i f (submit host (s.withForm i f) i f) := by
  cases idle : f.submitting with
  | true => exact .busy idle (submit_busy host _ i idle)
  | false =>
      by_cases complete : f.missing = []
      · cases found : s.endpointFor f.spec.actionName (s.submitItem f) with
        | ok pair =>
            have sent := submit_registered host (s.withForm i f) i idle complete found
            exact .registered _ _ idle complete found (sent.trans (by rw [withForm_withForm]))
        | error failure =>
            have ended := submit_unregistered host (s.withForm i f) i idle complete found
            exact .unregistered failure idle complete found
              (ended.trans (by rw [withForm_withForm]))
      · have told := submit_incomplete host (s.withForm i f) i idle complete
        exact .incomplete idle complete (told.trans (by rw [withForm_withForm]))

theorem step_submit {i : Nat} {f : Form} (mounted : s.forms[i]? = some f) :
    s.step host (.submit i) = submit host (s.withForm i (s.current f)) i (s.current f) := by
  simp [Screen.step, onForm, mounted, current]

theorem submit_step {i : Nat} {f : Form} (mounted : s.forms[i]? = some f) :
    Submits host s i (s.current f) (s.step host (.submit i)) := by
  rw [step_submit host s mounted]
  exact submit_cases host s i (s.current f)

theorem submit_forms (i : Nat) (f : Form) :
    (submit host (s.withForm i f) i f).screen.forms = s.forms.set i (s.submitted host f) := by
  unfold submitted
  cases submit_cases host s i f with
  | busy busy same =>
      rw [same]
      simp [busy, quiet, withForm]
  | incomplete idle lacking same =>
      rw [same]
      simp [idle, lacking, quiet, withForm]
  | registered endpoint url idle complete found same =>
      rw [same]
      simp [idle, complete, found, send, withForm, Except.isOk, Except.toBool]
  | unregistered failure idle complete absent same =>
      rw [same]
      simp [idle, complete, absent, withForm, Except.isOk, Except.toBool]

theorem answered_forms (r : Reply) :
    (answered host s purpose r).screen.forms =
      match purpose.form? with
      | some i =>
          s.forms.modify i fun f => f.settled r.succeeds
            (f.spec.seed (answered host s purpose r).screen.drawer.payload)
      | none => s.forms := by
  cases r with
  | response response =>
      cases purpose <;>
        simp [answered, conclude_eq, settledForms, Purpose.form?, quiet, takeIn_eq, seedFor,
          Outcome.ok, Reply.succeeds]
  | rejected causes =>
      cases purpose <;>
        simp [answered, conclude_eq, settledForms, Purpose.form?, quiet, seedFor,
          Outcome.failed, Reply.succeeds]

theorem forms_step :
    (s.step host step).screen.forms = s.formsChanged host step ++ s.formsMounted step := by
  cases step with
  | write i name value =>
      simp only [formsMounted, List.append_nil]
      exact onForm_forms s (·.write name value) fun f => rfl
  | touch i name =>
      simp only [formsMounted, List.append_nil]
      exact onForm_forms s (·.touch name) fun f => rfl
  | validate i =>
      simp only [formsMounted, List.append_nil]
      exact onForm_forms s (·.complain (host.localize Form.requiredMessage)) fun f => rfl
  | read i =>
      simp only [formsMounted, List.append_nil]
      exact onForm_forms s id fun f => rfl
  | submit i =>
      simp only [formsMounted, List.append_nil]
      exact onForm_forms s (s.submitted host) fun f => submit_forms host s i f
  | refresh i =>
      simp only [formsMounted, List.append_nil, Screen.step, formsChanged, formChange]
      cases mounted : s.forms[i]? with
      | none => exact (List.modify_eq_self (List.getElem?_eq_none_iff.mp mounted)).symm
      | some f => exact forms_set s mounted s.current
  | reply n r =>
      have drawer := drawer_step host s (.reply n r)
      simp only [formsMounted, List.append_nil, formsChanged, formChange]
      rw [← drawer]
      simp only [Screen.step, reply]
      cases s.calls.lookup n with
      | none => rfl
      | some call =>
          simp only [answered_forms, Option.bind_some]
          cases call.purpose.form? <;> rfl
  | cancel n =>
      simp only [formsMounted, List.append_nil, formsChanged, formChange, Screen.step, cancel]
      cases s.calls.lookup n with
      | none => rfl
      | some call =>
          obtain ⟨url, request, purpose⟩ := call
          cases purpose <;>
            simp [endSubmission_eq, Form.settled_failed, Purpose.form?, quiet, withoutCall]
  | execute action item payload notification confirmation =>
      simp only [formsMounted, List.append_nil, formsChanged, formChange]
      exact confirmed_forms host s _ _ _ _ _ rfl
  | trigger action row approved =>
      simp only [formsMounted, List.append_nil, formsChanged, formChange]
      cases action with
      | drawer name =>
          cases known : s.drawers.contains name <;>
            simp [Screen.step, trigger, openDrawer, known, quiet]
      | navigate path => rfl
      | api action confirm notification sendRow => exact confirmed_forms host s _ _ _ _ _ rfl
  | list =>
      simp only [formsMounted, List.append_nil, formsChanged, formChange, Screen.step, list]
      split
      · rfl
      · split <;> rfl
  | openDrawer name payload =>
      cases known : s.drawers.contains name <;>
        simp [Screen.step, openDrawer, known, quiet, formsMounted, formsChanged, formChange]
  | mount spec => rfl
  | _ => simp [Screen.step, quiet, setPayload, formsMounted, formsChanged, formChange]

theorem call_not_mem_toast (kind : ToastKind) (text : Option String) (url : String)
    (request : Request) : .call url request ∉ toast host kind text := by
  cases text <;> simp [toast]

/-- A submit that calls the server was idle, complete and registered, and calls it with the
values that the form has once it is up to its seed. -/
theorem submit_calls {i : Nat} {f : Form} {url : String} {request : Request}
    (mounted : s.forms[i]? = some f)
    (called : .call url request ∈ (s.step host (.submit i)).events) :
    (s.current f).submitting = false ∧ (s.current f).missing = [] ∧
      ∃ endpoint, s.endpointFor f.spec.actionName (s.submitItem (s.current f)) =
          .ok (endpoint, url) ∧
        request = ⟨endpoint.method, some (.object (s.current f).values)⟩ := by
  have spec : (s.current f).spec = f.spec := f.catchUp_spec _
  cases submit_step host s mounted with
  | busy busy same => simp [same, quiet] at called
  | incomplete idle lacking same => simp [same, quiet] at called
  | registered endpoint address idle complete found same =>
      simp only [same, send, List.mem_singleton, Event.call.injEq] at called
      obtain ⟨rfl, rfl⟩ := called
      exact ⟨idle, complete, endpoint, spec ▸ found, rfl⟩
  | unregistered failure idle complete absent same =>
      rw [same] at called
      exact absurd called (call_not_mem_toast host _ _ _ _)

def formAfter (step : Step) (i : Nat) (f : Form) : Form :=
  match s.formChange host step with
  | some (j, change) => if j = i then change f else f
  | none => f

end Screen

/-- A property of a form that every operation on it keeps. -/
structure Form.Invariant (message : String) (holds : Form → Prop) : Prop where
  reset : ∀ f seed, holds f → holds (f.reset seed)
  write : ∀ f name value, holds f → holds (f.write name value)
  touch : ∀ f name, holds f → holds (f.touch name)
  complain : ∀ f, holds f → holds (f.complain message)
  submitting : ∀ f busy, holds f → holds { f with submitting := busy }

namespace Form.Invariant

variable {host : Host} {s : Screen} {message : String} {holds : Form → Prop} {f : Form}

theorem catchUp (kept : Form.Invariant message holds) (seed : Record) (before : holds f) :
    holds (f.catchUp seed) := by
  unfold Form.catchUp
  split
  · exact kept.reset f seed before
  · exact before

theorem settled (kept : Form.Invariant message holds) (succeeded : Bool) (seed : Record)
    (before : holds f) : holds (f.settled succeeded seed) := by
  have ended : holds f.endSubmission := kept.submitting f false before
  unfold Form.settled
  split
  · exact kept.catchUp seed ended
  · exact ended

theorem submitted (kept : Form.Invariant (host.localize Form.requiredMessage) holds)
    (before : holds f) : holds (s.submitted host f) := by
  unfold Screen.submitted
  split
  · exact before
  · split
    · exact kept.submitting f _ before
    · exact kept.complain f before

theorem formAfter (kept : Form.Invariant (host.localize Form.requiredMessage) holds)
    (step : Step) (i : Nat) (before : holds f) : holds (s.formAfter host step i f) := by
  have current : holds (s.current f) := kept.catchUp _ before
  have changed : ∀ j change, s.formChange host step = some (j, change) → holds (change f) := by
    intro j change same
    cases step <;> simp only [Screen.formChange] at same
    case reply n r =>
      split at same <;> cases same
      exact kept.settled _ _ before
    case cancel n =>
      split at same <;> cases same
      exact kept.submitting f false before
    all_goals cases same
    case write => exact kept.write _ _ _ current
    case touch => exact kept.touch _ _ current
    case validate => exact kept.complain _ current
    case submit => exact kept.submitted current
    all_goals exact current
  unfold Screen.formAfter
  cases changes : s.formChange host step with
  | none => exact before
  | some pair =>
      dsimp only
      split
      · exact changed _ _ changes
      · exact before

end Form.Invariant

namespace Screen

variable (host : Host) (s : Screen) (step : Step)

@[simp] theorem formAfter_spec (i : Nat) (f : Form) :
    (s.formAfter host step i f).spec = f.spec := by
  have kept : Form.Invariant (host.localize Form.requiredMessage) (·.spec = f.spec) :=
    ⟨fun _ _ same => same, fun _ _ _ same => same, fun _ _ same => same, fun _ same => same,
      fun _ _ same => same⟩
  exact kept.formAfter step i rfl

theorem formsChanged_getElem? (i : Nat) :
    (s.formsChanged host step)[i]? = s.forms[i]?.map (s.formAfter host step i) := by
  unfold formsChanged formAfter
  cases s.formChange host step with
  | none => simp
  | some changed => simp [List.getElem?_modify]

variable {step} {i : Nat} {f : Form}

theorem form_step (mounted : s.forms[i]? = some f) :
    (s.step host step).screen.forms[i]? = some (s.formAfter host step i f) := by
  have there := s.formsChanged_getElem? host step i
  rw [mounted, Option.map_some] at there
  rw [forms_step, List.getElem?_append_left (List.getElem?_eq_some_iff.mp there).1, there]

theorem form_step_cases (mounted : (s.step host step).screen.forms[i]? = some f) :
    (∃ before, s.forms[i]? = some before ∧ f = s.formAfter host step i before) ∨
    ∃ spec, step = .mount spec ∧ i = s.forms.length ∧ f = Form.mount spec (s.seedFor spec) := by
  cases before : s.forms[i]? with
  | some g =>
      rw [form_step host s before, Option.some.injEq] at mounted
      exact .inl ⟨g, rfl, mounted.symm⟩
  -- Nothing was there before, so the step appended it.
  | none =>
      have absent := s.formsChanged_getElem? host step i
      rw [before, Option.map_none] at absent
      have bound := List.getElem?_eq_none_iff.mp absent
      rw [forms_step, List.getElem?_append_right bound] at mounted
      cases step with
      | mount spec =>
          have unchanged : s.formsChanged host (.mount spec) = s.forms := rfl
          rw [unchanged] at mounted bound
          obtain ⟨last, same⟩ := List.getElem?_eq_some_iff.mp mounted
          simp only [formsMounted, List.length_singleton] at last
          refine .inr ⟨spec, rfl, by omega, ?_⟩
          simpa [formsMounted] using same.symm
      | _ => simp [formsMounted] at mounted

/-- What every form is mounted with and every operation keeps, all forms have. -/
theorem forms_step_invariant {holds : Form → Prop}
    (kept : Form.Invariant (host.localize Form.requiredMessage) holds)
    (mounts : ∀ spec seed, holds (Form.mount spec seed))
    (before : ∀ (i : Nat) (f : Form), s.forms[i]? = some f → holds f) (i : Nat) (f : Form)
    (mounted : (s.step host step).screen.forms[i]? = some f) : holds f := by
  rcases form_step_cases host s mounted with ⟨g, there, rfl⟩ | ⟨spec, rfl, -, rfl⟩
  · exact kept.formAfter step i (before i g there)
  · exact mounts spec _

end Screen

end DeclaredScreens
