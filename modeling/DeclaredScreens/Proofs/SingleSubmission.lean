import DeclaredScreens.Proofs.Run
import DeclaredScreens.Proofs.Step.Calls
import DeclaredScreens.Proofs.Step.Forms

/-! One submission of a form at a time. The submissions of a form that a run has started and
not ended are the calls in flight for them, and there is one exactly when the form is
submitting. -/

namespace DeclaredScreens

namespace Screen

variable (host : Host) (s : Screen) (step : Step) (i : Nat)

def submissionsIn (calls : List (Nat × Call)) : List Nat :=
  (calls.filter fun entry => entry.2.purpose.form? = some i).map Prod.fst

theorem submissionsIn_append (calls : List (Nat × Call)) (n : Nat) (call : Call) :
    submissionsIn i (calls ++ [(n, call)]) =
      submissionsIn i calls ++ if call.purpose.form? = some i then [n] else [] := by
  by_cases here : call.purpose.form? = some i <;> simp [submissionsIn, here]

theorem submissionsIn_withoutCall (n : Nat) :
    submissionsIn i (s.withoutCall n).calls = (submissionsIn i s.calls).filter (· ≠ n) := by
  simp only [submissionsIn, withoutCall, List.filter_map, List.filter_filter]
  congr 2
  funext entry
  exact Bool.and_comm ..

def started : List Nat :=
  match step, (s.step host step).result with
  | .submit j, .waiting n => if j = i then [n] else []
  | _, _ => []

/-- The submissions of form `i` that have started and have been neither answered nor
cancelled. -/
def noteSubmissions (i : Nat) (s : Screen) (step : Step) (unfinished : List Nat) : List Nat :=
  match step with
  | .reply n _ | .cancel n => unfinished.filter (· ≠ n)
  | _ => unfinished ++ s.started host step i

def unfinishedSubmissions (schema : Schema) (steps : List Step) : List Nat :=
  remember host (noteSubmissions host i) (ofSchema schema) [] steps

theorem started_of_told (told : ∀ n, (s.step host step).result ≠ .waiting n) :
    s.started host step i = [] := by
  unfold started
  split
  · next waits => exact absurd waits (told _)
  · rfl

theorem started_of_call {purpose : Purpose} {n : Nat} (isFor : step.asksFor purpose)
    (waits : (s.step host step).result = .waiting n) :
    s.started host step i = if purpose.form? = some i then [n] else [] := by
  unfold started
  rw [waits]
  cases step with
  | submit j =>
      obtain ⟨notification, rfl⟩ := isFor
      simp [Purpose.form?]
  | trigger action row approved =>
      cases action with
      | api => simp [show purpose = _ from isFor, Purpose.form?]
      | _ => cases isFor
  | execute | list => simp [show purpose = _ from isFor, Purpose.form?]
  | _ => cases isFor

theorem submissionsIn_step :
    submissionsIn i (s.step host step).screen.calls =
      noteSubmissions host i s step (submissionsIn i s.calls) := by
  cases step_asks host s step with
  | nothing calls_eq issued_eq told =>
      have unstarted := s.started_of_told host step i told
      rw [calls_eq]
      cases step with
      | reply n r | cancel n => exact s.submissionsIn_withoutCall i n
      | _ => simp [noteSubmissions, unstarted, callsKept]
  | call call isFor calls_eq issued_eq waits =>
      have starts := s.started_of_call host step i isFor waits
      rw [calls_eq, submissionsIn_append, ← starts]
      cases step with
      | reply n r | cancel n => cases isFor
      | _ => rfl

theorem unfinishedSubmissions_eq (schema : Schema) (steps : List Step) :
    unfinishedSubmissions host i schema steps =
      submissionsIn i (run host (ofSchema schema) steps).calls := by
  refine remember_invariant host (ofSchema schema) (noteSubmissions host i) [] (fun _ => True)
    (fun s unfinished => unfinished = submissionsIn i s.calls) ?_ rfl steps (by simp)
  rintro s unfinished step - rfl
  exact (s.submissionsIn_step host step i).symm

variable {s step i}

theorem mem_submissionsIn (numbered : s.Numbered) (n : Nat) :
    n ∈ submissionsIn i s.calls ↔ (s.calls.lookup n).bind (·.purpose.form?) = some i := by
  simp only [submissionsIn, List.mem_map, List.mem_filter, decide_eq_true_eq,
    Option.bind_eq_some_iff, numbered.lookup_iff]
  constructor
  · rintro ⟨⟨_, call⟩, ⟨mem, isFor⟩, rfl⟩
    exact ⟨call, mem, isFor⟩
  · rintro ⟨call, mem, isFor⟩
    exact ⟨(n, call), ⟨mem, isFor⟩, rfl⟩

/-- A mounted form submits exactly while one call is in flight for it. -/
structure SingleFlight (s : Screen) (i : Nat) : Prop where
  numbered : s.Numbered
  flight : (submissionsIn i s.calls).length = (s.forms[i]?.any (·.submitting)).toNat

theorem started_submit {f : Form} (mounted : s.forms[i]? = some f) :
    f.submitting.toNat + (s.started host (.submit i) i).length =
      (s.submitted host (s.current f)).submitting.toNat := by
  have same : (s.current f).submitting = f.submitting := f.catchUp_submitting _
  unfold started submitted
  cases submit_step host s mounted with
  | busy busy result =>
      rw [result]
      simp [quiet, busy, ← same]
  | incomplete idle lacking result =>
      rw [result]
      simp [quiet, idle, lacking, ← same, Form.complain]
  | registered endpoint url idle complete found result =>
      rw [result]
      simp [send, idle, complete, found, ← same, Except.isOk, Except.toBool]
  | unregistered failure idle complete absent result =>
      rw [result]
      simp [idle, complete, absent, ← same, Except.isOk, Except.toBool]

def ends (s : Screen) (step : Step) (i : Nat) : Bool :=
  match step with
  | .reply n _ | .cancel n => (s.calls.lookup n).bind (·.purpose.form?) = some i
  | _ => false

theorem formAfter_of_other {f : Form} (other : step.form? ≠ some i) (unended : s.ends step i = false) :
    s.formAfter host step i f = f := by
  cases step with
  | reply n r | cancel n =>
      cases waiting : (s.calls.lookup n).bind (·.purpose.form?) with
      | none => simp [formAfter, formChange, waiting]
      | some j =>
          have apart : j ≠ i := by simpa [ends, waiting] using unended
          simp [formAfter, formChange, waiting, apart]
  | write j | touch j | validate j | refresh j | read j | submit j =>
      have apart : j ≠ i := by simpa [Step.form?] using other
      simp [formAfter, formChange, apart]
  | _ => rfl

/-- The form is submitting after a step that starts a submission, and not after one that ends
it. -/
theorem formAfter_submitting {f : Form} (mounted : s.forms[i]? = some f) :
    (s.formAfter host step i f).submitting.toNat =
      if s.ends step i then 0 else f.submitting.toNat + (s.started host step i).length := by
  cases step with
  | submit j =>
      by_cases here : j = i
      · subst here
        simp [formAfter, formChange, ends, started_submit host mounted]
      · have elsewhere : s.started host (.submit j) i = [] := by
          unfold started
          split <;> simp_all
        simp [formAfter, formChange, ends, here, elsewhere]
  | write j | touch j | validate j | refresh j | read j =>
      by_cases here : j = i <;>
        simp [formAfter, formChange, ends, started, here, current, Form.write, Form.touch,
          Form.complain]
  | reply n r =>
      cases waiting : (s.calls.lookup n).bind (·.purpose.form?) with
      | none => simp [formAfter, formChange, ends, started, waiting]
      | some j =>
          by_cases here : j = i <;>
            simp [formAfter, formChange, ends, started, waiting, here]
  | cancel n =>
      cases waiting : (s.calls.lookup n).bind (·.purpose.form?) with
      | none => simp [formAfter, formChange, ends, started, waiting]
      | some j =>
          by_cases here : j = i <;>
            simp [formAfter, formChange, ends, started, waiting, here, Form.endSubmission]
  | _ => simp [formAfter, formChange, ends, started]

theorem length_noteSubmissions (numbered : s.Numbered)
    (single : (submissionsIn i s.calls).length ≤ 1) :
    (noteSubmissions host i s step (submissionsIn i s.calls)).length =
      if s.ends step i then 0
      else (submissionsIn i s.calls).length + (s.started host step i).length := by
  cases step with
  | reply n r | cancel n =>
      -- There is one call at most, and the step finishes it or none.
      have member := mem_submissionsIn (i := i) numbered n
      cases alone : submissionsIn i s.calls with
      | nil => simp [noteSubmissions, started]
      | cons m rest =>
          have last : rest = [] := by simpa [alone] using single
          rw [alone, last, List.mem_singleton] at member
          by_cases here : n = m
          · have ended := member.mp here
            subst here
            simp [noteSubmissions, ends, ended, last]
          · simp [noteSubmissions, ends, mt member.mpr here, Ne.symm here, last, started]
  | _ => simp [noteSubmissions, ends]

theorem started_unmounted (unmounted : s.forms[i]? = none) : s.started host step i = [] := by
  cases step with
  | submit j =>
      by_cases here : j = i
      · simp [started, Screen.step, onForm, here, unmounted, quiet]
      · unfold started
        split <;> simp_all
  | _ => rfl

theorem singleFlight_step (single : s.SingleFlight i) :
    (s.step host step).screen.SingleFlight i := by
  obtain ⟨numbered, flight⟩ := single
  have atMostOne : (submissionsIn i s.calls).length ≤ 1 := by
    rw [flight]
    exact Bool.toNat_le _
  refine ⟨numbered_step host numbered, ?_⟩
  rw [submissionsIn_step, length_noteSubmissions host numbered atMostOne, flight]
  cases before : s.forms[i]? with
  | some f => simp [form_step host s before, formAfter_submitting host before]
  -- A form that is not mounted has started nothing, and starts out idle.
  | none =>
      cases after : (s.step host step).screen.forms[i]? with
      | none => simp [started_unmounted host before]
      | some f =>
          rcases form_step_cases host s after with ⟨g, mounted, -⟩ | ⟨spec, -, -, rfl⟩
          · cases before.symm.trans mounted
          · simp [started_unmounted host before, Form.mount]

theorem submitting_of_ends {f : Form} (single : s.SingleFlight i)
    (mounted : s.forms[i]? = some f) (ended : s.ends step i = true) : f.submitting = true := by
  have member : ∃ n, n ∈ submissionsIn i s.calls := by
    cases step with
    | reply n r | cancel n =>
        exact ⟨n, (mem_submissionsIn single.numbered n).mpr (of_decide_eq_true ended)⟩
    | _ => cases ended
  obtain ⟨n, mem⟩ := member
  have inFlight := List.length_pos_of_mem mem
  rw [single.flight, mounted] at inFlight
  simpa [Nat.pos_iff_ne_zero] using inFlight

theorem run_singleFlight (schema : Schema) (steps : List Step) (i : Nat) :
    (run host (ofSchema schema) steps).SingleFlight i :=
  run_invariant host (ofSchema schema) (fun _ => True) (·.SingleFlight i)
    (fun _ _ _ single => singleFlight_step host single) ⟨⟨by simp [ofSchema], by simp [ofSchema]⟩, rfl⟩
    steps (by simp)

/-- A form is submitting exactly while one submission of it is unfinished, and there is never
more than one. A submission that starts is valid and calls the server; a submit in the meantime
is turned down without a trace. -/
theorem one_submission_at_a_time (schema : Schema) (steps : List Step) (i : Nat) (f : Form)
    (mounted : (run host (ofSchema schema) steps).forms[i]? = some f) :
    (f.submitting = true ↔ ∃ n, unfinishedSubmissions host i schema steps = [n]) ∧
    (f.submitting = false ↔ unfinishedSubmissions host i schema steps = []) ∧
    (∀ n ∈ (run host (ofSchema schema) steps).started host (.submit i) i,
      ((run host (ofSchema schema) steps).current f).missing = [] ∧
      ∃ url request, ((run host (ofSchema schema) steps).step host (.submit i)).events =
        [.call url request]) ∧
    (f.submitting = true → (run host (ofSchema schema) steps).step host (.submit i) =
      ⟨run host (ofSchema schema) steps, [], .submitted .busy⟩) := by
  have flight := (run_singleFlight host schema steps i).flight
  rw [← unfinishedSubmissions_eq, mounted, Option.any_some] at flight
  refine ⟨?_, ?_, ?_, ?_⟩
  · rw [← List.length_eq_one_iff, flight]
    cases f.submitting <;> simp
  · rw [← List.length_eq_zero_iff, flight]
    cases f.submitting <;> simp
  · intro n starts
    have waits : started host _ (.submit i) i ≠ [] := List.ne_nil_of_mem starts
    unfold started at waits
    cases submit_step host _ mounted with
    | registered endpoint url idle complete found result =>
        rw [result]
        exact ⟨complete, _, _, rfl⟩
    | _ => simp_all [quiet]
  · intro busy
    have same := Form.catchUp_of_submitting busy
    cases submit_step host _ mounted with
    | busy _ result =>
        rw [result, current, same, withForm_mounted _ mounted]
        rfl
    | _ => simp_all [current]

def overlapping : List Step :=
  [.openDrawer "edit" (some (Record.contact "1" "Ann")), .mount .contact, .mount .contact,
    .submit 0, .submit 1, .write 0 "name" (.string "Anna"),
    .openDrawer "edit" (some (Record.contact "2" "Bob")), .submit 0, .reply 1 (.response ⟨none⟩)]

theorem overlapping_submission_is_single :
    (∃ n, unfinishedSubmissions .plain 0 .contacts overlapping = [n]) ∧
    (run .plain (ofSchema .contacts) overlapping).step .plain (.submit 0) =
      ⟨run .plain (ofSchema .contacts) overlapping, [], .submitted .busy⟩ := by
  have single := one_submission_at_a_time .plain .contacts overlapping 0
    ⟨.contact, Record.contact "1" "Anna", [], [], true, Record.contact "1" "Ann",
      Record.contact "1" "Ann"⟩ rfl
  exact ⟨single.1.mp rfl, single.2.2.2 rfl⟩

end Screen

end DeclaredScreens
