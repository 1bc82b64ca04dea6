import DeclaredScreens.Proofs.FieldErrors
import DeclaredScreens.Proofs.Step.Told

/-! Validation and submission. Both look for the required fields that are missing, and leave the
same form behind when there are any: its errors and touches are noted, and nothing else of it or
of the screen is changed. Only a form that lacks nothing goes on to its execution. -/

namespace DeclaredScreens

theorem Entries.put_of_lookup {α : Type} {entries : Entries α} {name : String} {value : α}
    (found : entries.lookup name = some value) : put name value entries = entries := by
  induction entries with
  | nil => cases found
  | cons entry rest ih =>
      obtain ⟨first, old⟩ := entry
      rw [lookup_cons_if] at found
      by_cases here : first = name
      · subst here
        simp only [if_true, Option.some.injEq] at found
        simp [put, found]
      · rw [if_neg (Ne.symm here)] at found
        rw [put, if_neg here, ih found]

namespace Form

variable {f g : Form} {message : String}

theorem foldl_put_of_lookup {names : List String} {errors : Entries String}
    (noted : ∀ name ∈ names, errors.lookup name = some message) :
    names.foldl (fun errors name => Entries.put name message errors) errors = errors := by
  induction names with
  | nil => rfl
  | cons name rest ih =>
      obtain ⟨first, later⟩ := List.forall_mem_cons.mp noted
      rw [List.foldl_cons, Entries.put_of_lookup first, ih later]

theorem foldl_mark_of_mem {names touched : List String} (marked : ∀ name ∈ names, name ∈ touched) :
    names.foldl mark touched = touched := by
  induction names with
  | nil => rfl
  | cons name rest ih =>
      obtain ⟨first, later⟩ := List.forall_mem_cons.mp marked
      have kept : mark touched name = touched := if_pos (List.contains_iff_mem.mpr first)
      rw [List.foldl_cons, kept, ih later]

theorem complain_complain (f : Form) (message : String) :
    (f.complain message).complain message = f.complain message := by
  have errors : f.missing.foldl (fun errors name => Entries.put name message errors)
      (f.complain message).errors = (f.complain message).errors :=
    foldl_put_of_lookup fun name lacking => by rw [← error?, error?_complain, if_pos lacking]
  have touched : f.missing.foldl mark (f.complain message).touched =
      (f.complain message).touched :=
    foldl_mark_of_mem fun name lacking => touched_complain.mpr (.inl lacking)
  rw [complain, missing_complain, errors, touched]

/-- A complaint is no reason to reset a form. One that is reset all the same, because its seed does
not equal itself, was reset before. -/
theorem catchUp_complain (f : Form) (seed : Record) (message : String) :
    ((f.catchUp seed).complain message).catchUp seed = (f.catchUp seed).complain message ∨
      ((f.catchUp seed).complain message).catchUp seed = f.catchUp seed := by
  by_cases behind : f.isBehind seed
  · have found : f.catchUp seed = f.reset seed := if_pos behind
    rw [found]
    unfold catchUp
    split
    · exact .inr rfl
    · exact .inl rfl
  · have found : f.catchUp seed = f := if_neg behind
    rw [found]
    exact .inl (if_neg behind)

theorem complain_catchUp_complain (f : Form) (seed : Record) (message : String) :
    (((f.catchUp seed).complain message).catchUp seed).missing = (f.catchUp seed).missing ∧
    (((f.catchUp seed).complain message).catchUp seed).complain message =
      (f.catchUp seed).complain message := by
  rcases catchUp_complain f seed message with same | same
  · rw [same]
    exact ⟨rfl, complain_complain _ _⟩
  · rw [same]
    exact ⟨rfl, rfl⟩

/-- Form `g` is `f` with an error and a touch for each of some fields. -/
structure Noted (message : String) (fields : List String) (f g : Form) : Prop where
  spec_eq : g.spec = f.spec
  values_eq : g.values = f.values
  snapshot_eq : g.snapshot = f.snapshot
  seed_eq : g.seed = f.seed
  error?_eq : ∀ name, g.error? name = if name ∈ fields then some message else f.error? name
  isTouched_eq : ∀ name, g.isTouched name = (decide (name ∈ fields) || f.isTouched name)

theorem noted_complain (f : Form) (message : String) :
    f.Noted message f.missing (f.complain message) := by
  refine ⟨rfl, rfl, rfl, rfl, error?_complain f message, fun name => ?_⟩
  rw [Bool.eq_iff_iff, Bool.or_eq_true, decide_eq_true_eq, isTouched_iff, isTouched_iff]
  exact touched_complain

theorem noted_of_complete (complete : f.missing = []) (busy : Bool) :
    f.Noted message f.missing { f with submitting := busy } := by
  rw [complete]
  exact ⟨rfl, rfl, rfl, rfl, fun name => rfl, fun name => rfl⟩

end Form

namespace Screen

variable (host : Host) {s : Screen} {i : Nat} {f : Form}

theorem step_validate (mounted : s.forms[i]? = some f) :
    s.step host (.validate i) =
      (s.withForm i ((s.current f).complain (host.localize Form.requiredMessage))).quiet
        (.missing (s.current f).missing) := by
  simp [Screen.step, onForm, mounted, current]

theorem validate_validate (mounted : s.forms[i]? = some f) :
    (s.step host (.validate i)).screen.step host (.validate i) = s.step host (.validate i) := by
  have bound := (List.getElem?_eq_some_iff.mp mounted).1
  have first := step_validate host mounted
  have there : (s.step host (.validate i)).screen.forms[i]? =
      some ((s.current f).complain (host.localize Form.requiredMessage)) := by
    simp [first, quiet, withForm, bound]
  have seed : (s.step host (.validate i)).screen.seedFor (s.current f).spec = s.seedFor f.spec := by
    rw [first, current, Form.catchUp_spec]
    rfl
  have found : (s.step host (.validate i)).screen.current
      ((s.current f).complain (host.localize Form.requiredMessage)) =
        ((s.current f).complain (host.localize Form.requiredMessage)).catchUp (s.seedFor f.spec) :=
    congrArg _ seed
  obtain ⟨missing, left⟩ := f.complain_catchUp_complain (s.seedFor f.spec)
    (host.localize Form.requiredMessage)
  rw [step_validate host there, found]
  rw [current] at first ⊢
  rw [left, missing, first]
  simp only [quiet, withForm_withForm]

/-- A form `f` has been looked over: just the missing fields are noted in it, it is submitting if
its call is waited for, and the drawer, the cached lists and the other forms are as they were. -/
def LooksOver (s : Screen) (i : Nat) (f : Form) (stepped : Stepped) : Prop :=
  ∃ g, stepped.screen.forms = s.forms.set i g ∧
    f.Noted (host.localize Form.requiredMessage) f.missing g ∧
    (g.submitting = true ↔ ∃ n, stepped.result = .waiting n) ∧
    stepped.screen.drawer = s.drawer ∧ stepped.screen.cache = s.cache

theorem looksOver_validate (mounted : s.forms[i]? = some f) (idle : f.submitting = false) :
    LooksOver host s i (s.current f) (s.step host (.validate i)) := by
  have found : (s.current f).submitting = false := (f.catchUp_submitting _).trans idle
  rw [step_validate host mounted]
  refine ⟨_, rfl, Form.noted_complain _ _, ?_, rfl, rfl⟩
  simp [Form.complain, found, quiet]

/-- An execution of the action for the item: its one request is sent if the action is registered,
and otherwise the submission fails without one. -/
inductive Executes (s : Screen) (spec : FormSpec) (item : Option Record) (body : Record)
    (stepped : Stepped) : Prop
  | sent (endpoint : Endpoint) (url : String)
      (found : s.endpointFor spec.actionName item = .ok (endpoint, url))
      (requests_eq : stepped.requests = [(url, ⟨endpoint.method, some (.object body)⟩)])
      (result_eq : stepped.result = .waiting s.issued)
  | unregistered (failure : Failure)
      (absent : s.endpointFor spec.actionName item = .error failure)
      (requests_eq : stepped.requests = [])
      (result_eq : stepped.result = .submitted (.completed (.failed failure)))

theorem submit_of_missing (mounted : s.forms[i]? = some f) (idle : f.submitting = false)
    (lacking : (s.current f).missing ≠ []) :
    s.step host (.submit i) = (s.step host (.validate i)).screen.quiet
      (.submitted (.invalid (s.current f).missing)) := by
  have found : (s.current f).submitting = false := (f.catchUp_submitting _).trans idle
  cases submit_step host s mounted with
  | busy busy same => simp [found] at busy
  | incomplete idle lacking same => rw [same, step_validate host mounted]; rfl
  | registered endpoint url idle complete endpointFound same => exact absurd complete lacking
  | unregistered failure idle complete absent same => exact absurd complete lacking

theorem submit_of_complete (mounted : s.forms[i]? = some f) (idle : f.submitting = false)
    (complete : (s.current f).missing = []) :
    Executes s f.spec (s.submitItem (s.current f)) (s.current f).values
      (s.step host (.submit i)) ∧
    LooksOver host s i (s.current f) (s.step host (.submit i)) := by
  have found : (s.current f).submitting = false := (f.catchUp_submitting _).trans idle
  have spec : (s.current f).spec = f.spec := f.catchUp_spec _
  cases submit_step host s mounted with
  | busy busy same => simp [found] at busy
  | incomplete idle lacking same => exact absurd complete lacking
  | registered endpoint url idle complete endpointFound same =>
      rw [same]
      refine ⟨.sent endpoint url (spec ▸ endpointFound) rfl rfl, _, rfl,
        Form.noted_of_complete complete true, ?_, rfl, rfl⟩
      simp [send]
  | unregistered failure idle complete absent same =>
      rw [same]
      refine ⟨.unregistered failure (spec ▸ absent) ?_ rfl, _, rfl,
        Form.noted_of_complete complete false, ?_, rfl, rfl⟩
      · simp [Stepped.requests, errorToast]
      · simp

/-- An idle form, up to its seed, lacks the required fields that are absent, null or empty, in the
order in which they are required. Validating it tells them; submitting it is invalid with the same
fields if there are any, and leaves just the screen that validating leaves, without an event; else
it goes on to its execution. Either way the lacking fields get the error and a touch, and nothing
else changes. Validating again tells the same and changes nothing. -/
theorem validation_and_submission_agree (s : Screen) (i : Nat) (f : Form)
    (mounted : s.forms[i]? = some f) (idle : f.submitting = false) :
    let found := s.current f
    let validated := s.step host (.validate i)
    let submitted := s.step host (.submit i)
    ∃ lacks : String → Bool,
      (∀ name, lacks name = true ↔ found.value? name = none ∨ found.value? name = some .null ∨
        found.value? name = some (.string "")) ∧
      found.missing = f.spec.requiredFields.filter lacks ∧
      validated.result = .missing found.missing ∧
      (∀ fields, submitted.result = .submitted (.invalid fields) ↔
        found.missing ≠ [] ∧ fields = found.missing) ∧
      (found.missing ≠ [] → submitted.screen = validated.screen ∧ submitted.events = []) ∧
      (found.missing = [] →
        Executes s f.spec (s.submitItem found) found.values submitted) ∧
      LooksOver host s i found validated ∧ LooksOver host s i found submitted ∧
      validated.screen.step host (.validate i) = validated := by
  intro found validated submitted
  have spec : found.spec = f.spec := f.catchUp_spec _
  have told : validated.result = .missing found.missing := by
    simp only [validated, step_validate host mounted]
    rfl
  have left : LooksOver host s i found validated := looksOver_validate host mounted idle
  refine ⟨fun name => Json.isBlank (found.value? name), fun name => Json.isBlank_iff _,
    by rw [Form.missing, spec], told, ?_⟩
  by_cases complete : found.missing = []
  · obtain ⟨executes, looksOver⟩ := submit_of_complete host mounted idle complete
    have valid (fields : List String) : submitted.result ≠ .submitted (.invalid fields) := by
      cases executes with
      | sent endpoint url endpointFound requests result => simp [submitted, result]
      | unregistered failure absent requests result => simp [submitted, result]
    exact ⟨fun fields => ⟨fun invalid => absurd invalid (valid fields),
        fun lacking => absurd complete lacking.1⟩,
      fun lacking => absurd complete lacking, fun _ => executes, left, looksOver,
      validate_validate host mounted⟩
  · have same : submitted = validated.screen.quiet (.submitted (.invalid found.missing)) :=
      submit_of_missing host mounted idle complete
    obtain ⟨g, forms, noted, waits, drawer, cache⟩ := left
    refine ⟨fun fields => ?_, fun _ => by rw [same]; exact ⟨rfl, rfl⟩,
      fun none => absurd none complete, ⟨g, forms, noted, waits, drawer, cache⟩, ?_,
      validate_validate host mounted⟩
    · simp [same, quiet, complete, eq_comm]
    · rw [same]
      refine ⟨g, forms, noted, ?_, drawer, cache⟩
      rw [waits, told]
      simp [quiet]

def incomplete : List Step :=
  [.mount ⟨none, false, some [("name", .string ""), ("phone", .string "1"), ("email", .null)],
      none, ["name", "phone", "email"]⟩, .touch 0 "phone"]

theorem incomplete_contact_is_told_twice :
    let s := run .plain (ofSchema .contacts) incomplete
    (s.step .plain (.validate 0)).result = .missing ["name", "email"] ∧
    (s.step .plain (.submit 0)).result = .submitted (.invalid ["name", "email"]) ∧
    (s.step .plain (.submit 0)).screen = (s.step .plain (.validate 0)).screen ∧
    (s.step .plain (.validate 0)).screen.step .plain (.validate 0) =
      s.step .plain (.validate 0) := by
  intro s
  obtain ⟨lacks, -, -, told, invalid, same, -, -, -, again⟩ :=
    validation_and_submission_agree .plain s 0 _ rfl rfl
  exact ⟨told, (invalid _).mpr ⟨by decide, rfl⟩, (same (by decide)).1, again⟩

end Screen

end DeclaredScreens
