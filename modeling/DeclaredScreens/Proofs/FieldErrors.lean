import DeclaredScreens.Proofs.Run
import DeclaredScreens.Proofs.Step.Forms

/-! Errors of fields. Only a validation records errors, one for every required field that is
blank, and touches the field with it; a write takes the error of its field away. So along every
run an error stands at a required field that is blank still, is shown as it is recorded, and is
gone when the form goes on to be submitted. -/

namespace DeclaredScreens

theorem Json.isBlank_iff (value : Option Json) :
    isBlank value = true ↔ value = none ∨ value = some .null ∨ value = some (.string "") := by
  unfold isBlank
  split <;> simp_all

namespace Form

variable {f : Form} {message : String}

theorem isTouched_iff {name : String} : f.isTouched name = true ↔ name ∈ f.touched := by
  rw [isTouched, List.contains_iff_mem]

theorem mem_missing {name : String} :
    name ∈ f.missing ↔ name ∈ f.spec.requiredFields ∧ Json.isBlank (f.value? name) = true := by
  rw [missing, List.mem_filter]

theorem mem_mark {touched : List String} {name other : String} :
    other ∈ mark touched name ↔ other = name ∨ other ∈ touched := by
  unfold mark
  split
  · next there =>
      have mem : name ∈ touched := List.contains_iff_mem.mp there
      exact ⟨.inr, fun either => either.elim (fun same => same ▸ mem) id⟩
  · simp [or_comm]

theorem mem_foldl_mark {names touched : List String} {other : String} :
    other ∈ names.foldl mark touched ↔ other ∈ names ∨ other ∈ touched := by
  induction names generalizing touched with
  | nil => simp
  | cons name rest ih => rw [List.foldl_cons, ih, mem_mark, List.mem_cons, or_left_comm, or_assoc]

theorem lookup_foldl_put (names : List String) (errors : Entries String) (name : String) :
    (names.foldl (fun errors name => Entries.put name message errors) errors).lookup name =
      if name ∈ names then some message else errors.lookup name := by
  induction names generalizing errors with
  | nil => simp
  | cons first rest ih =>
      rw [List.foldl_cons, ih, Entries.lookup_put]
      by_cases later : name ∈ rest <;> simp [later]

theorem error?_write (name other : String) (value : Json) :
    (f.write name value).error? other = if other = name then none else f.error? other := by
  have kept := lookup_filter (fun other => decide (other ≠ name)) f.errors other
  simpa [error?, write, Entries.remove] using kept

theorem value?_write (name other : String) (value : Json) :
    (f.write name value).value? other = if other = name then some value else f.value? other :=
  Entries.lookup_put ..

@[simp] theorem missing_complain (f : Form) (message : String) :
    (f.complain message).missing = f.missing := rfl

theorem error?_complain (f : Form) (message name : String) :
    (f.complain message).error? name =
      if name ∈ f.missing then some message else f.error? name :=
  lookup_foldl_put ..

theorem touched_complain {name : String} :
    name ∈ (f.complain message).touched ↔ name ∈ f.missing ∨ name ∈ f.touched := mem_foldl_mark

/-- An error that is due: its field is required, blank and touched, and it has the one wording
that errors have. -/
structure ErrorDue (message : String) (f : Form) (name text : String) : Prop where
  required : name ∈ f.spec.requiredFields
  blank : f.value? name = none ∨ f.value? name = some .null ∨ f.value? name = some (.string "")
  touched : f.isTouched name = true
  text_eq : text = message

def ErrorsDue (message : String) (f : Form) : Prop :=
  ∀ name text, f.error? name = some text → f.ErrorDue message name text

namespace ErrorsDue

theorem mount (spec : FormSpec) (seed : Record) : (Form.mount spec seed).ErrorsDue message :=
  fun _ _ recorded => nomatch recorded

theorem write (due : f.ErrorsDue message) (name : String) (value : Json) :
    (f.write name value).ErrorsDue message := by
  intro other text recorded
  rw [error?_write] at recorded
  by_cases here : other = name
  · simp [here] at recorded
  · rw [if_neg here] at recorded
    obtain ⟨required, blank, touched, text_eq⟩ := due other text recorded
    refine ⟨required, ?_, touched, text_eq⟩
    rwa [value?_write, if_neg here]

theorem touch (due : f.ErrorsDue message) (name : String) : (f.touch name).ErrorsDue message := by
  intro other text recorded
  obtain ⟨required, blank, touched, text_eq⟩ := due other text recorded
  refine ⟨required, blank, ?_, text_eq⟩
  exact isTouched_iff.mpr (mem_mark.mpr (.inr (isTouched_iff.mp touched)))

theorem complain (due : f.ErrorsDue message) : (f.complain message).ErrorsDue message := by
  intro name text recorded
  rw [error?_complain] at recorded
  by_cases lacking : name ∈ f.missing
  · rw [if_pos lacking, Option.some.injEq] at recorded
    obtain ⟨required, blank⟩ := mem_missing.mp lacking
    refine ⟨required, (Json.isBlank_iff _).mp blank, ?_, recorded.symm⟩
    exact isTouched_iff.mpr (touched_complain.mpr (.inl lacking))
  · rw [if_neg lacking] at recorded
    obtain ⟨required, blank, touched, text_eq⟩ := due name text recorded
    refine ⟨required, blank, ?_, text_eq⟩
    exact isTouched_iff.mpr (touched_complain.mpr (.inr (isTouched_iff.mp touched)))

theorem invariant : Form.Invariant message (·.ErrorsDue message) where
  reset f seed _ := mount f.spec seed
  write _ name value due := due.write name value
  touch _ name due := due.touch name
  complain _ due := due.complain
  submitting _ _ due name text recorded :=
    have ⟨required, blank, touched, text_eq⟩ := due name text recorded
    ⟨required, blank, touched, text_eq⟩

theorem mem_missing (due : f.ErrorsDue message) {name text : String}
    (recorded : f.error? name = some text) : name ∈ f.missing := by
  obtain ⟨required, blank, -, -⟩ := due name text recorded
  exact Form.mem_missing.mpr ⟨required, (Json.isBlank_iff _).mpr blank⟩

theorem visibleError?_eq (due : f.ErrorsDue message) (name : String) :
    f.visibleError? name = f.error? name := by
  unfold visibleError?
  split
  · rfl
  · next untouched =>
      cases recorded : f.error? name with
      | none => rfl
      | some text => exact absurd (due name text recorded).touched untouched

theorem errors_eq_nil (due : f.ErrorsDue message) (complete : f.missing = []) : f.errors = [] := by
  cases recorded : f.errors with
  | nil => rfl
  | cons entry rest =>
      obtain ⟨name, text⟩ := entry
      have first : f.error? name = some text := by simp [error?, recorded]
      have lacking := due.mem_missing first
      rw [complete] at lacking
      cases lacking

end ErrorsDue

end Form

namespace Screen

variable (host : Host)

theorem run_errorsDue (schema : Schema) (steps : List Step) (i : Nat) (f : Form)
    (mounted : (run host (ofSchema schema) steps).forms[i]? = some f) :
    f.ErrorsDue (host.localize Form.requiredMessage) := by
  refine run_invariant host (ofSchema schema) (fun _ => True)
    (fun s => ∀ (i : Nat) (f : Form), s.forms[i]? = some f →
      f.ErrorsDue (host.localize Form.requiredMessage))
    ?_ (by simp [ofSchema]) steps (by simp) i f mounted
  intro s step _ before
  exact forms_step_invariant host s Form.ErrorsDue.invariant Form.ErrorsDue.mount before

variable {host} {s : Screen} {i : Nat} {f : Form}

theorem errors_validated (due : f.ErrorsDue (host.localize Form.requiredMessage))
    (mounted : s.forms[i]? = some f) :
    ∃ g, (s.step host (.validate i)).screen.forms[i]? = some g ∧ ∀ name, g.error? name =
      if name ∈ g.missing then some (host.localize Form.requiredMessage) else none := by
  have current := Form.ErrorsDue.invariant.catchUp (s.seedFor f.spec) due
  refine ⟨_, form_step host s mounted, fun name => ?_⟩
  simp only [formAfter, formChange, if_true, Form.error?_complain, Form.missing_complain]
  split
  · rfl
  · next complete =>
      rw [Option.eq_none_iff_forall_ne_some]
      exact fun text recorded => complete (current.mem_missing recorded)

theorem errors_submitted (due : f.ErrorsDue (host.localize Form.requiredMessage))
    (mounted : s.forms[i]? = some f)
    (accepted : (s.step host (.submit i)).result ≠ .submitted .busy)
    (valid : ∀ fields, (s.step host (.submit i)).result ≠ .submitted (.invalid fields)) :
    ∃ g, (s.step host (.submit i)).screen.forms[i]? = some g ∧ g.errors = [] ∧
      ∀ n, (s.step host (.submit i)).result = .waiting n → g.submitting = true := by
  have current := Form.ErrorsDue.invariant.catchUp (s.seedFor f.spec) due
  have bound := (List.getElem?_eq_some_iff.mp mounted).1
  cases submit_step host s mounted with
  | busy busy same => exact absurd (congrArg Stepped.result same) accepted
  | incomplete idle lacking same => exact absurd (congrArg Stepped.result same) (valid _)
  | registered endpoint url idle complete found same =>
      refine ⟨{ s.current f with submitting := true }, ?_, current.errors_eq_nil complete, ?_⟩
      · simp [same, send, withForm, bound]
      · simp
  | unregistered failure idle complete absent same =>
      refine ⟨{ s.current f with submitting := false }, ?_, current.errors_eq_nil complete, ?_⟩
      · simp [same, withForm, bound]
      · simp [same]

/-- In every state of a run, as it is and as it is read, a form records errors only at required
fields that are blank and touched, in one wording, and shows every error that it records. A
validation records the fields that are missing and no other, and a submit that is neither turned
down nor ended by missing fields goes on without errors. -/
theorem recorded_errors_are_due (host : Host) (schema : Schema) (steps : List Step) (i : Nat)
    (f : Form) (mounted : (run host (ofSchema schema) steps).forms[i]? = some f) :
    let s := run host (ofSchema schema) steps
    let message := host.localize Form.requiredMessage
    (∀ g, g = f ∨ g = s.current f →
      (∀ name text, g.error? name = some text → g.ErrorDue message name text) ∧
      ∀ name, g.visibleError? name = g.error? name) ∧
    (∃ g, (s.step host (.validate i)).screen.forms[i]? = some g ∧
      ∀ name, g.error? name = if name ∈ g.missing then some message else none) ∧
    ((s.step host (.submit i)).result ≠ .submitted .busy →
      (∀ fields, (s.step host (.submit i)).result ≠ .submitted (.invalid fields)) →
      ∃ g, (s.step host (.submit i)).screen.forms[i]? = some g ∧ g.errors = [] ∧
        ∀ n, (s.step host (.submit i)).result = .waiting n → g.submitting = true) := by
  intro s message
  have due : f.ErrorsDue message := run_errorsDue host schema steps i f mounted
  refine ⟨?_, errors_validated due mounted, errors_submitted due mounted⟩
  rintro g (rfl | rfl)
  · exact ⟨due, due.visibleError?_eq⟩
  · have current : (s.current f).ErrorsDue message := Form.ErrorsDue.invariant.catchUp _ due
    exact ⟨current, current.visibleError?_eq⟩

def emptiedInFlight : List Step :=
  [.openDrawer "edit" (some (Record.contact "1" "Ann")), .mount .contact, .submit 0,
    .openDrawer "edit" (some (Record.contact "2" "Bob")), .write 0 "name" (.string ""),
    .validate 0]

theorem emptied_name_shows_error :
    ∃ f, (run .plain (ofSchema .contacts) emptiedInFlight).forms[0]? = some f ∧
      f.error? "name" = some "This field is required" ∧
      f.ErrorDue "This field is required" "name" "This field is required" ∧
      f.visibleError? "name" = some "This field is required" := by
  obtain ⟨errors, -⟩ := recorded_errors_are_due .plain .contacts emptiedInFlight 0
    ⟨.contact, [("id", .string "1"), ("name", .string "")], [("name", "This field is required")],
      ["name"], true, Record.contact "1" "Ann", Record.contact "1" "Ann"⟩ rfl
  obtain ⟨due, shown⟩ := errors _ (.inl rfl)
  exact ⟨_, rfl, rfl, due _ _ rfl, shown "name"⟩

end Screen

end DeclaredScreens
