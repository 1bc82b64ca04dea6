import DeclaredScreens.Proofs.EditedSeed

/-! Forms and the seed of the moment. An operation on an idle form finds it up to its seed, so
that refreshing it first makes no difference, and a reset leaves nothing of the form but its
spec. A form on its default values has one seed for good, and is never reset. -/

namespace DeclaredScreens

namespace Form

variable (f : Form)

@[simp] theorem reset_endSubmission (seed : Record) : f.endSubmission.reset seed = f.reset seed :=
  rfl

@[simp] theorem endSubmission_reset (seed : Record) : (f.reset seed).endSubmission = f.reset seed :=
  rfl

end Form

namespace Screen

variable (host : Host) (s : Screen)

def operated (step : Step) (i : Nat) (f : Form) : Form :=
  match step with
  | .write j name value => if j = i then f.write name value else f
  | .touch j name => if j = i then f.touch name else f
  | .validate j => if j = i then f.complain (host.localize Form.requiredMessage) else f
  | .submit j => if j = i then s.submitted host f else f
  | .reply n _ | .cancel n =>
      if (s.calls.lookup n).bind (·.purpose.form?) = some i then f.endSubmission else f
  | _ => f

variable {s} {step : Step} {i : Nat} {f : Form}

theorem formAfter_eq_operated (mounted : s.forms[i]? = some f) :
    s.formAfter host step i f = s.operated host step i
      (if s.resets i step then f.reset ((s.step host step).screen.seedFor f.spec) else f) := by
  have unmounted : i ≠ s.forms.length := Nat.ne_of_lt (List.getElem?_eq_some_iff.mp mounted).1
  rw [seedFor, drawer_step]
  cases step with
  | write j | touch j | validate j | submit j | read j | refresh j =>
      by_cases here : j = i
      · subst here
        simp only [formAfter, formChange, operated, resets, mounted, if_true, drawerAfter]
        by_cases behind : f.isBehind (f.spec.seed s.drawer.payload) <;>
          simp [current, Form.catchUp, seedFor, behind]
      · simp [formAfter, formChange, operated, resets, here]
  | reply n r =>
      cases waiting : (s.calls.lookup n).bind (·.purpose.form?) with
      | none => simp [formAfter, formChange, operated, resets, waiting]
      | some j =>
          by_cases here : j = i
          · subst here
            simp only [formAfter, formChange, operated, resets, waiting, mounted, if_true]
            by_cases takesUp : r.succeeds && f.spec.usesActiveRecord
            · by_cases behind : f.endSubmission.isBehind
                (f.spec.seed (s.drawerAfter (.reply n r)).payload) <;>
                simp [Form.settled, Form.catchUp, takesUp, behind]
            · simp [Form.settled, takesUp]
          · simp [formAfter, formChange, operated, resets, waiting, here]
  | cancel n =>
      cases waiting : (s.calls.lookup n).bind (·.purpose.form?) with
      | none => simp [formAfter, formChange, operated, resets, waiting]
      | some j =>
          by_cases here : j = i <;>
            simp [formAfter, formChange, operated, resets, waiting, here]
  | mount spec => simp [formAfter, formChange, operated, resets, unmounted]
  | _ => rfl

theorem refresh_screen (mounted : s.forms[i]? = some f) :
    (s.step host (.refresh i)).screen = s.withForm i (s.current f) := by
  simp [Screen.step, mounted, quiet, current]

theorem refresh_operation (mounted : s.forms[i]? = some f) (operates : step.form? = some i)
    (other : step ≠ .refresh i) :
    (s.step host (.refresh i)).screen.step host step = s.step host step := by
  rw [refresh_screen host mounted]
  have bound := (List.getElem?_eq_some_iff.mp mounted).1
  have shown : (s.withForm i (s.current f)).forms[i]? = some (s.current f) := by
    simp [withForm, bound]
  have upToDate : (s.current f).catchUp
      ((s.withForm i (s.current f)).seedFor (s.current f).spec) = s.current f := by
    have spec : (s.current f).spec = f.spec := f.catchUp_spec _
    rw [spec]
    exact f.catchUp_catchUp (s.seedFor f.spec)
  have found : f.catchUp (s.seedFor f.spec) = s.current f := rfl
  cases step <;> cases operates
  case refresh => exact absurd rfl other
  all_goals simp only [Screen.step, onForm, shown, mounted, upToDate, found, withForm_withForm]

theorem snapshot_operation (operates : step.form? = some i) (other : step ≠ .submit i) :
    (s.formAfter host step i f).snapshot = (s.current f).snapshot ∧
      (s.step host step).screen.drawer = s.drawer := by
  rw [drawer_step]
  cases step <;> cases operates
  case submit => exact absurd rfl other
  all_goals simp [formAfter, formChange, drawerAfter, Form.write, Form.touch, Form.complain]

theorem submitted_seed (f : Form) : (s.submitted host f).seed = f.seed := by
  unfold submitted
  split
  · rfl
  · split <;> rfl

theorem operated_seed (step : Step) (i : Nat) (f : Form) :
    (s.operated host step i f).seed = f.seed := by
  cases step with
  | submit j =>
      simp only [operated]
      split
      · exact submitted_seed host f
      · rfl
  | write | touch | validate | reply | cancel =>
      simp only [operated]
      split <;> rfl
  | _ => rfl

/-- A form that does not work on the active record has its default values for a seed. -/
def InactiveOnDefaults (s : Screen) : Prop :=
  ∀ (i : Nat) (f : Form), s.forms[i]? = some f → f.spec.usesActiveRecord = false →
    f.seed = f.spec.defaults.getD []

theorem inactiveOnDefaults_step (before : s.InactiveOnDefaults) (step : Step) :
    (s.step host step).screen.InactiveOnDefaults := by
  intro i f mounted inactive
  rcases form_step_cases host s mounted with ⟨g, there, rfl⟩ | ⟨spec, rfl, -, rfl⟩
  · rw [formAfter_spec] at inactive ⊢
    rw [formAfter_eq_operated host there, operated_seed]
    split
    · exact FormSpec.seed_of_inactive inactive _
    · exact before i g there inactive
  · exact FormSpec.seed_of_inactive inactive _

theorem run_inactiveOnDefaults (schema : Schema) (steps : List Step) :
    (run host (ofSchema schema) steps).InactiveOnDefaults :=
  run_invariant host (ofSchema schema) (fun _ => True) InactiveOnDefaults
    (fun _ step _ before => inactiveOnDefaults_step host before step)
    (by simp [InactiveOnDefaults, ofSchema]) steps (by simp)

theorem InactiveOnDefaults.upToDate (onDefaults : s.InactiveOnDefaults) (seeds : s.SeedsDistinct)
    (mounted : s.forms[i]? = some f) (inactive : f.spec.usesActiveRecord = false) :
    f.isBehind (s.seedFor f.spec) = false := by
  have seed := onDefaults i f mounted inactive
  have distinct := seed_isDistinct seeds.payload (seeds.defaults i f mounted)
  rw [FormSpec.seed_of_inactive inactive] at distinct
  rw [seedFor, FormSpec.seed_of_inactive inactive]
  simp [Form.isBehind, seed, Record.same_refl distinct]

theorem resets_of_inactive (onDefaults : s.InactiveOnDefaults) (seeds : s.SeedsDistinct)
    (mounted : s.forms[i]? = some f) (inactive : f.spec.usesActiveRecord = false) :
    s.resets i step = false := by
  have unmounted : i ≠ s.forms.length := Nat.ne_of_lt (List.getElem?_eq_some_iff.mp mounted).1
  have upToDate := onDefaults.upToDate seeds mounted inactive
  cases step <;> simp [resets, mounted, inactive, unmounted, upToDate]

/-- Every operation on an idle form goes as if the form had been refreshed first, and leaves it
with a snapshot that equals its seed of the moment. Whichever step resets a form, it works on one
that has the seed for its values, no errors and no touches; any other works on the form as it is.
A form on its default values is never reset. -/
theorem operations_meet_current_seed (schema : Schema) (earlier : List Step)
    (distinct : ∀ step ∈ earlier, step.isDistinct = true) (i : Nat) (f : Form)
    (mounted : (run host (ofSchema schema) earlier).forms[i]? = some f) :
    let s := run host (ofSchema schema) earlier
    (f.submitting = false → ∀ step, step.form? = some i →
      (step ≠ .refresh i →
        (s.step host (.refresh i)).screen.step host step = s.step host step) ∧
      (step ≠ .submit i → ∃ g, (s.step host step).screen.forms[i]? = some g ∧
        Record.same g.snapshot ((s.step host step).screen.seedFor f.spec) = true)) ∧
    (∀ step, ∃ g, (s.step host step).screen.forms[i]? = some (s.operated host step i g) ∧
      (s.resets i step = false → g = f) ∧
      (s.resets i step = true → ∀ seed, seed = (s.step host step).screen.seedFor f.spec →
        g = ⟨f.spec, seed, [], [], false, seed, seed⟩)) ∧
    (f.spec.usesActiveRecord = false → ∀ step, s.resets i step = false) := by
  intro s
  obtain ⟨seeds, edited⟩ := run_edited host schema earlier distinct i
  have edited := edited f mounted
  refine ⟨fun idle step operates => ⟨refresh_operation host mounted operates, fun other => ?_⟩,
    fun step => ?_, fun inactive step => ?_⟩
  · refine ⟨_, form_step host s mounted, ?_⟩
    obtain ⟨snapshot, drawer⟩ := snapshot_operation host (f := f) operates other
    have idle : (s.current f).submitting = false := (f.catchUp_submitting _).trans idle
    have upToDate := edited_current edited mounted seeds
    rw [snapshot, upToDate.snapshot_eq, seedFor, drawer]
    exact same_seed_current idle
      (seed_isDistinct seeds.payload (seeds.defaults i f mounted))
  · refine ⟨_, (form_step host s mounted).trans (congrArg some (formAfter_eq_operated host mounted)),
      fun kept => by simp [kept], ?_⟩
    rintro resets seed rfl
    simp [resets, Form.reset]
  · exact resets_of_inactive (run_inactiveOnDefaults host schema earlier) seeds mounted inactive

def picked : List Step :=
  [.openDrawer "edit" (some (Record.contact "1" "Ann")), .mount .contact,
    .write 0 "name" (.string "Annie"), .touch 0 "name", .pick (Record.contact "2" "Bob")]

theorem touch_after_pick_meets_second_contact :
    (∀ step ∈ picked, step.isDistinct = true) ∧
    ((run .plain (ofSchema .contacts) picked).step .plain (.refresh 0)).screen.step .plain
        (.submit 0) =
      (run .plain (ofSchema .contacts) picked).step .plain (.submit 0) ∧
    ((run .plain (ofSchema .contacts) picked).step .plain (.touch 0 "id")).screen.forms[0]? =
      some ⟨.contact, Record.contact "2" "Bob", [], ["id"], false, Record.contact "2" "Bob",
        Record.contact "2" "Bob"⟩ := by
  have distinct : ∀ step ∈ picked, step.isDistinct = true := by decide
  obtain ⟨operations, steps, -⟩ := operations_meet_current_seed .plain .contacts picked distinct 0
    ⟨.contact, Record.contact "1" "Annie", [], ["name"], false, Record.contact "1" "Ann",
      Record.contact "1" "Ann"⟩ rfl
  refine ⟨distinct, (operations rfl (.submit 0) rfl).1 nofun, ?_⟩
  obtain ⟨g, shown, -, reset⟩ := steps (.touch 0 "id")
  rw [shown, reset (by decide) _ rfl]
  rfl

end Screen

end DeclaredScreens
