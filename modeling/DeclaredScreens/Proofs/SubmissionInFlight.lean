import DeclaredScreens.Proofs.CurrentSeed
import DeclaredScreens.Proofs.ExecutionEffects
import DeclaredScreens.Proofs.SingleSubmission

/-! Forms in flight. While a form waits for the reply to its submission nothing resets it, and
each write goes over the values that were submitted. A submission that comes to nothing leaves
the form as it is by then, so that the edits are there for another try if the seed is still the
one they were made over. -/

namespace DeclaredScreens

namespace Step

def writeTo? (i : Nat) : Step → Option (String × Json)
  | .write j name value => if j = i then some (name, value) else none
  | _ => none

def writesTo (i : Nat) (steps : List Step) : List (String × Json) :=
  (steps.filterMap (writeTo? i)).reverse

theorem writesTo_cons (i : Nat) (step : Step) (rest : List Step) :
    writesTo i (step :: rest) = writesTo i rest ++ (step.writeTo? i).toList := by
  cases written : step.writeTo? i <;> simp [writesTo, written]

def aborts (n : Nat) : Step → Bool
  | .reply m (.rejected _) | .cancel m => m = n
  | _ => false

end Step

namespace Form

/-- Form `g` is `f` with some writes over its values, and has not been reset. -/
structure Continues (f : Form) (written : List (String × Json)) (g : Form) : Prop where
  spec_eq : g.spec = f.spec
  seed_eq : g.seed = f.seed
  snapshot_eq : g.snapshot = f.snapshot
  values_eq : g.values = Record.overlay written f.values

variable {f g h : Form}

theorem Continues.refl (f : Form) : f.Continues [] f := ⟨rfl, rfl, rfl, rfl⟩

theorem Continues.trans {earlier later : List (String × Json)} (first : f.Continues earlier g)
    (second : g.Continues later h) : f.Continues (later ++ earlier) h where
  spec_eq := second.spec_eq.trans first.spec_eq
  seed_eq := second.seed_eq.trans first.seed_eq
  snapshot_eq := second.snapshot_eq.trans first.snapshot_eq
  values_eq := by rw [second.values_eq, first.values_eq, Record.overlay_append]

theorem catchUp_of_same {seed : Record} (same : Record.same f.seed seed = true) :
    f.catchUp seed = f := by
  simp [catchUp, isBehind, same]

end Form

namespace Screen

variable (host : Host) {s : Screen} {step : Step} {i n : Nat} {f : Form}

theorem continues_operated : f.Continues (step.writeTo? i).toList (s.operated host step i f) := by
  cases step with
  | write j name value =>
      by_cases here : j = i <;>
        simp only [operated, Step.writeTo?, here, if_true, if_false] <;> exact ⟨rfl, rfl, rfl, rfl⟩
  | submit j =>
      simp only [operated, submitted]
      split
      · split
        · exact .refl f
        · split <;> exact ⟨rfl, rfl, rfl, rfl⟩
      · exact .refl f
  | touch j | validate j | reply | cancel =>
      simp only [operated]
      split <;> exact ⟨rfl, rfl, rfl, rfl⟩
  | _ => exact .refl f

/-- Form `i` is `f`, and waits for the reply to call `n`, its one submission. -/
structure InFlight (s : Screen) (i n : Nat) (f : Form) : Prop where
  single : s.SingleFlight i
  mounted : s.forms[i]? = some f
  waiting : (s.calls.lookup n).bind (·.purpose.form?) = some i

namespace InFlight

theorem submitting (flying : s.InFlight i n f) : f.submitting = true := by
  obtain ⟨single, mounted, waiting⟩ := flying
  have ended : s.ends (.cancel n) i = true := decide_eq_true waiting
  exact submitting_of_ends single mounted ended

theorem submissions (flying : s.InFlight i n f) : submissionsIn i s.calls = [n] := by
  have flight := flying.single.flight
  rw [flying.mounted, Option.any_some, flying.submitting] at flight
  obtain ⟨m, alone⟩ := List.length_eq_one_iff.mp flight
  have mem := (mem_submissionsIn flying.single.numbered n).mpr flying.waiting
  rw [alone, List.mem_singleton] at mem
  rw [alone, mem]

theorem ends_eq (flying : s.InFlight i n f) (step : Step) : s.ends step i = step.finishes n := by
  cases step with
  | reply m r | cancel m =>
      have member := mem_submissionsIn (i := i) flying.single.numbered m
      rw [flying.submissions, List.mem_singleton] at member
      simp only [ends, Step.finishes]
      exact decide_eq_decide.mpr member.symm
  | _ => rfl

/-- No step resets a form in flight, but for a response to its submission. -/
theorem resets_eq_false (flying : s.InFlight i n f)
    (kept : step.finishes n = false ∨ step.aborts n = true) : s.resets i step = false := by
  have mounted := flying.mounted
  have unmounted : i ≠ s.forms.length := Nat.ne_of_lt (List.getElem?_eq_some_iff.mp mounted).1
  cases step with
  | reply m r =>
      rcases kept with other | aborted
      · have unended : s.ends (.reply m r) i = false := (flying.ends_eq _).trans other
        simp only [ends] at unended
        simp [resets, unended]
      · cases r with
        | rejected causes => simp [resets, Reply.succeeds]
        | response response => cases aborted
  | mount spec => simpa [resets] using unmounted
  | write | touch | validate | refresh | read | submit =>
      simp [resets, mounted, Form.isBehind, flying.submitting]
  | _ => rfl

theorem form_step (flying : s.InFlight i n f)
    (kept : step.finishes n = false ∨ step.aborts n = true) :
    (s.step host step).screen.forms[i]? = some (s.operated host step i f) := by
  have mounted := flying.mounted
  rw [Screen.form_step host s mounted, formAfter_eq_operated host mounted,
    flying.resets_eq_false kept]
  rfl

theorem stays (flying : s.InFlight i n f) (unfinished : step.finishes n = false) :
    (s.step host step).screen.InFlight i n (s.operated host step i f) := by
  refine ⟨singleFlight_step host flying.single, flying.form_step host (.inl unfinished), ?_⟩
  obtain ⟨call, waiting, isFor⟩ := Option.bind_eq_some_iff.mp flying.waiting
  rw [lookup_step host waiting unfinished]
  exact isFor

theorem continues (flying : s.InFlight i n f) (steps : List Step)
    (unfinished : ∀ step ∈ steps, step.finishes n = false) :
    ∃ g, (run host s steps).InFlight i n g ∧ f.Continues (Step.writesTo i steps) g := by
  induction steps generalizing s f with
  | nil => exact ⟨f, flying, .refl f⟩
  | cons step rest ih =>
      have next := flying.stays host (unfinished step (.head _))
      obtain ⟨g, there, later⟩ := ih next fun other mem => unfinished other (.tail _ mem)
      refine ⟨g, there, ?_⟩
      rw [Step.writesTo_cons]
      exact (continues_operated host).trans later

theorem aborted (flying : s.InFlight i n f) (aborts : step.aborts n = true) :
    (s.step host step).screen.forms[i]? = some f.endSubmission := by
  rw [flying.form_step host (.inr aborts)]
  have waiting := flying.waiting
  cases step with
  | cancel m =>
      obtain rfl : m = n := of_decide_eq_true aborts
      simp [operated, waiting]
  | reply m r =>
      cases r with
      | response response => cases aborts
      | rejected causes =>
          obtain rfl : m = n := of_decide_eq_true aborts
          simp [operated, waiting]
  | _ => cases aborts

end InFlight

theorem inFlight_submit (single : s.SingleFlight i) (mounted : s.forms[i]? = some f)
    (waits : (s.step host (.submit i)).result = .waiting n) :
    (s.current f).submitting = false ∧
      (s.step host (.submit i)).screen.InFlight i n { s.current f with submitting := true } := by
  have bound := (List.getElem?_eq_some_iff.mp mounted).1
  have numbered : (s.step host (.submit i)).screen.Numbered := numbered_step host single.numbered
  have after : (s.step host (.submit i)).screen.SingleFlight i := singleFlight_step host single
  cases submit_step host s mounted with
  | registered endpoint url idle complete found same =>
      rw [same] at waits numbered after ⊢
      cases waits
      refine ⟨idle, after, by simp [send, withForm, bound], ?_⟩
      have inFlight := numbered.lookup_iff.mpr (List.mem_append_right _ (.head _))
      rw [inFlight]
      rfl
  | busy busy same => rw [same] at waits; cases waits
  | incomplete idle lacking same => rw [same] at waits; cases waits
  | unregistered failure idle complete absent same => rw [same] at waits; cases waits

theorem form_run_of_idle (single : s.SingleFlight i) (mounted : s.forms[i]? = some f)
    (idle : f.submitting = false) (steps : List Step)
    (others : ∀ step ∈ steps, step.form? ≠ some i) : (run host s steps).forms[i]? = some f := by
  refine (run_invariant host s (·.form? ≠ some i)
    (fun s => s.SingleFlight i ∧ s.forms[i]? = some f) ?_ ⟨single, mounted⟩ steps others).2
  rintro s step other ⟨single, mounted⟩
  have unended : s.ends step i = false := by
    rw [Bool.eq_false_iff]
    intro ended
    simp [submitting_of_ends single mounted ended] at idle
  refine ⟨singleFlight_step host single, ?_⟩
  rw [form_step host s mounted, formAfter_of_other host other unended]

theorem same_current_seed {record : Record} (idle : (s.current f).submitting = false)
    (same : Record.same (s.seedFor f.spec) record = true) :
    Record.same (s.current f).seed record = true := by
  unfold current Form.catchUp at *
  split
  · exact same
  · next upToDate =>
      rw [if_neg upToDate] at idle
      have seeded : Record.same f.seed (s.seedFor f.spec) = true := by
        simpa [Form.isBehind, idle] using upToDate
      exact Record.same_trans seeded same

/-- From the submit on until its call is answered a form is not reset, and its values are those
submitted under the writes made since. If the call is rejected or dropped, and the seed equals
that of the submit when the form is next operated on, these values are what is found, over the
same snapshot and ready to be submitted. -/
theorem edits_survive_failed_submission (host : Host) (schema : Schema) (earlier : List Step)
    (i n : Nat) (f : Form) (mounted : (run host (ofSchema schema) earlier).forms[i]? = some f)
    (waits : ((run host (ofSchema schema) earlier).step host (.submit i)).result = .waiting n)
    (later : List Step) (unfinished : ∀ step ∈ later, step.finishes n = false) :
    let s := run host (ofSchema schema) earlier
    let found := s.current f
    let flying := run host (s.step host (.submit i)).screen later
    let values := Record.overlay (Step.writesTo i later) found.values
    (∀ step, step.finishes n = false ∨ step.aborts n = true → flying.resets i step = false) ∧
    (∃ g, flying.forms[i]? = some g ∧ g.submitting = true ∧ g.values = values ∧
      g.snapshot = found.snapshot) ∧
    ∀ abort rest, abort.aborts n = true → (∀ step ∈ rest, step.form? ≠ some i) →
      let next := run host (flying.step host abort).screen rest
      Record.same (s.seedFor f.spec) (next.seedFor f.spec) = true →
      ∃ g, next.forms[i]? = some g ∧ next.current g = g ∧ g.submitting = false ∧
        g.values = values ∧ g.snapshot = found.snapshot ∧
        (next.step host (.submit i)).result ≠ .submitted .busy ∧
        (g.missing = [] → next.attempt? host (.submit i) =
          some ⟨f.spec.actionName, next.submitItem g, .ofData (.object values),
            .submission i f.spec.notification⟩) := by
  intro s found flying values
  obtain ⟨idle, start⟩ := inFlight_submit host (run_singleFlight host schema earlier i) mounted waits
  obtain ⟨g, inFlight, continues⟩ := start.continues host later unfinished
  have spec_eq : g.spec = f.spec := continues.spec_eq.trans (f.catchUp_spec _)
  refine ⟨fun step => inFlight.resets_eq_false, ?_, ?_⟩
  · exact ⟨g, inFlight.mounted, inFlight.submitting, continues.values_eq, continues.snapshot_eq⟩
  · intro abort rest aborts others next same
    have there : next.forms[i]? = some g.endSubmission :=
      form_run_of_idle host (singleFlight_step host inFlight.single) (inFlight.aborted host aborts)
        rfl rest others
    have ended_spec : g.endSubmission.spec = f.spec := spec_eq
    -- The form still has the seed that it was submitted over.
    have seed : Record.same g.endSubmission.seed (next.seedFor g.endSubmission.spec) = true := by
      rw [ended_spec, show g.endSubmission.seed = found.seed from continues.seed_eq]
      exact same_current_seed idle same
    have current : next.current g.endSubmission = g.endSubmission := Form.catchUp_of_same seed
    refine ⟨_, there, current, rfl, continues.values_eq, continues.snapshot_eq, ?_, ?_⟩
    · cases submit_step host next there with
      | busy busy stepped => rw [current] at busy; cases busy
      | incomplete idle lacking stepped => simp [stepped, quiet]
      | registered endpoint url idle complete found stepped => simp [stepped, send]
      | unregistered failure idle complete absent stepped => simp [stepped]
    · intro complete
      have ready : g.endSubmission.submitting = false ∧ g.endSubmission.missing = [] :=
        ⟨rfl, complete⟩
      have values_eq : g.endSubmission.values = values := continues.values_eq
      rw [attempt?, there, Option.bind_some, current, submission?, if_pos ready, values_eq,
        ended_spec]

def editedFirst : List Step :=
  [.openDrawer "edit" (some (Record.contact "1" "Ann")), .mount .contact,
    .write 0 "name" (.string "Annie")]

def movedOn : List Step :=
  [.write 0 "name" (.string "Anna"), .openDrawer "edit" (some (Record.contact "2" "Bob")),
    .touch 0 "name"]

theorem edit_survives_dropped_call :
    ∃ g, (run .plain (ofSchema .contacts) (editedFirst ++ .submit 0 :: movedOn ++
        [.cancel 0, .openDrawer "edit" (some (Record.contact "1" "Ann"))])).forms[0]? = some g ∧
      g.values = Record.contact "1" "Anna" ∧ g.submitting = false ∧
      g.snapshot = Record.contact "1" "Ann" := by
  obtain ⟨-, -, failed⟩ := edits_survive_failed_submission .plain .contacts editedFirst 0 0 _ rfl rfl
    movedOn (by decide)
  obtain ⟨g, there, -, idle, values, snapshot, -⟩ := failed (.cancel 0)
    [.openDrawer "edit" (some (Record.contact "1" "Ann"))] rfl (by simp [Step.form?]) (by decide)
  exact ⟨g, there, values, idle, snapshot⟩

end Screen

end DeclaredScreens
