import DeclaredScreens.Proofs.Placeholders
import DeclaredScreens.Proofs.SubmissionInFlight

/-! What a save leaves behind. A form on the active record takes up the record that its
submission stored, if that is not the seed it has already. The drawer keeps the record, so that
the next save of the form updates it. -/

namespace DeclaredScreens

theorem Form.pristine_reset (f : Form) (seed : Record) :
    (f.reset seed).isDirty = false ∧ (f.reset seed).phase = .pristine := by
  simp [reset, isDirty, phase]

namespace Screen

variable (host : Host) {s : Screen} {i n : Nat} {f : Form}

namespace InFlight

theorem completed (flying : s.InFlight i n f) (active : f.spec.usesActiveRecord = true)
    (opened : s.drawer.isOpen = true) (stored : Record) :
    let done := s.step host (.reply n (.response ⟨some (.object stored)⟩))
    done.result = .submitted (.completed (.ok (some (.object stored)))) ∧
    done.screen.drawer.payload = some stored ∧
    done.screen.forms[i]? = some (f.endSubmission.catchUp stored) := by
  intro done
  obtain ⟨call, waiting, isFor⟩ := Option.bind_eq_some_iff.mp flying.waiting
  obtain ⟨url, request, purpose⟩ := call
  obtain ⟨notification, rfl⟩ := Purpose.eq_submission_of_form? isFor
  have completes : Completes host s.baseUrl (.submission i notification)
      ⟨some (.object stored)⟩ s done := completes_reply host waiting rfl
  have payload : done.screen.drawer.payload = some stored := by
    cases shown : s.drawer with
    | closed => simp [shown, Drawer.isOpen] at opened
    | opened name old => rw [completes.handed stored name old rfl shown]; rfl
  refine ⟨completes.result_eq, payload, ?_⟩
  rw [Screen.form_step host s flying.mounted]
  rw [drawer_step] at payload
  simp only [formAfter, formChange, waiting, Option.bind_some, Purpose.form?, payload, if_true]
  simp [Form.settled, Reply.succeeds, FormSpec.seed, active]

end InFlight

/-- When the submission of a form on the active record is answered with a record while the drawer
is open, the form is no longer in flight and up to its seed. If the record differs from the seed
that the form had, the form shows just that record and is pristine. If the two are equal nothing is
reset: the form is as it was in flight, with the values submitted under the writes made since. -/
theorem save_shows_stored_record (host : Host) (schema : Schema) (earlier : List Step)
    (i n : Nat) (f : Form) (mounted : (run host (ofSchema schema) earlier).forms[i]? = some f)
    (active : f.spec.usesActiveRecord = true)
    (waits : ((run host (ofSchema schema) earlier).step host (.submit i)).result = .waiting n)
    (later : List Step) (unfinished : ∀ step ∈ later, step.finishes n = false) (stored : Record)
    (opened : (run host ((run host (ofSchema schema) earlier).step host (.submit i)).screen
      later).drawer.isOpen = true) :
    let s := run host (ofSchema schema) earlier
    let found := s.current f
    let flying := run host (s.step host (.submit i)).screen later
    let done := flying.step host (.reply n (.response ⟨some (.object stored)⟩))
    done.result = .submitted (.completed (.ok (some (.object stored)))) ∧
    ∃ g, done.screen.forms[i]? = some g ∧ done.screen.current g = g ∧ g.submitting = false ∧
      (Record.same found.seed stored = false → g.values = stored ∧ g.isDirty = false ∧
        g.errors = [] ∧ g.touched = [] ∧ g.phase = .pristine) ∧
      (Record.same found.seed stored = true →
        flying.forms[i]? = some { g with submitting := true } ∧ g.snapshot = found.snapshot ∧
        g.values = Record.overlay (Step.writesTo i later) found.values) := by
  intro s found flying done
  obtain ⟨-, start⟩ := inFlight_submit host (run_singleFlight host schema earlier i) mounted waits
  obtain ⟨g, inFlight, continues⟩ := start.continues host later unfinished
  have spec_eq : g.spec = f.spec := continues.spec_eq.trans (f.catchUp_spec _)
  have seed_eq : g.seed = found.seed := continues.seed_eq
  obtain ⟨result, payload, there⟩ := inFlight.completed host (spec_eq ▸ active) opened stored
  refine ⟨result, _, there, ?_, by simp [Form.endSubmission], fun apart => ?_, fun same => ?_⟩
  · have spec_eq : (g.endSubmission.catchUp stored).spec = f.spec :=
      (Form.catchUp_spec ..).trans spec_eq
    have payload : done.screen.drawer.payload = some stored := payload
    have seed : done.screen.seedFor f.spec = stored := by
      simp [seedFor, payload, FormSpec.seed, active]
    rw [current, spec_eq, seed, Form.catchUp_catchUp]
  · have behind : g.endSubmission.isBehind stored = true := by
      simp [Form.isBehind, Form.endSubmission, seed_eq, apart]
    rw [Form.catchUp, if_pos behind]
    obtain ⟨clean, pristine⟩ := g.endSubmission.pristine_reset stored
    exact ⟨rfl, clean, rfl, rfl, pristine⟩
  · have kept : g.endSubmission.catchUp stored = g.endSubmission :=
      Form.catchUp_of_same (seed_eq ▸ same)
    rw [kept]
    have restored : g = { g.endSubmission with submitting := true } := by
      rw [Form.endSubmission, ← inFlight.submitting]
    exact ⟨restored ▸ inFlight.mounted, continues.snapshot_eq, continues.values_eq⟩

theorem accepted_edit_is_shown :
    ∃ g, (run .plain (ofSchema .contacts) (editedFirst ++ .submit 0 :: movedOn ++
        [.reply 0 (.response ⟨some (.object (Record.contact "1" "Annie"))⟩)])).forms[0]? = some g ∧
      g.values = Record.contact "1" "Annie" ∧ g.phase = .pristine := by
  obtain ⟨-, g, there, -, -, shown, -⟩ := save_shows_stored_record .plain .contacts editedFirst 0 0
    _ rfl rfl rfl movedOn (by decide) (Record.contact "1" "Annie") rfl
  obtain ⟨values, -, -, -, pristine⟩ := shown (by decide)
  exact ⟨g, there, values, pristine⟩

theorem refused_edit_stays_shown :
    let before := run .plain (ofSchema .contacts) (editedFirst ++ [.submit 0])
    let done := before.step .plain
      (.reply 0 (.response ⟨some (.object (Record.contact "1" "Ann"))⟩))
    done.result = .submitted (.completed (.ok (some (.object (Record.contact "1" "Ann"))))) ∧
    before.drawer.isOpen = true ∧
    ∃ g, done.screen.forms[0]? = some g ∧ g.spec.usesActiveRecord = true ∧
      Record.same g.values (Record.contact "1" "Ann") = false ∧ g.isDirty = true ∧
      g.phase = .editing := by
  refine ⟨rfl, rfl, ⟨.contact, Record.contact "1" "Annie", [], [], false, Record.contact "1" "Ann",
    Record.contact "1" "Ann"⟩, rfl, rfl, by decide, by decide +kernel, by decide +kernel⟩

/-- Does the step leave the record in the drawer? It does not open or close the drawer or set its
payload, and completes no execution with a record that has another value in some field. -/
def leavesRow (row : Record) (s : Screen) : Step → Prop
  | .openDrawer name _ | .trigger (.drawer name) _ _ => s.drawers.contains name = false
  | .showDrawer _ _ | .closeDrawer | .setPayload _ | .pick _ => False
  | .reply n r => ∀ record, s.delivers n r = some record →
      ∀ name, record.lookup name = row.lookup name
  | _ => True

def HoldsRow (row : Record) (s : Screen) : Prop :=
  ∃ record, s.drawer.payload = some record ∧ ∀ name, record.lookup name = row.lookup name

variable {row : Record} {step : Step}

theorem HoldsRow.kept (leaves : leavesRow row s step) (holds : HoldsRow row s) :
    HoldsRow row (s.step host step).screen := by
  obtain ⟨record, payload, same⟩ := holds
  unfold HoldsRow
  rw [drawer_step]
  cases step with
  | openDrawer name payload' =>
      have unknown : s.drawers.contains name = false := leaves
      exact ⟨record, by simp [drawerAfter, unknown, payload], same⟩
  | trigger action row' approved =>
      cases action with
      | drawer name =>
          have unknown : s.drawers.contains name = false := leaves
          exact ⟨record, by simp [drawerAfter, unknown, payload], same⟩
      | _ => exact ⟨record, payload, same⟩
  | showDrawer | closeDrawer | setPayload | pick => exact leaves.elim
  | reply n r =>
      cases delivered : s.delivers n r with
      | none => exact ⟨record, by simp [drawerAfter, delivered, payload], same⟩
      | some taken =>
          cases shown : s.drawer with
          | closed => simp [shown, Drawer.payload] at payload
          | opened name old =>
              refine ⟨taken, ?_, leaves taken delivered⟩
              simp [drawerAfter, delivered, shown, Drawer.setPayload, Drawer.payload]
  | _ => exact ⟨record, payload, same⟩

theorem HoldsRow.endpointFor {update : Endpoint} (holds : HoldsRow row s)
    (active : f.spec.usesActiveRecord = true) (saves : f.spec.actionName = Action.save)
    (identified : Record.hasIdentity (some row) = true)
    (registered : s.registry.get? Action.update = some update) :
    s.endpointFor f.spec.actionName (s.submitItem f) =
      .ok (update, Template.join s.baseUrl (Template.fill update.path (some row))) := by
  obtain ⟨record, payload, same⟩ := holds
  have identified : Record.hasIdentity (some record) = true := by
    simpa [Record.hasIdentity, same] using identified
  have resolved : Action.resolve Action.save (some record) = Action.update := by
    simp [Action.resolve, identified]
  rw [submitItem, if_pos active, payload, saves, endpointFor_ok_iff, resolved]
  exact ⟨registered, by rw [Endpoint.url, Template.fill_congr same]⟩

theorem requests_submit {endpoint : Endpoint} {url : String} (mounted : s.forms[i]? = some f)
    (found : s.endpointFor f.spec.actionName (s.submitItem (s.current f)) = .ok (endpoint, url)) :
    (s.step host (.submit i)).requests =
      if (s.current f).submitting = false ∧ (s.current f).missing = [] then
        [(url, ⟨endpoint.method, some (.object (s.current f).values)⟩)]
      else [] := by
  have spec_eq : (s.current f).spec = f.spec := f.catchUp_spec _
  cases submit_step host s mounted with
  | busy busy same => simp [same, quiet, Stepped.requests, busy]
  | incomplete idle lacking same => simp [same, quiet, Stepped.requests, lacking]
  | registered other address idle complete found' same =>
      rw [spec_eq, found] at found'
      cases found'
      rw [if_pos ⟨idle, complete⟩, same]
      rfl
  | unregistered failure idle complete absent same =>
      rw [spec_eq, found] at absent
      cases absent

/-- Once a save of a form on the active record has been answered with a record that has an
identity, and as long as the drawer is left with it, every submit of the form that is ready makes
one request: to update the record. Any other makes none. -/
theorem saved_record_is_updated (host : Host) (schema : Schema) (earlier : List Step) (i n : Nat)
    (f : Form) (call : Call) (stored : Record) (update : Endpoint)
    (mounted : (run host (ofSchema schema) earlier).forms[i]? = some f)
    (active : f.spec.usesActiveRecord = true) (saves : f.spec.actionName = Action.save)
    (waiting : (run host (ofSchema schema) earlier).calls.lookup n = some call)
    (isFor : call.purpose.form? = some i)
    (opened : (run host (ofSchema schema) earlier).drawer.isOpen = true)
    (identified : Record.hasIdentity (some stored) = true)
    (registered : schema.api.get? Action.update = some update) (later : List Step)
    (left : Throughout host (leavesRow stored) ((run host (ofSchema schema) earlier).step host
      (.reply n (.response ⟨some (.object stored)⟩))).screen later) :
    let done := (run host (ofSchema schema) earlier).step host
      (.reply n (.response ⟨some (.object stored)⟩))
    let s := run host done.screen later
    done.result = .submitted (.completed (.ok (some (.object stored)))) ∧
    ∃ g, s.forms[i]? = some g ∧ (s.step host (.submit i)).requests =
      if (s.current g).submitting = false ∧ (s.current g).missing = [] then
        [(Template.join schema.baseUrl (Template.fill update.path (some stored)),
          ⟨update.method, some (.object (s.current g).values)⟩)]
      else [] := by
  intro done s
  have flying : (run host (ofSchema schema) earlier).InFlight i n f :=
    ⟨run_singleFlight host schema earlier i, mounted, by rw [waiting]; exact isFor⟩
  obtain ⟨result, payload, there⟩ := flying.completed host active opened stored
  have holds : HoldsRow stored s := throughout_invariant host _ (leavesRow stored) (HoldsRow stored)
    (fun _ _ leaves before => before.kept host leaves) ⟨stored, payload, fun _ => rfl⟩ later left
  obtain ⟨g, shown, spec_eq⟩ := form_run_spec host there later
  have spec_eq : g.spec = f.spec := spec_eq.trans (Form.catchUp_spec ..)
  have registry : s.registry = schema.api := by simp [s, done, ofSchema]
  have base : s.baseUrl = schema.baseUrl := by simp [s, done, ofSchema]
  have found := holds.endpointFor (f := s.current g) (by simpa [current, spec_eq] using active)
    (by simpa [current, spec_eq] using saves) identified (registry ▸ registered)
  rw [base] at found
  exact ⟨result, g, shown, requests_submit host shown (by simpa [current] using found)⟩

def creatingContact : List Step :=
  [.openDrawer "edit" none, .mount .contact, .write 0 "name" (.string "Jane"), .submit 0]

def editingCreated : List Step :=
  [.write 0 "name" (.string "Janet"), .submit 0, .reply 1 (.rejected ["timeout"]), .list,
    .reply 2 (.response ⟨some (.object (Record.contact "2" "Bob"))⟩), .touch 0 "name"]

theorem created_contact_is_updated :
    ((run .plain (ofSchema .contacts) (creatingContact ++
        .reply 0 (.response ⟨some (.object (Record.contact "31" "Jane"))⟩) ::
        editingCreated)).step .plain (.submit 0)).requests =
      [("/api/contacts/31", ⟨"PUT", some (.object (Record.contact "31" "Janet"))⟩)] := by
  have url : Template.join "/api/contacts" (Template.fill ":id" (some (Record.contact "31" "Jane"))) =
      "/api/contacts/31" := by decide +kernel
  obtain ⟨-, g, there, requests⟩ := saved_record_is_updated .plain .contacts creatingContact 0 0 _ _
    (Record.contact "31" "Jane") ⟨"PUT", ":id"⟩ rfl rfl rfl rfl rfl rfl (by decide) rfl
    editingCreated ⟨trivial, trivial, nofun, trivial, nofun, trivial, trivial⟩
  have shown : some g = some ⟨.contact, Record.contact "31" "Janet", [], ["name"], false,
    Record.contact "31" "Jane", Record.contact "31" "Jane"⟩ := there.symm
  cases shown
  rw [if_pos ⟨rfl, rfl⟩] at requests
  exact url ▸ requests

end Screen

end DeclaredScreens
