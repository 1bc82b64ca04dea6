import DeclaredScreens.Proofs.Run
import DeclaredScreens.Proofs.Step.Forms

/-! Replies that come late. A reply is taken in by the drawer that is open by then, whichever
opening its call was made for. Without a record it changes neither the row nor what the forms on
it show; a record becomes the row, also when it belongs to another. -/

namespace DeclaredScreens

def Reply.record? : Reply → Option Record
  | .response taken => taken.record?
  | .rejected _ => none

namespace Screen

variable (host : Host) {s : Screen} {n : Nat} {call : Call} {r : Reply}

theorem endpointFor_step (step : Step) :
    (s.step host step).screen.endpointFor = s.endpointFor := by
  funext action item
  simp [endpointFor]

def released (call : Call) (i : Nat) (f : Form) : Form :=
  if call.purpose.form? = some i then f.endSubmission else f

theorem drawer_reply {name : String} {payload : Option Record}
    (waiting : s.calls.lookup n = some call) (execution : call.purpose.isExecution = true)
    (opened : s.drawer = .opened name payload) :
    (s.step host (.reply n r)).screen.drawer = .opened name (r.record?.or payload) := by
  have delivered : s.delivers n r = r.record? := by
    cases r with
    | response response => simp [delivers, waiting, execution, Reply.record?]
    | rejected causes => rfl
  rw [drawer_step, drawerAfter, delivered, opened]
  cases r.record? <;> rfl

theorem current_reply {i : Nat} {f : Form} (waiting : s.calls.lookup n = some call)
    (mounted : s.forms[i]? = some f) :
    ∃ g, (s.step host (.reply n r)).screen.forms[i]? = some g ∧ g.spec = f.spec ∧
      (s.step host (.reply n r)).screen.current g =
        (released call i f).catchUp
          (f.spec.seed (s.step host (.reply n r)).screen.drawer.payload) := by
  refine ⟨_, form_step host s mounted, formAfter_spec .., ?_⟩
  rw [current, seedFor, formAfter_spec, drawer_step]
  simp only [formAfter, formChange, waiting, Option.bind_some]
  cases isFor : call.purpose.form? with
  | none => simp [released, isFor]
  -- Read after the reply, the form of a submission looks the same whether it succeeded or not.
  | some j =>
      by_cases here : j = i
      · simp [released, isFor, here, Form.catchUp_settled]
      · simp [released, isFor, here]

/-- The reply to an execution meets the drawer that is open by then, whatever was opened since
the call: its name stays, and so does its row unless the reply carries a record, which becomes
the row. A form on the active record is brought up to that row, and without a record one that did
not wait for the reply reads as before; its next submit addresses the row. -/
theorem late_reply_meets_open_row (schema : Schema) (earlier later : List Step) (n : Nat)
    (call : Call) (r : Reply) (name : String) (payload : Option Record)
    (asked : (run host (ofSchema schema) earlier).calls.lookup n = some call)
    (execution : call.purpose.isExecution = true)
    (unanswered : ∀ step ∈ later, step.finishes n = false)
    (opened : (run host (ofSchema schema) (earlier ++ later)).drawer = .opened name payload) :
    let before := run host (ofSchema schema) (earlier ++ later)
    let after := (before.step host (.reply n r)).screen
    let row := r.record?.or payload
    after.drawer = .opened name row ∧
    ∀ i f, before.forms[i]? = some f → f.spec.usesActiveRecord = true →
      ∃ g, after.forms[i]? = some g ∧
        after.current g = (released call i f).catchUp (f.spec.seed row) ∧
        (r.record? = none → call.purpose.form? ≠ some i → after.current g = before.current f) ∧
        ∀ url request, .call url request ∈ (after.step host (.submit i)).events →
          ∃ endpoint, before.endpointFor f.spec.actionName row = .ok (endpoint, url) ∧
            request = ⟨endpoint.method, some (.object (after.current g).values)⟩ := by
  intro before after row
  have waiting : before.calls.lookup n = some call := by
    simpa only [before, run_append] using lookup_run host asked later unanswered
  have drawer : after.drawer = .opened name row := drawer_reply host waiting execution opened
  refine ⟨drawer, fun i f mounted active => ?_⟩
  obtain ⟨g, there, spec, current⟩ := current_reply host (r := r) waiting mounted
  have shown : after.drawer.payload = row := by rw [drawer]; rfl
  rw [shown] at current
  refine ⟨g, there, current, ?_, ?_⟩
  · intro recordless other
    have kept : row = before.drawer.payload := by
      simp [row, recordless, before, opened, Drawer.payload]
    rw [current, released, if_neg other, kept]
    rfl
  · intro url request called
    obtain ⟨-, -, endpoint, found, sent⟩ := submit_calls host after there called
    refine ⟨endpoint, ?_, sent⟩
    rw [endpointFor_step, submitItem, Screen.current, Form.catchUp_spec, spec, active, shown] at found
    exact found

def savingFirst : List Step :=
  [.openDrawer "edit" (some (Record.contact "1" "Ann")), .mount .contact, .submit 0]

def openingSecond : List Step := [.openDrawer "edit" (some (Record.contact "2" "Bob"))]

theorem late_empty_reply_keeps_second_contact :
    ((run .plain (ofSchema .contacts) (savingFirst ++ openingSecond)).step .plain
        (.reply 0 (.response ⟨none⟩))).screen.drawer =
      .opened "edit" (some (Record.contact "2" "Bob")) ∧
    ∃ g, ((run .plain (ofSchema .contacts) (savingFirst ++ openingSecond)).step .plain
          (.reply 0 (.response ⟨none⟩))).screen.forms[0]? = some g ∧
        (((run .plain (ofSchema .contacts) (savingFirst ++ openingSecond)).step .plain
          (.reply 0 (.response ⟨none⟩))).screen.current g).values = Record.contact "2" "Bob" := by
  obtain ⟨drawer, forms⟩ := late_reply_meets_open_row .plain .contacts savingFirst openingSecond
    0 _ (.response ⟨none⟩) "edit" (some (Record.contact "2" "Bob")) rfl rfl (by decide) rfl
  obtain ⟨g, there, current, -⟩ := forms 0 _ rfl rfl
  exact ⟨drawer, g, there, congrArg Form.values current⟩

/-- A late record does land on another row: the drawer opened on the second contact is handed the
first, and the form in it goes on to write to the first. -/
theorem late_record_replaces_second_contact :
    (run .plain (ofSchema .contacts) (savingFirst ++ openingSecond)).drawer =
      .opened "edit" (some (Record.contact "2" "Bob")) ∧
    (run .plain (ofSchema .contacts) (savingFirst ++ openingSecond ++
        [.reply 0 (.response ⟨some (.object (Record.contact "1" "Ann"))⟩)])).drawer =
      .opened "edit" (some (Record.contact "1" "Ann")) ∧
    .call "/api/contacts/1" ⟨"PUT", some (.object (Record.contact "1" "Ann"))⟩ ∈
      ((run .plain (ofSchema .contacts) (savingFirst ++ openingSecond ++
        [.reply 0 (.response ⟨some (.object (Record.contact "1" "Ann"))⟩)])).step .plain
        (.submit 0)).events := by
  refine ⟨rfl, rfl, ?_⟩
  have url : Endpoint.url ⟨"PUT", ":id"⟩ "/api/contacts" (some (Record.contact "1" "Ann")) =
      "/api/contacts/1" := by decide +kernel
  rw [← url]
  exact .head _

end Screen

end DeclaredScreens
