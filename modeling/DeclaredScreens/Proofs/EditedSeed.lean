import DeclaredScreens.Proofs.Seeds

/-! Forms as edited seeds. Along every run the values of a form are its seed overlaid by the
writes made since it was last reset, in flight or not, and a form that is up to its seed agrees
with the record of the drawer. So a submission on the active record never pairs the address of
one record with the values of another. -/

namespace DeclaredScreens

/-- The values are the seed overlaid by the writes, and the snapshot is the seed. -/
structure Form.Edited (f : Form) (written : List (String × Json)) : Prop where
  snapshot_eq : f.snapshot = f.seed
  values_eq : f.values = Record.overlay written f.seed
  distinct : Record.isDistinct f.seed = true

namespace Form.Edited

variable {f g : Form} {written : List (String × Json)}

theorem mount {seed : Record} (distinct : Record.isDistinct seed = true) (spec : FormSpec) :
    (Form.mount spec seed).Edited [] := ⟨rfl, rfl, distinct⟩

theorem congr (edited : f.Edited written) (values : g.values = f.values)
    (snapshot : g.snapshot = f.snapshot) (seed : g.seed = f.seed) : g.Edited written := by
  obtain ⟨snapshot_eq, values_eq, distinct⟩ := edited
  exact ⟨by rw [snapshot, seed, snapshot_eq], by rw [values, seed, values_eq], seed ▸ distinct⟩

theorem catchUp (edited : f.Edited written) {seed : Record}
    (distinct : Record.isDistinct seed = true) :
    (f.catchUp seed).Edited (if f.isBehind seed then [] else written) := by
  unfold Form.catchUp
  split
  · exact ⟨rfl, rfl, distinct⟩
  · exact edited

theorem write (edited : f.Edited written) (name : String) (value : Json) :
    (f.write name value).Edited ((name, value) :: written) :=
  ⟨edited.snapshot_eq, by simp [Form.write, edited.values_eq], edited.distinct⟩

theorem touch (edited : f.Edited written) (name : String) : (f.touch name).Edited written :=
  edited.congr rfl rfl rfl

theorem complain (edited : f.Edited written) (message : String) :
    (f.complain message).Edited written := edited.congr rfl rfl rfl

theorem endSubmission (edited : f.Edited written) : f.endSubmission.Edited written :=
  edited.congr rfl rfl rfl

theorem settled (edited : f.Edited written) (succeeded : Bool) {seed : Record}
    (distinct : Record.isDistinct seed = true) :
    (f.settled succeeded seed).Edited
      (if succeeded && f.spec.usesActiveRecord && f.endSubmission.isBehind seed then []
        else written) := by
  unfold Form.settled
  split
  · next active =>
      rw [active, Bool.true_and]
      exact edited.endSubmission.catchUp distinct
  · next other => simpa [other] using edited.endSubmission

end Form.Edited

/-- The body is the record with the writes over it: it names just the fields of the two, each
once, a written field carries its last write, and any other the value in the record. -/
structure Record.Overlays (body record : Record) (written : List (String × Json)) : Prop where
  nodup : (Entries.names body).Nodup
  fields : ∀ name, name ∈ Entries.names body ↔
    name ∈ Entries.names record ∨ name ∈ Entries.names written
  lastWrite : ∀ name value, written.lookup name = some value → body.lookup name = some value
  kept : ∀ name value, written.lookup name = none → record.lookup name = some value →
    ∃ shown, body.lookup name = some shown ∧ shown.same value = true

theorem Form.Edited.overlays {f : Form} {written : List (String × Json)} {record : Record}
    (edited : f.Edited written) (same : Record.same f.seed record = true) :
    f.values.Overlays record written := by
  have nodup := Record.nodup_names edited.distinct
  have lookup : ∀ name, f.values.lookup name = (written.lookup name).or (f.seed.lookup name) :=
    fun name => edited.values_eq ▸ Record.lookup_overlay written f.seed name
  refine ⟨edited.values_eq ▸ Record.nodup_names_overlay nodup, ?_, ?_, ?_⟩
  · intro name
    rw [← (Record.names_perm_of_same nodup same).mem_iff]
    simp only [Entries.mem_names_iff, lookup, Option.isSome_or, Bool.or_eq_true, or_comm]
  · intro name value last
    simp [lookup, last]
  · intro name value unwritten found
    obtain ⟨shown, seeded, equal⟩ := Record.lookup_of_same' nodup same found
    exact ⟨shown, by simp [lookup, unwritten, seeded], equal⟩

namespace Screen

variable (host : Host) (s : Screen)

/-- Does the step reset form `i` to a seed? Mounting the form does. Every operation on it does
when the seed has changed, and so does the end of a submission that succeeded on the active
record. -/
def resets (i : Nat) (step : Step) : Bool :=
  match step with
  | .mount _ => i = s.forms.length
  | .write j _ _ | .touch j _ | .validate j | .refresh j | .read j | .submit j =>
      j = i && s.forms[i]?.any fun f => f.isBehind (s.seedFor f.spec)
  | .reply n r =>
      (s.calls.lookup n).bind (·.purpose.form?) = some i && s.forms[i]?.any fun f =>
        r.succeeds && f.spec.usesActiveRecord &&
          f.endSubmission.isBehind (f.spec.seed (s.drawerAfter (.reply n r)).payload)
  | _ => false

/-- The writes to form `i` since it was last reset, the last one first. -/
def noteWrites (i : Nat) (s : Screen) (step : Step) (written : List (String × Json)) :
    List (String × Json) :=
  let kept := if s.resets i step then [] else written
  match step with
  | .write j name value => if j = i then (name, value) :: kept else kept
  | _ => kept

def writesSinceReset (schema : Schema) (i : Nat) (steps : List Step) : List (String × Json) :=
  remember host (noteWrites i) (ofSchema schema) [] steps

variable {s} {i : Nat} {f : Form} {written : List (String × Json)}

theorem edited_current (edited : f.Edited written) (mounted : s.forms[i]? = some f)
    (distinct : s.SeedsDistinct) :
    (s.current f).Edited (if f.isBehind (s.seedFor f.spec) then [] else written) :=
  edited.catchUp (seed_isDistinct distinct.payload (distinct.defaults i f mounted))

theorem edited_submitted (edited : f.Edited written) : (s.submitted host f).Edited written := by
  unfold submitted
  split
  · exact edited
  · split
    · exact edited.congr rfl rfl rfl
    · exact edited.complain _

theorem edited_formAfter {step : Step} (edited : f.Edited written)
    (mounted : s.forms[i]? = some f) (distinct : s.SeedsDistinct)
    (proper : step.isDistinct = true) :
    (s.formAfter host step i f).Edited (noteWrites i s step written) := by
  have current := edited_current edited mounted distinct
  -- Steps on another form leave this one alone; a reply may reset it to the drawer after it.
  cases step with
  | write j name value =>
      by_cases here : j = i
      · simpa [formAfter, formChange, noteWrites, resets, here, mounted] using
          current.write name value
      · simpa [formAfter, formChange, noteWrites, resets, here] using edited
  | touch j name =>
      by_cases here : j = i
      · simpa [formAfter, formChange, noteWrites, resets, here, mounted] using current.touch name
      · simpa [formAfter, formChange, noteWrites, resets, here] using edited
  | validate j =>
      by_cases here : j = i
      · simpa [formAfter, formChange, noteWrites, resets, here, mounted] using
          current.complain (host.localize Form.requiredMessage)
      · simpa [formAfter, formChange, noteWrites, resets, here] using edited
  | submit j =>
      by_cases here : j = i
      · simpa [formAfter, formChange, noteWrites, resets, here, mounted] using
          edited_submitted host current
      · simpa [formAfter, formChange, noteWrites, resets, here] using edited
  | refresh j | read j =>
      by_cases here : j = i
      · simpa [formAfter, formChange, noteWrites, resets, here, mounted] using current
      · simpa [formAfter, formChange, noteWrites, resets, here] using edited
  | reply n r =>
      have seed := seed_isDistinct (distinct.step_payload proper) (distinct.defaults i f mounted)
      cases waiting : (s.calls.lookup n).bind (·.purpose.form?) with
      | none => simpa [formAfter, formChange, noteWrites, resets, waiting] using edited
      | some j =>
          by_cases here : j = i
          · simpa [formAfter, formChange, noteWrites, resets, waiting, here, mounted] using
              edited.settled r.succeeds seed
          · simpa [formAfter, formChange, noteWrites, resets, waiting, here] using edited
  | cancel n =>
      cases waiting : (s.calls.lookup n).bind (·.purpose.form?) with
      | none => simpa [formAfter, formChange, noteWrites, resets, waiting] using edited
      | some j =>
          by_cases here : j = i
          · simpa [formAfter, formChange, noteWrites, resets, waiting, here] using
              edited.endSubmission
          · simpa [formAfter, formChange, noteWrites, resets, waiting, here] using edited
  | mount spec =>
      have other : i ≠ s.forms.length :=
        Nat.ne_of_lt (List.getElem?_eq_some_iff.mp mounted).1
      simpa [formAfter, formChange, noteWrites, resets, other] using edited
  | _ => exact edited

theorem run_edited (schema : Schema) (steps : List Step)
    (distinct : ∀ step ∈ steps, step.isDistinct = true) (i : Nat) :
    (run host (ofSchema schema) steps).SeedsDistinct ∧
      ∀ f, (run host (ofSchema schema) steps).forms[i]? = some f →
        f.Edited (writesSinceReset host schema i steps) := by
  refine remember_invariant host (ofSchema schema) (noteWrites i) [] (·.isDistinct = true)
    (fun s written => s.SeedsDistinct ∧ ∀ f, s.forms[i]? = some f → f.Edited written)
    ?_ ⟨⟨by simp [ofSchema, Drawer.payload], by simp [ofSchema]⟩, by simp [ofSchema]⟩ steps distinct
  -- The seeds are carried along: what a form is reset to must name its fields once as well.
  rintro s written step proper ⟨seeds, edited⟩
  refine ⟨seeds.step host proper, fun f mounted => ?_⟩
  rcases form_step_cases host s mounted with ⟨g, before, rfl⟩ | ⟨spec, rfl, last, rfl⟩
  · exact edited_formAfter host (edited g before) before seeds proper
  · have fresh := Form.Edited.mount
      (seed_isDistinct seeds.payload fun record mem => List.all_eq_true.mp proper record
        (Option.mem_toList.mpr mem)) spec
    simpa [noteWrites, resets, last, seedFor] using fresh

theorem same_seed_current (idle : (s.current f).submitting = false)
    (distinct : Record.isDistinct (s.seedFor f.spec) = true) :
    Record.same (s.current f).seed (s.seedFor f.spec) = true := by
  unfold current Form.catchUp at *
  split
  · exact Record.same_refl distinct
  -- Left as it is, an idle form has just been compared with this very seed.
  · next upToDate =>
      rw [if_neg upToDate] at idle
      simpa [Form.isBehind, idle] using upToDate

/-- For a form on the active record, the request of a submit goes to the endpoint of its action
for the record in the drawer, and its body is that record with the writes made to the form since
it was last reset. -/
theorem submission_addresses_what_it_carries (schema : Schema) (steps : List Step)
    (distinct : ∀ step ∈ steps, step.isDistinct = true) (i : Nat) (f : Form) (record : Record)
    (url : String) (request : Request)
    (mounted : (run host (ofSchema schema) steps).forms[i]? = some f)
    (active : f.spec.usesActiveRecord = true)
    (payload : (run host (ofSchema schema) steps).drawer.payload = some record)
    (called : .call url request ∈
      ((run host (ofSchema schema) steps).step host (.submit i)).events) :
    ∃ endpoint body,
      (run host (ofSchema schema) steps).endpointFor f.spec.actionName (some record) =
        .ok (endpoint, url) ∧
      request = ⟨endpoint.method, some (.object body)⟩ ∧
      Record.Overlays body record (writesSinceReset host schema i (steps ++ [.submit i])) := by
  obtain ⟨seeds, edited⟩ := run_edited host schema steps distinct i
  obtain ⟨idle, -, endpoint, found, rfl⟩ := submit_calls host _ mounted called
  have shown : (run host (ofSchema schema) steps).seedFor f.spec = record := by
    simp [seedFor, FormSpec.seed, active, payload]
  have upToDate := edited_current (edited f mounted) mounted seeds
  have same := same_seed_current idle (shown ▸ seeds.payload record payload)
  refine ⟨endpoint, _, ?_, rfl, ?_⟩
  · simpa [submitItem, current, active, payload] using found
  · rw [writesSinceReset, remember_append]
    have overlays := upToDate.overlays (shown ▸ same)
    simpa [noteWrites, resets, mounted, writesSinceReset] using overlays

def reopened : List Step :=
  [.openDrawer "edit" (some (Record.contact "1" "Ann")), .mount .contact,
    .write 0 "name" (.string "Annie"), .submit 0,
    .openDrawer "edit" (some (Record.contact "2" "Bob")), .write 0 "name" (.string "Anna"),
    .reply 0 (.rejected ["timeout"]), .write 0 "name" (.string "Bobby"), .touch 0 "id"]

theorem url_second_contact :
    Endpoint.url ⟨"PUT", ":id"⟩ "/api/contacts" (some (Record.contact "2" "Bob")) =
      "/api/contacts/2" := by decide +kernel

theorem reopened_submission_addresses_second_contact :
    (∀ step ∈ reopened, step.isDistinct = true) ∧
    ∃ endpoint body,
      (run .plain (ofSchema .contacts) reopened).endpointFor FormSpec.contact.actionName
        (some (Record.contact "2" "Bob")) = .ok (endpoint, "/api/contacts/2") ∧
      Request.mk "PUT" (some (.object (Record.contact "2" "Bobby"))) =
        ⟨endpoint.method, some (.object body)⟩ ∧
      Record.Overlays body (Record.contact "2" "Bob")
        (writesSinceReset .plain .contacts 0 (reopened ++ [.submit 0])) := by
  have distinct : ∀ step ∈ reopened, step.isDistinct = true := by decide
  refine ⟨distinct, submission_addresses_what_it_carries .plain .contacts reopened distinct 0
    ⟨.contact, Record.contact "2" "Bobby", [], ["id"], false, Record.contact "2" "Bob",
      Record.contact "2" "Bob"⟩ (Record.contact "2" "Bob") "/api/contacts/2" _ rfl rfl rfl ?_⟩
  rw [← url_second_contact]
  exact .head _

end Screen

end DeclaredScreens
