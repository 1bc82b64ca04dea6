import DeclaredScreens.CommandLine.Commands
import DeclaredScreens.Proofs.Validation

/-! The form of a command line: the first of its screen, mounted on its seed and then typed into. As
long as the seed names each field once the form is never reset on the way, so a field has the value
that was typed, or else the one of the seed. -/

namespace DeclaredScreens

namespace Screen

variable (s : Screen)

def typed (values : Record) (f : Form) : Form :=
  values.foldl (fun f field => (s.current f).write field.1 field.2) f

theorem step_write {f : Form} (alone : s.forms = [f]) (host : Host) (name : String) (value : Json) :
    (s.step host (.write 0 name value)).screen =
      { s with forms := [(s.current f).write name value] } := by
  simp [Screen.step, onForm, withForm, quiet, current, alone]

theorem run_writes (host : Host) (values : Record) {f : Form} (alone : s.forms = [f]) :
    s.run host (values.map fun (name, value) => .write 0 name value) =
      { s with forms := [s.typed values f] } := by
  induction values generalizing s f with
  | nil => simp [typed, ← alone]
  | cons field rest ih =>
      rw [List.map_cons, run_cons, step_write s alone, ih _ rfl]
      rfl

end Screen

theorem Session.withForm_eq {s : Screen} (bare : s.forms = []) (spec : FormSpec) (values : Record) :
    withForm s spec values =
      { s with forms := [s.typed values (Form.mount spec (s.seedFor spec))] } := by
  rw [withForm, Screen.run_cons]
  have mounted : (s.step host (.mount spec)).screen =
      { s with forms := [Form.mount spec (s.seedFor spec)] } := by
    simp [Screen.step, Screen.quiet, bare]
  rw [mounted, Screen.run_writes _ host values rfl]
  rfl

theorem Session.getElem?_withForm {s : Screen} (bare : s.forms = []) {spec : FormSpec}
    {values : Record} :
    (withForm s spec values).forms[0]? =
      some (s.typed values (Form.mount spec (s.seedFor spec))) := by
  rw [withForm_eq bare]
  rfl

/-- A form that is up to its seed, which the record of the drawer gives it. -/
structure Screen.Follows (s : Screen) (f : Form) : Prop where
  idle : f.submitting = false
  seed_eq : f.seed = s.seedFor f.spec
  distinct : Record.isDistinct f.seed = true

namespace Screen.Follows

variable {s : Screen} {f : Form}

theorem mount {spec : FormSpec} (distinct : Record.isDistinct (s.seedFor spec) = true) :
    s.Follows (Form.mount spec (s.seedFor spec)) := ⟨rfl, rfl, distinct⟩

theorem current_eq (follows : s.Follows f) : s.current f = f := by
  have same : Record.same f.seed (s.seedFor f.spec) = true :=
    follows.seed_eq ▸ Record.same_refl follows.distinct
  simp [Screen.current, Form.catchUp, Form.isBehind, same]

theorem write (follows : s.Follows f) (name : String) (value : Json) :
    s.Follows (f.write name value) := ⟨follows.idle, follows.seed_eq, follows.distinct⟩

theorem typed (follows : s.Follows f) {values : Record} (once : (Entries.names values).Nodup) :
    s.Follows (s.typed values f) ∧ (s.typed values f).spec = f.spec ∧
      ∀ name, (s.typed values f).value? name = (values.lookup name).or (f.value? name) := by
  induction values generalizing f with
  | nil => exact ⟨follows, rfl, fun name => rfl⟩
  | cons field rest ih =>
      obtain ⟨first, value⟩ := field
      obtain ⟨gone, later⟩ := List.nodup_cons.mp once
      have written : s.typed ((first, value) :: rest) f = s.typed rest (f.write first value) := by
        rw [Screen.typed, List.foldl_cons, follows.current_eq]
        rfl
      obtain ⟨follows', spec, shown⟩ := ih (follows.write first value) later
      rw [written]
      refine ⟨follows', spec, fun name => ?_⟩
      rw [shown, Form.value?_write, Entries.lookup_cons_if]
      split
      · next here =>
          -- No later value is typed under the name.
          have absent : rest.lookup name = none := by
            rw [here, ← Option.not_isSome_iff_eq_none, ← Entries.mem_names_iff]
            exact gone
          rw [absent]
          rfl
      · rfl

end Screen.Follows

namespace Session

variable {s : Screen} {spec : FormSpec} {values : Record}

/-- Validating a form that was just typed into asks each of its required fields for the value that
was typed, or else for the one of the seed. -/
theorem validate_typed (bare : s.forms = [])
    (distinct : Record.isDistinct (s.seedFor spec) = true) (once : (Entries.names values).Nodup) :
    ((withForm s spec values).step host (.validate 0)).result =
      .missing (spec.requiredFields.filter fun name =>
        Json.isBlank ((values.lookup name).or ((s.seedFor spec).lookup name))) := by
  obtain ⟨follows, spec_eq, shown⟩ := (Screen.Follows.mount distinct).typed once
  have current : (withForm s spec values).current
      (s.typed values (Form.mount spec (s.seedFor spec))) =
        s.typed values (Form.mount spec (s.seedFor spec)) := by
    rw [withForm_eq bare]
    exact follows.current_eq
  rw [Screen.step_validate host (getElem?_withForm bare), current]
  simp only [Screen.quiet, Form.missing, spec_eq, shown]
  rfl

end Session

end DeclaredScreens
