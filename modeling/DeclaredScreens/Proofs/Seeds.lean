import DeclaredScreens.Proofs.Record
import DeclaredScreens.Proofs.Run
import DeclaredScreens.Proofs.Step.Forms

/-! Where seeds come from. A form keeps its spec for good, and its seed is the record of the
drawer or its default values, so the seeds of a run are records that its steps brought in: if
those name their fields once, so do all seeds. -/

namespace DeclaredScreens

def Step.seeds : Step → List Record
  | .openDrawer _ payload | .showDrawer _ payload | .setPayload payload => payload.toList
  | .pick selection => [selection]
  | .trigger _ row _ => row.toList
  | .mount spec => spec.defaults.toList
  | .reply _ (.response response) => response.record?.toList
  | _ => []

/-- Do the records that the step may make a seed of name their fields once, at any depth? -/
def Step.isDistinct (step : Step) : Bool := step.seeds.all Record.isDistinct

theorem FormSpec.seed_of_inactive {spec : FormSpec} (inactive : spec.usesActiveRecord = false)
    (payload : Option Record) : spec.seed payload = spec.defaults.getD [] := by
  simp [seed, inactive]

namespace Screen

variable (host : Host) {s : Screen}

theorem form_run_spec {i : Nat} {f : Form} (mounted : s.forms[i]? = some f) (steps : List Step) :
    ∃ g, (run host s steps).forms[i]? = some g ∧ g.spec = f.spec := by
  refine run_invariant host s (fun _ => True) (fun s => ∃ g, s.forms[i]? = some g ∧ g.spec = f.spec)
    ?_ ⟨f, mounted, rfl⟩ steps (by simp)
  rintro s step - ⟨g, there, spec_eq⟩
  exact ⟨_, form_step host s there, (formAfter_spec ..).trans spec_eq⟩

/-- All the records that forms may be reset to name their fields once. -/
structure SeedsDistinct (s : Screen) : Prop where
  payload : ∀ record ∈ s.drawer.payload, record.isDistinct = true
  defaults : ∀ (i : Nat) (f : Form), s.forms[i]? = some f →
    ∀ record ∈ f.spec.defaults, record.isDistinct = true

theorem seed_isDistinct {spec : FormSpec} {payload : Option Record}
    (payloadDistinct : ∀ record ∈ payload, record.isDistinct = true)
    (defaultsDistinct : ∀ record ∈ spec.defaults, record.isDistinct = true) :
    (spec.seed payload).isDistinct = true := by
  unfold FormSpec.seed
  split
  · next record same => exact payloadDistinct record rfl
  · cases defaults : spec.defaults with
    | none => rfl
    | some record => exact defaultsDistinct record defaults

theorem payload_setPayload (payload : Option Record) (drawer : Drawer) (record : Record)
    (mem : record ∈ (drawer.setPayload payload).payload) : record ∈ payload := by
  cases drawer with
  | closed => cases mem
  | opened name old => exact mem

theorem delivers_mem_seeds {n : Nat} {r : Reply} {record : Record}
    (same : s.delivers n r = some record) : record ∈ (Step.reply n r).seeds := by
  cases r with
  | rejected causes => cases same
  | response response =>
      simp only [delivers] at same
      split at same
      · split at same
        · exact Option.mem_toList.mpr same
        · cases same
      · cases same

theorem drawerAfter_payload (step : Step) (record : Record)
    (mem : record ∈ (s.drawerAfter step).payload) :
    record ∈ s.drawer.payload ∨ record ∈ step.seeds := by
  cases step with
  | openDrawer name payload =>
      simp only [drawerAfter] at mem
      split at mem
      · exact .inr (Option.mem_toList.mpr mem)
      · exact .inl mem
  | trigger action row approved =>
      cases action with
      | drawer name =>
          simp only [drawerAfter] at mem
          split at mem
          · exact .inr (Option.mem_toList.mpr mem)
          · exact .inl mem
      | _ => exact .inl mem
  | showDrawer name payload => exact .inr (Option.mem_toList.mpr mem)
  | closeDrawer => cases mem
  | setPayload payload =>
      exact .inr (Option.mem_toList.mpr (payload_setPayload _ _ _ mem))
  | pick selection =>
      exact .inr (by simpa [Step.seeds, eq_comm] using payload_setPayload _ _ _ mem)
  | reply n r =>
      simp only [drawerAfter] at mem
      split at mem
      · next delivered same =>
          have here := payload_setPayload _ _ _ mem
          cases here
          exact .inr (delivers_mem_seeds same)
      · exact .inl mem
  | _ => exact .inl mem

theorem SeedsDistinct.step_payload {step : Step} (distinct : step.isDistinct = true)
    (before : s.SeedsDistinct) :
    ∀ record ∈ (s.drawerAfter step).payload, Record.isDistinct record = true := by
  intro record mem
  rcases drawerAfter_payload step record mem with old | new
  · exact before.payload record old
  · exact List.all_eq_true.mp distinct record new

theorem SeedsDistinct.step {step : Step} (distinct : step.isDistinct = true)
    (before : s.SeedsDistinct) : (s.step host step).screen.SeedsDistinct := by
  constructor
  · rw [drawer_step]
    exact before.step_payload distinct
  · intro i f mounted record mem
    rcases form_step_cases host s mounted with ⟨g, mountedBefore, rfl⟩ | ⟨spec, rfl, -, rfl⟩
    · rw [formAfter_spec] at mem
      exact before.defaults i g mountedBefore record mem
    · exact List.all_eq_true.mp distinct record (Option.mem_toList.mpr mem)

end Screen

end DeclaredScreens
