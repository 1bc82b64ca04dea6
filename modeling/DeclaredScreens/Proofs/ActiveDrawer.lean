import DeclaredScreens.Proofs.Run

/-! Which drawer is open, and on what. A run is in the opening that its last open step began,
until a step closes it, and the drawer shows the name of that opening and the payload that it
accepted last. Replies, however late, hand a payload to the opening that they meet; none opens,
closes or switches a drawer. -/

namespace DeclaredScreens

def Step.opensUnchecked : Step → Bool
  | .showDrawer _ _ => true
  | _ => false

def Step.movesDrawer : Step → Bool
  | .openDrawer _ _ | .trigger (.drawer _) _ _ | .showDrawer _ _ | .closeDrawer => true
  | _ => false

/-- An opening of the drawer, and the payloads that it has accepted since, the last one first. -/
structure Opening where
  name : String
  payload : Option Record
  accepted : List (Option Record)

namespace Opening

def accept (o : Opening) (payload : Option Record) : Opening :=
  { o with accepted := payload :: o.accepted }

def lastPayload (o : Opening) : Option Record := o.accepted.headD o.payload

def drawer (o : Opening) : Drawer := .opened o.name o.lastPayload

@[simp] theorem drawer_accept (o : Opening) (payload : Option Record) :
    (o.accept payload).drawer = o.drawer.setPayload payload := rfl

end Opening

namespace Screen

variable (host : Host) {s : Screen} {step : Step}

def noteOpening (s : Screen) (step : Step) (opening : Option Opening) : Option Opening :=
  match step, (s.step host step).result with
  | .openDrawer name payload, .opened => some ⟨name, payload, []⟩
  | .trigger (.drawer name) row _, .triggered (.drawerOpened _) => some ⟨name, row, []⟩
  | .closeDrawer, _ => none
  | .setPayload payload, .accepted true => opening.map (·.accept payload)
  | .pick selection, .accepted true => opening.map (·.accept (some selection))
  | .reply n r, _ =>
      match s.delivers n r with
      | some record => opening.map (·.accept (some record))
      | none => opening
  | _, _ => opening

def openingAfter (schema : Schema) (steps : List Step) : Option Opening :=
  remember host (noteOpening host) (ofSchema schema) none steps

structure ShowsOpening (s : Screen) (opening : Option Opening) : Prop where
  drawer_eq : s.drawer = (opening.map Opening.drawer).getD .closed
  defined : ∀ o, opening = some o → s.drawers.contains o.name = true

variable {opening : Option Opening}

theorem ShowsOpening.closed (shown : s.drawer = .closed) : ShowsOpening s none :=
  ⟨shown, nofun⟩

theorem ShowsOpening.opened {name : String} {payload : Option Record}
    (known : s.drawers.contains name = true) (shown : s.drawer = .opened name payload) :
    ShowsOpening s (some ⟨name, payload, []⟩) := by
  refine ⟨shown, ?_⟩
  rintro o ⟨⟩
  exact known

theorem ShowsOpening.accept {t : Screen} (shows : ShowsOpening s opening) (payload : Option Record)
    (drawers : t.drawers = s.drawers) (drawer : t.drawer = s.drawer.setPayload payload) :
    ShowsOpening t (opening.map (·.accept payload)) := by
  constructor
  · rw [drawer, shows.drawer_eq]
    cases opening <;> rfl
  · intro o same
    obtain ⟨before, rfl, rfl⟩ := Option.map_eq_some_iff.mp same
    rw [drawers]
    exact shows.defined before rfl

theorem ShowsOpening.keep {t : Screen} (shows : ShowsOpening s opening)
    (drawers : t.drawers = s.drawers) (drawer : t.drawer = s.drawer) : ShowsOpening t opening :=
  ⟨drawer.trans shows.drawer_eq, drawers ▸ shows.defined⟩

theorem ShowsOpening.offer {t : Screen} (shows : ShowsOpening s opening) (payload : Option Record)
    (drawers : t.drawers = s.drawers) (drawer : t.drawer = s.drawer.setPayload payload) :
    ShowsOpening t (if s.drawer.isOpen then opening.map (·.accept payload) else opening) := by
  split
  · exact shows.accept payload drawers drawer
  · next closed =>
      refine shows.keep drawers (drawer.trans ?_)
      cases shown : s.drawer with
      | closed => rfl
      | opened name old => simp [shown, Drawer.isOpen] at closed

theorem showsOpening_step (checked : step.opensUnchecked = false)
    (shows : ShowsOpening s opening) :
    ShowsOpening (s.step host step).screen (noteOpening host s step opening) := by
  have drawers : (s.step host step).screen.drawers = s.drawers := drawers_step host s step
  have drawer : (s.step host step).screen.drawer = s.drawerAfter step := drawer_step host s step
  cases step with
  | openDrawer name payload =>
      cases known : s.drawers.contains name with
      | true =>
          simp only [noteOpening, Screen.step, openDrawer, known, if_true, quiet]
          exact .opened known rfl
      | false =>
          simp only [noteOpening, Screen.step, openDrawer, known, quiet]
          exact shows
  | trigger action row approved =>
      cases action with
      | drawer name =>
          cases known : s.drawers.contains name with
          | true =>
              simp only [noteOpening, Screen.step, trigger, openDrawer, known, if_true, quiet]
              exact .opened known rfl
          | false =>
              simp only [noteOpening, Screen.step, trigger, openDrawer, known, quiet]
              exact shows
      | _ => exact shows.keep drawers drawer
  | showDrawer => cases checked
  | closeDrawer => exact .closed drawer
  | setPayload payload =>
      have offered := shows.offer payload drawers drawer
      cases shown : s.drawer.isOpen <;> simpa [noteOpening, Screen.step, quiet, shown] using offered
  | pick selection =>
      have offered := shows.offer (some selection) drawers drawer
      cases shown : s.drawer.isOpen <;> simpa [noteOpening, Screen.step, quiet, shown] using offered
  | reply n r =>
      simp only [drawerAfter] at drawer
      simp only [noteOpening]
      cases delivered : s.delivers n r with
      | some record => exact shows.accept (some record) drawers (by rw [drawer, delivered])
      | none => exact shows.keep drawers (by rw [drawer, delivered])
  | _ => exact shows.keep drawers drawer

theorem run_showsOpening (schema : Schema) (steps : List Step)
    (checked : ∀ step ∈ steps, step.opensUnchecked = false) :
    ShowsOpening (run host (ofSchema schema) steps) (openingAfter host schema steps) :=
  remember_invariant host (ofSchema schema) (noteOpening host) none (·.opensUnchecked = false)
    ShowsOpening (fun _ _ _ checked shows => showsOpening_step host checked shows)
    (.closed rfl) steps checked

theorem name?_setPayload (payload : Option Record) (drawer : Drawer) :
    (drawer.setPayload payload).name? = drawer.name? := by
  cases drawer <;> rfl

theorem name?_step (s : Screen) (still : step.movesDrawer = false) :
    (s.step host step).screen.drawer.name? = s.drawer.name? := by
  rw [drawer_step]
  cases step with
  | openDrawer | showDrawer | closeDrawer => cases still
  | trigger action row approved =>
      cases action with
      | drawer name => cases still
      | _ => rfl
  | setPayload | pick => exact name?_setPayload ..
  | reply n r =>
      simp only [drawerAfter]
      split
      · exact name?_setPayload ..
      · rfl
  | _ => rfl

theorem ShowsOpening.activeDrawer (shows : ShowsOpening s opening) {name : String}
    (shown : s.drawer.name? = some name) :
    ∃ definition, s.drawers.get? name = some definition ∧
      s.activeDrawer = some (name, definition) := by
  cases opening with
  | none => simp [shows.drawer_eq, Drawer.name?] at shown
  | some o =>
      have same : o.name = name := by
        simpa [shows.drawer_eq, Drawer.name?, Opening.drawer] using shown
      obtain ⟨definition, found⟩ := Option.isSome_iff_exists.mp (shows.defined o rfl)
      rw [same] at found
      exact ⟨definition, found, by simp [Screen.activeDrawer, shown, found]⟩

/-- In a run that opens defined drawers only, a closed drawer holds nothing, and an open one has
its definition. Panel and payload are those of the opening that the run is in, the payload being
the last that it accepted. No step but an open or a close step moves the panel, no reply among
them. -/
theorem drawer_shows_last_opening (schema : Schema) (steps : List Step)
    (checked : ∀ step ∈ steps, step.opensUnchecked = false) :
    let s := run host (ofSchema schema) steps
    let opening := openingAfter host schema steps
    (s.drawer.isOpen = false → s.drawer.payload = none) ∧
    (∀ name, s.drawer.name? = some name → ∃ definition,
      schema.drawers.get? name = some definition ∧ s.activeDrawer = some (name, definition)) ∧
    s.activeDrawer.isSome = s.drawer.isOpen ∧
    s.drawer.name? = opening.map (·.name) ∧
    s.drawer.payload = opening.bind (·.lastPayload) ∧
    ∀ step, step.movesDrawer = false →
      (s.step host step).screen.drawer.name? = s.drawer.name? := by
  intro s opening
  have shows : ShowsOpening s opening := run_showsOpening host schema steps checked
  have drawers : s.drawers = schema.drawers := drawers_run host (ofSchema schema) steps
  refine ⟨?_, ?_, ?_, ?_, ?_, fun step still => name?_step host s still⟩
  · intro closed
    cases shown : s.drawer with
    | closed => rfl
    | opened name payload => simp [shown, Drawer.isOpen] at closed
  · intro name shown
    rw [← drawers]
    exact shows.activeDrawer shown
  · cases shown : s.drawer with
    | closed => simp [activeDrawer, shown, Drawer.name?, Drawer.isOpen]
    | opened name payload =>
        obtain ⟨definition, -, active⟩ := shows.activeDrawer (congrArg Drawer.name? shown)
        rw [active]
        rfl
  · rw [shows.drawer_eq]
    cases opening <;> rfl
  · rw [shows.drawer_eq]
    cases opening <;> rfl

/-- The first contact is saved, and its record comes when the drawer is closed; it is opened on the
second contact then, from which a picker moves on to the third. -/
def pickingThird : List Step :=
  [.openDrawer "edit" (some (Record.contact "1" "Ann")), .mount .contact, .submit 0, .closeDrawer,
    .reply 0 (.response ⟨some (.object (Record.contact "1" "Ann"))⟩),
    .trigger (.drawer "edit") (some (Record.contact "2" "Bob")) true,
    .pick (Record.contact "3" "Cid")]

theorem drawer_shows_third_contact :
    (∀ step ∈ pickingThird, step.opensUnchecked = false) ∧
    (run .plain (ofSchema .contacts) pickingThird).drawer.name? = some "edit" ∧
    (run .plain (ofSchema .contacts) pickingThird).drawer.payload =
      some (Record.contact "3" "Cid") := by
  have checked : ∀ step ∈ pickingThird, step.opensUnchecked = false := by decide
  obtain ⟨-, -, -, name, payload, -⟩ :=
    drawer_shows_last_opening .plain .contacts pickingThird checked
  exact ⟨checked, name, payload⟩

end Screen

end DeclaredScreens
