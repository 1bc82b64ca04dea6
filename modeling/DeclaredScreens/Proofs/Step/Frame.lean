import DeclaredScreens.Proofs.Step.Execution

/-! What one step does to the drawer and the cached lists, one equation each. Base, registry
and drawer definitions never change. -/

namespace DeclaredScreens.Screen

variable (host : Host) (s : Screen)

/-- The record that a reply to the call hands to the drawer: that of a response to an
execution. -/
def delivers (n : Nat) : Reply → Option Record
  | .response response =>
      match s.calls.lookup n with
      | some call => if call.purpose.isExecution then response.record? else none
      | none => none
  | .rejected _ => none

def drawerAfter : Step → Drawer
  | .openDrawer name payload => if s.drawers.contains name then .opened name payload else s.drawer
  | .trigger (.drawer name) row _ => if s.drawers.contains name then .opened name row else s.drawer
  | .showDrawer name payload => .opened name payload
  | .closeDrawer => .closed
  | .setPayload payload => s.drawer.setPayload payload
  | .pick selection => s.drawer.setPayload (some selection)
  | .reply n r =>
      match s.delivers n r with
      | some record => s.drawer.setPayload (some record)
      | none => s.drawer
  | _ => s.drawer

def cacheAfter : Step → ListCache
  | .storeList key list => s.cache.store key list
  | .invalidate address => s.cache.invalidate address
  | .reply n (.response response) =>
      match s.calls.lookup n with
      | some call =>
          if call.purpose.isExecution then s.cache.invalidate s.baseUrl
          else s.cache.store s.baseUrl (response.data.getD (.array []))
      | none => s.cache
  | _ => s.cache

theorem onForm_frame {i : Nat} {operation : Form → Stepped}
    (frame : ∀ f, ∃ forms calls issued, (operation f).screen =
      { s with forms := forms, calls := calls, issued := issued }) :
    ∃ forms calls issued, (s.onForm i operation).screen =
      { s with forms := forms, calls := calls, issued := issued } := by
  unfold onForm
  split
  · exact frame _
  · exact ⟨_, _, _, rfl⟩

theorem submit_frame (i : Nat) (f : Form) :
    ∃ forms calls issued, (submit host s i f).screen =
      { s with forms := forms, calls := calls, issued := issued } := by
  unfold submit
  split
  · exact ⟨_, _, _, rfl⟩
  · split
    · obtain ⟨forms, calls, issued, screen⟩ := execute_frame host
        (s.withForm i { f with submitting := true }) (.submission i f.spec.notification)
        f.spec.actionName (if f.spec.usesActiveRecord then s.drawer.payload else some f.values)
        (.ofData (.object f.values))
      exact ⟨forms, calls, issued, screen⟩
    · exact ⟨_, _, _, rfl⟩

theorem reply_frame (n : Nat) (r : Reply) :
    ∃ forms calls issued, (s.reply host n r).screen = { s with
      drawer := s.drawerAfter (.reply n r), cache := s.cacheAfter (.reply n r)
      forms := forms, calls := calls, issued := issued } := by
  unfold reply
  cases waiting : s.calls.lookup n with
  | none =>
      refine ⟨s.forms, s.calls, s.issued, ?_⟩
      cases r <;> simp [quiet, drawerAfter, cacheAfter, delivers, waiting]
  | some call =>
      obtain ⟨url, request, purpose⟩ := call
      cases r with
      | rejected causes =>
          cases purpose <;>
            simp [answered, conclude_eq, quiet, drawerAfter, cacheAfter, delivers, withoutCall]
      | response response =>
          cases purpose <;> cases record : response.record? <;>
            simp [answered, conclude_eq, quiet, drawerAfter, cacheAfter, delivers, withoutCall,
              takeIn, setPayload, waiting, record, Purpose.isExecution]

/-- Everything that a step does to a screen but for its forms and calls. -/
theorem step_frame (step : Step) :
    ∃ forms calls issued, (s.step host step).screen = { s with
      drawer := s.drawerAfter step, cache := s.cacheAfter step
      forms := forms, calls := calls, issued := issued } := by
  cases step with
  | openDrawer name payload =>
      refine ⟨s.forms, s.calls, s.issued, ?_⟩
      cases known : s.drawers.contains name <;>
        simp [Screen.step, openDrawer, known, drawerAfter, cacheAfter, quiet]
  | trigger action row approved =>
      cases action with
      | drawer name =>
          refine ⟨s.forms, s.calls, s.issued, ?_⟩
          cases known : s.drawers.contains name <;>
            simp [Screen.step, trigger, openDrawer, known, drawerAfter, cacheAfter, quiet]
      | navigate path => exact ⟨_, _, _, rfl⟩
      | api action confirm notification sendRow => exact confirmed_frame ..
  | execute action item payload notification confirmation => exact confirmed_frame ..
  | list =>
      simp only [Screen.step, list]
      split
      · exact ⟨_, _, _, rfl⟩
      · split <;> exact ⟨_, _, _, rfl⟩
  | refresh i =>
      simp only [Screen.step]
      split <;> exact ⟨_, _, _, rfl⟩
  | write | touch | validate | read => exact onForm_frame s fun _ => ⟨_, _, _, rfl⟩
  | submit i => exact onForm_frame s fun f => submit_frame host (s.withForm i f) i f
  | reply n r => exact reply_frame host s n r
  | cancel n =>
      simp only [Screen.step, cancel]
      split
      · split
        · rw [endSubmission_eq]
          exact ⟨_, _, _, rfl⟩
        · exact ⟨_, _, _, rfl⟩
      · exact ⟨_, _, _, rfl⟩
  | _ => exact ⟨_, _, _, rfl⟩

variable (step : Step)

theorem drawer_step : (s.step host step).screen.drawer = s.drawerAfter step := by
  obtain ⟨forms, calls, issued, screen⟩ := step_frame host s step
  rw [screen]

theorem cache_step : (s.step host step).screen.cache = s.cacheAfter step := by
  obtain ⟨forms, calls, issued, screen⟩ := step_frame host s step
  rw [screen]

@[simp] theorem baseUrl_step : (s.step host step).screen.baseUrl = s.baseUrl := by
  obtain ⟨forms, calls, issued, screen⟩ := step_frame host s step
  rw [screen]

@[simp] theorem registry_step : (s.step host step).screen.registry = s.registry := by
  obtain ⟨forms, calls, issued, screen⟩ := step_frame host s step
  rw [screen]

@[simp] theorem drawers_step : (s.step host step).screen.drawers = s.drawers := by
  obtain ⟨forms, calls, issued, screen⟩ := step_frame host s step
  rw [screen]

end DeclaredScreens.Screen
