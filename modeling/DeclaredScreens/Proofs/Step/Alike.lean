import DeclaredScreens.Proofs.Step.Told

/-! Screens that differ in their forms only. A step goes the same way in both if they agree on
the form that it is an operation on, brought up to its seed, and for a refresh also on whether it
was behind. -/

namespace DeclaredScreens.Screen

variable (host : Host) (s : Screen) (forms : List Form)

def withForms : Screen := { s with forms := forms }

/-- The same events and result, and screens that differ in their forms only. -/
structure Alike (stepped other : Stepped) : Prop where
  events_eq : other.events = stepped.events
  result_eq : other.result = stepped.result
  screen_eq : other.screen = stepped.screen.withForms other.screen.forms

variable {s forms}

section Execution

variable (purpose : Purpose) (action : String) (item : Option Record) (payload : Payload)

theorem execute_alike :
    Alike (execute host s action item payload purpose)
      (execute host (s.withForms forms) action item payload purpose) := by
  cases found : s.endpointFor action item with
  | ok pair =>
      have found' : (s.withForms forms).endpointFor action item = .ok pair := found
      rw [execute_registered host s purpose action item payload found,
        execute_registered host _ purpose action item payload found']
      exact ⟨rfl, rfl, rfl⟩
  | error failure =>
      have found' : (s.withForms forms).endpointFor action item = .error failure := found
      rw [execute_unregistered host s purpose action item payload found,
        execute_unregistered host _ purpose action item payload found']
      exact ⟨rfl, rfl, rfl⟩

theorem confirmed_alike (confirmation : Option Confirmation) :
    Alike (confirmed host s confirmation action item payload purpose)
      (confirmed host (s.withForms forms) confirmation action item payload purpose) := by
  cases confirmation with
  | none => exact execute_alike host purpose action item payload
  | some confirmation =>
      have alike : Alike (execute host s action item payload purpose)
          (execute host (s.withForms forms) action item payload purpose) := execute_alike ..
      simp only [confirmed, conclude_eq]
      split
      · exact ⟨congrArg (_ :: ·) alike.events_eq, alike.result_eq, alike.screen_eq⟩
      · exact ⟨rfl, rfl, rfl⟩

end Execution

theorem trigger_alike (action : ButtonAction) (row : Option Record) (approved : Bool) :
    Alike (s.trigger host action row approved)
      ((s.withForms forms).trigger host action row approved) := by
  cases action with
  | drawer name =>
      cases known : s.drawers.contains name <;>
        simp only [trigger, openDrawer, withForms, known] <;> exact ⟨rfl, rfl, rfl⟩
  | navigate path => exact ⟨rfl, rfl, rfl⟩
  | api action confirm notification sendRow => exact confirmed_alike ..

theorem submit_alike (i : Nat) (f : Form) :
    Alike (submit host s i f) (submit host (s.withForms forms) i f) := by
  unfold submit
  split
  · exact ⟨rfl, rfl, rfl⟩
  · split
    · exact execute_alike host _ _ _ _
    · exact ⟨rfl, rfl, rfl⟩

theorem answered_alike (purpose : Purpose) (r : Reply) :
    Alike (answered host s purpose r) (answered host (s.withForms forms) purpose r) := by
  cases r with
  | rejected causes =>
      rw [answered_rejected, answered_rejected]
      exact ⟨rfl, rfl, rfl⟩
  | response response =>
      cases execution : purpose.isExecution with
      | true =>
          rw [answered_response host _ execution, answered_response host _ execution]
          refine ⟨rfl, rfl, ?_⟩
          simp only [takeIn_eq, withForms]
      | false =>
          rw [Purpose.eq_list_of_not_execution execution]
          exact ⟨rfl, rfl, rfl⟩

theorem cancel_alike (n : Nat) : Alike (s.cancel n) ((s.withForms forms).cancel n) := by
  have calls : (s.withForms forms).calls = s.calls := rfl
  unfold cancel
  rw [calls]
  split
  · split
    · simp only [endSubmission_eq]
      exact ⟨rfl, rfl, rfl⟩
    · exact ⟨rfl, rfl, rfl⟩
  · exact ⟨rfl, rfl, rfl⟩

/-- The screens have the same form, once it is up to its seed. -/
def Agree (s : Screen) (forms : List Form) (i : Nat) : Prop :=
  forms[i]?.map s.current = s.forms[i]?.map s.current

theorem onForm_alike {i : Nat} (agree : s.Agree forms i) {operation other : Form → Stepped}
    (alike : ∀ f, Alike (operation f) (other f)) :
    Alike (s.onForm i operation) ((s.withForms forms).onForm i other) := by
  have shown : (s.withForms forms).forms = forms := rfl
  unfold onForm
  rw [shown]
  unfold Agree at agree
  cases mounted : s.forms[i]? with
  | none =>
      rw [mounted, Option.map_none, Option.map_eq_none_iff] at agree
      rw [agree]
      exact ⟨rfl, rfl, rfl⟩
  | some f =>
      rw [mounted, Option.map_some, Option.map_eq_some_iff] at agree
      obtain ⟨g, there, same⟩ := agree
      rw [there]
      have same : g.catchUp ((s.withForms forms).seedFor g.spec) = f.catchUp (s.seedFor f.spec) :=
        same
      simp only [same]
      exact alike _

theorem reply_alike (n : Nat) (r : Reply) :
    Alike (s.reply host n r) ((s.withForms forms).reply host n r) := by
  have calls : (s.withForms forms).calls = s.calls := rfl
  unfold reply
  rw [calls]
  split
  · exact answered_alike host _ r
  · exact ⟨rfl, rfl, rfl⟩

theorem list_alike : Alike s.list (s.withForms forms).list := by
  simp only [list, withForms, endpointFor]
  split
  · exact ⟨rfl, rfl, rfl⟩
  · split <;> exact ⟨rfl, rfl, rfl⟩

def behind (s : Screen) (f : Form) : Bool := f.isBehind (s.seedFor f.spec)

theorem refresh_alike {i : Nat} (agree : s.Agree forms i)
    (reports : forms[i]?.map s.behind = s.forms[i]?.map s.behind) :
    Alike (s.step host (.refresh i)) ((s.withForms forms).step host (.refresh i)) := by
  have shown : (s.withForms forms).forms = forms := rfl
  unfold Agree at agree
  simp only [Screen.step, shown]
  cases mounted : s.forms[i]? with
  | none =>
      rw [mounted, Option.map_none, Option.map_eq_none_iff] at agree
      rw [agree]
      exact ⟨rfl, rfl, rfl⟩
  | some f =>
      rw [mounted, Option.map_some, Option.map_eq_some_iff] at reports
      obtain ⟨g, there, same⟩ := reports
      rw [there]
      exact ⟨rfl, congrArg Result.accepted same, rfl⟩

theorem step_alike {step : Step} (length_eq : forms.length = s.forms.length)
    (agree : ∀ i, step.form? = some i → s.Agree forms i)
    (reports : ∀ i, step = .refresh i → forms[i]?.map s.behind = s.forms[i]?.map s.behind) :
    Alike (s.step host step) ((s.withForms forms).step host step) := by
  cases step with
  | refresh i => exact refresh_alike host (agree i rfl) (reports i rfl)
  | write i | touch i | validate i | read i =>
      simp only [Screen.step]
      exact onForm_alike (agree i rfl) fun f => ⟨rfl, rfl, rfl⟩
  | submit i => exact onForm_alike (agree i rfl) fun f => submit_alike host i f
  | openDrawer name payload =>
      cases known : s.drawers.contains name <;>
        simp only [Screen.step, openDrawer, withForms, known] <;> exact ⟨rfl, rfl, rfl⟩
  | mount spec => exact ⟨rfl, congrArg Result.mounted length_eq, rfl⟩
  | execute => exact confirmed_alike ..
  | trigger => exact trigger_alike ..
  | list => exact list_alike
  | reply n r => exact reply_alike host n r
  | cancel n => exact cancel_alike n
  | _ => exact ⟨rfl, rfl, rfl⟩

theorem formChange_withForms (step : Step) :
    (s.withForms forms).formChange host step = s.formChange host step := by
  cases step <;> rfl

theorem formAfter_withForms (step : Step) (i : Nat) (f : Form) :
    (s.withForms forms).formAfter host step i f = s.formAfter host step i f := by
  simp only [formAfter, formChange_withForms]

end DeclaredScreens.Screen
