import DeclaredScreens.Proofs.CurrentSeed
import DeclaredScreens.Proofs.SingleSubmission
import DeclaredScreens.Proofs.Step.Alike

/-! Reads put into a run. A read brings its form up to the seed of the moment, so it is more than
an observation: edits over the seed of before are gone, also if that seed comes back. A read goes
unnoticed when the next operation of the run on its form makes the same of it either way, and a
run with such reads goes as it does without them. Any other read shows. -/

namespace DeclaredScreens

def Step.isRefresh : Step → Bool
  | .refresh _ => true
  | _ => false

/-- A step of a run, or a read put in between. -/
inductive Move
  | own (step : Step)
  | peek (form : Nat)

namespace Move

def step : Move → Step
  | own step => step
  | peek i => .read i

def own? : Move → Option Step
  | own step => some step
  | peek _ => none

def told : Move → Stepped → List (Event ⊕ Result)
  | own _, stepped => stepped.events.map .inl ++ [.inr stepped.result]
  | peek _, stepped => stepped.events.map .inl

end Move

namespace Form

variable {f g : Form} {shown next : Record} {refreshed : Bool}

/-- A read while `shown` is the seed makes no difference to a form that is next operated on, or
refreshed, at the seed `next`: it finds nothing to reset, or the seed moves on; or the seed stays
just as it is, or comes back to a form without edits, which only a refresh would report. -/
inductive Unnoticed (f : Form) (shown next : Record) (refreshed : Bool) : Prop
  | upToDate (current : f.isBehind shown = false)
  | movesOn (left : Record.same shown next = false) (apart : Record.same f.seed next = false)
  | stays (same : next = shown) (unreported : refreshed = false)
  | returns (left : Record.same shown next = false) (back : next = f.seed)
      (unedited : f.reset f.seed = f) (unreported : refreshed = false)

theorem catchUp_of_apart (idle : f.submitting = false) (apart : Record.same f.seed next = false) :
    f.catchUp next = f.reset next := by
  simp [catchUp, isBehind, idle, apart]

theorem catchUp_reset (left : Record.same shown next = false) :
    (f.reset shown).catchUp next = f.reset next :=
  catchUp_of_apart rfl left

theorem isBehind_of_apart (idle : f.submitting = false)
    (apart : Record.same f.seed next = false) : f.isBehind next = true := by
  simp [isBehind, idle, apart]

theorem idle_of_isBehind (behind : f.isBehind shown = true) :
    f.submitting = false ∧ Record.same f.seed shown = false := by
  simpa [isBehind] using behind

theorem Unnoticed.catchUp (unnoticed : f.Unnoticed shown next refreshed) :
    (f.catchUp shown).catchUp next = f.catchUp next := by
  cases behind : f.isBehind shown with
  | false => simp [Form.catchUp, behind]
  | true =>
      obtain ⟨idle, away⟩ := idle_of_isBehind behind
      cases unnoticed with
      | upToDate current => simp [behind] at current
      | movesOn left apart =>
          rw [catchUp_of_apart idle away, catchUp_reset left, catchUp_of_apart idle apart]
      | stays same unreported => rw [same, catchUp_catchUp]
      | returns left back unedited unreported =>
          rw [catchUp_of_apart idle away, catchUp_reset left, back, unedited, Form.catchUp]
          split
          · exact unedited.symm
          · rfl

theorem Unnoticed.isBehind (unnoticed : f.Unnoticed shown next refreshed)
    (reported : refreshed = true) : (f.catchUp shown).isBehind next = f.isBehind next := by
  cases behind : f.isBehind shown with
  | false => simp [Form.catchUp, behind]
  | true =>
      obtain ⟨idle, away⟩ := idle_of_isBehind behind
      cases unnoticed with
      | upToDate current => simp [behind] at current
      | movesOn left apart =>
          have again : (f.reset shown).isBehind next = true := isBehind_of_apart rfl left
          rw [catchUp_of_apart idle away, again, isBehind_of_apart idle apart]
      | stays same unreported => simp [reported] at unreported
      | returns left back unedited unreported => simp [reported] at unreported

/-- No other read goes unnoticed: the next operation finds another form, or the refresh reports
something else. -/
theorem unnoticed_iff (reflexive : Record.same shown shown = true) :
    f.Unnoticed shown next refreshed ↔
      (f.catchUp shown).catchUp next = f.catchUp next ∧
        (refreshed = true → (f.catchUp shown).isBehind next = f.isBehind next) := by
  refine ⟨fun unnoticed => ⟨unnoticed.catchUp, unnoticed.isBehind⟩, ?_⟩
  rintro ⟨same, report⟩
  cases behind : f.isBehind shown with
  | false => exact .upToDate behind
  | true =>
      obtain ⟨idle, away⟩ := idle_of_isBehind behind
      rw [catchUp_of_apart idle away] at same report
      cases left : Record.same shown next with
      | true =>
          have kept : (f.reset shown).catchUp next = f.reset shown := by
            simp [Form.catchUp, Form.isBehind, reset, left]
          have seed : shown = (f.catchUp next).seed := congrArg Form.seed (kept.symm.trans same)
          have stays : next = shown := by
            unfold Form.catchUp at seed
            split at seed
            · exact seed.symm
            · simp [← seed, reflexive] at away
          refine .stays stays (Bool.eq_false_iff.mpr fun reported => ?_)
          have fresh : (f.reset shown).isBehind next = false := by
            simp [Form.isBehind, reset, left]
          rw [stays] at report fresh
          simp [← report reported, fresh] at behind
      | false =>
          rw [catchUp_reset left] at same
          cases apart : Record.same f.seed next with
          | false => exact .movesOn left apart
          | true =>
              have kept : f.isBehind next = false := by simp [Form.isBehind, apart]
              rw [show f.catchUp next = f by simp [Form.catchUp, kept]] at same
              have back : next = f.seed := congrArg Form.seed same
              refine .returns left back (back ▸ same) (Bool.eq_false_iff.mpr fun reported => ?_)
              have again : (f.reset shown).isBehind next = true := isBehind_of_apart rfl left
              simp [report reported, kept] at again

/-- Two forms that an operation, or a refresh, at the seed `next` finds the same. -/
structure Matches (f g : Form) (next : Record) (refreshed : Bool) : Prop where
  spec_eq : g.spec = f.spec
  submitting_eq : g.submitting = f.submitting
  catchUp_eq : g.catchUp next = f.catchUp next
  isBehind_eq : refreshed = true → g.isBehind next = f.isBehind next

theorem Matches.refl (f : Form) (next : Record) (refreshed : Bool) : f.Matches f next refreshed :=
  ⟨rfl, rfl, rfl, fun _ => rfl⟩

theorem Matches.eq_of_submitting (same : f.Matches g next refreshed)
    (busy : f.submitting = true) : g = f := by
  have caught := same.catchUp_eq
  rwa [catchUp_of_submitting (same.submitting_eq.trans busy), catchUp_of_submitting busy] at caught

theorem Matches.peek (same : f.Matches g next refreshed)
    (unnoticed : g.Unnoticed shown next refreshed) :
    f.Matches (g.catchUp shown) next refreshed where
  spec_eq := (catchUp_spec ..).trans same.spec_eq
  submitting_eq := (catchUp_submitting ..).trans same.submitting_eq
  catchUp_eq := unnoticed.catchUp.trans same.catchUp_eq
  isBehind_eq reported := (unnoticed.isBehind reported).trans (same.isBehind_eq reported)

end Form

namespace Screen

variable (host : Host)

def nextSeed (i : Nat) (spec : FormSpec) : Screen → List Step → Record
  | s, [] => s.seedFor spec
  | s, step :: later =>
      if step.form? = some i then s.seedFor spec
      else nextSeed i spec (s.step host step).screen later

def nextIsRefresh (i : Nat) : List Step → Bool
  | [] => false
  | step :: later => if step.form? = some i then step.isRefresh else nextIsRefresh i later

def trace : Screen → List Move → List (Event ⊕ Result)
  | _, [] => []
  | s, move :: rest =>
      move.told (s.step host move.step) ++ trace (s.step host move.step).screen rest

/-- Every read of a form on the active record goes unnoticed. The form is the one that the moves
leave, reads and all; the operation that comes next on it is that of the run without them. -/
def ReadsUnnoticed : Screen → Screen → List Move → Prop
  | _, _, [] => True
  | s, watched, .own step :: rest =>
      ReadsUnnoticed (s.step host step).screen (watched.step host step).screen rest
  | s, watched, .peek i :: rest =>
      let later := rest.filterMap Move.own?
      (∀ f, watched.forms[i]? = some f → f.spec.usesActiveRecord = true →
        f.Unnoticed (watched.seedFor f.spec) (nextSeed host i f.spec s later)
          (nextIsRefresh i later)) ∧
      ReadsUnnoticed s (watched.step host (.read i)).screen rest

/-- The forms match those of the screen, each for the operation that comes next on it. -/
structure Mirrors (s : Screen) (forms : List Form) (later : List Step) : Prop where
  length_eq : forms.length = s.forms.length
  matching : ∀ i (f g : Form), s.forms[i]? = some f → forms[i]? = some g →
    f.Matches g (nextSeed host i f.spec s later) (nextIsRefresh i later)

variable {host} {s : Screen} {forms : List Form} {step : Step} {later : List Step} {i : Nat}
  {f g : Form}

theorem formAfter_of_current (operates : step.form? = some i) (same : s.current g = s.current f) :
    s.formAfter host step i g = s.formAfter host step i f := by
  cases step <;> cases operates <;> simp [formAfter, formChange, same]

theorem matches_formAfter (single : s.SingleFlight i) (mounted : s.forms[i]? = some f)
    (same : f.Matches g (nextSeed host i f.spec s (step :: later))
      (nextIsRefresh i (step :: later))) :
    (s.formAfter host step i f).Matches (s.formAfter host step i g)
      (nextSeed host i f.spec (s.step host step).screen later) (nextIsRefresh i later) := by
  by_cases operates : step.form? = some i
  · have current : s.current g = s.current f := by
      have caught := same.catchUp_eq
      rw [nextSeed, if_pos operates] at caught
      simpa [Screen.current, same.spec_eq] using caught
    rw [formAfter_of_current operates current]
    exact .refl ..
  · cases ended : s.ends step i with
    | true =>
        rw [same.eq_of_submitting (submitting_of_ends single mounted ended)]
        exact .refl ..
    | false =>
        rw [nextSeed, nextIsRefresh, if_neg operates, if_neg operates] at same
        rwa [formAfter_of_other host operates ended, formAfter_of_other host operates ended]

theorem Mirrors.map_eq {α : Type} (mirrors : Mirrors host s forms later) (part : Form → α)
    (same : ∀ f g, f.Matches g (nextSeed host i f.spec s later) (nextIsRefresh i later) →
      part g = part f) : forms[i]?.map part = s.forms[i]?.map part := by
  cases mounted : s.forms[i]? with
  | none =>
      have bound := List.getElem?_eq_none_iff.mp mounted
      rw [List.getElem?_eq_none_iff.mpr (mirrors.length_eq ▸ bound)]
  | some f =>
      have bound := (List.getElem?_eq_some_iff.mp mounted).1
      have there := List.getElem?_eq_getElem (mirrors.length_eq ▸ bound)
      rw [there, Option.map_some, Option.map_some, same f _ (mirrors.matching i f _ mounted there)]

theorem Mirrors.agree (mirrors : Mirrors host s forms later)
    (now : ∀ spec, nextSeed host i spec s later = s.seedFor spec) : s.Agree forms i := by
  refine mirrors.map_eq s.current fun f g same => ?_
  have caught := same.catchUp_eq
  rw [now] at caught
  rw [Screen.current, Screen.current, same.spec_eq, caught]

theorem Mirrors.reports (mirrors : Mirrors host s forms (.refresh i :: later)) :
    forms[i]?.map s.behind = s.forms[i]?.map s.behind := by
  refine mirrors.map_eq s.behind fun f g same => ?_
  have reported := same.isBehind_eq
  simp only [nextSeed, nextIsRefresh, Step.form?, if_true] at reported
  rw [Screen.behind, Screen.behind, same.spec_eq, reported rfl]

theorem length_formsChanged : (s.formsChanged host step).length = s.forms.length := by
  unfold formsChanged
  split <;> simp

theorem Mirrors.alike (mirrors : Mirrors host s forms (step :: later)) :
    Alike (s.step host step) ((s.withForms forms).step host step) := by
  refine step_alike host mirrors.length_eq (fun i operates => ?_) ?_
  · exact mirrors.agree fun spec => by rw [nextSeed, if_pos operates]
  · rintro i rfl
    exact mirrors.reports

theorem Mirrors.own (mirrors : Mirrors host s forms (step :: later))
    (single : ∀ i, s.SingleFlight i) :
    Mirrors host (s.step host step).screen ((s.withForms forms).step host step).screen.forms
      later := by
  have length := mirrors.length_eq
  constructor
  · rw [forms_step, forms_step, List.length_append, List.length_append, length_formsChanged,
      length_formsChanged]
    exact congrArg (· + _) length
  · intro i f g mounted there
    rcases form_step_cases host s mounted with ⟨f, before, rfl⟩ | ⟨spec, rfl, last, rfl⟩ <;>
      rcases form_step_cases host _ there with ⟨g, before', rfl⟩ | ⟨spec', same, last', rfl⟩
    · rw [formAfter_withForms, formAfter_spec]
      exact matches_formAfter (single i) before (mirrors.matching i f g before before')
    -- Both lists are as long, so a form that is new in one is new in the other.
    · have bound := (List.getElem?_eq_some_iff.mp before).1
      simp only [withForms] at last'
      omega
    · have bound := (List.getElem?_eq_some_iff.mp before').1
      simp only [withForms] at bound
      omega
    · cases same
      exact .refl ..

theorem read_screen (i : Nat) :
    (s.step host (.read i)).screen = s.withForms (s.forms.modify i s.current) ∧
      (s.step host (.read i)).events = [] := by
  simp only [Screen.step, onForm]
  cases mounted : s.forms[i]? with
  | none =>
      rw [List.modify_eq_self (List.getElem?_eq_none_iff.mp mounted)]
      exact ⟨rfl, rfl⟩
  | some f =>
      rw [← forms_set s mounted]
      exact ⟨rfl, rfl⟩

theorem Mirrors.peek (mirrors : Mirrors host s forms later)
    (unnoticed : ∀ g, forms[i]? = some g →
      g.Unnoticed (s.seedFor g.spec) (nextSeed host i g.spec s later) (nextIsRefresh i later)) :
    Mirrors host s (forms.modify i s.current) later := by
  refine ⟨(List.length_modify ..).trans mirrors.length_eq, fun j f g mounted there => ?_⟩
  rw [List.getElem?_modify, Option.map_eq_map, Option.map_eq_some_iff] at there
  obtain ⟨before, there, rfl⟩ := there
  have same := mirrors.matching j f before mounted there
  split
  · next here =>
      subst here
      refine same.peek ?_
      rw [← same.spec_eq]
      exact unnoticed before there
  · exact same

theorem trace_run (moves : List Move) (distinct : ∀ move ∈ moves, move.step.isDistinct = true)
    (single : ∀ i, s.SingleFlight i) (seeds : (s.withForms forms).SeedsDistinct)
    (onDefaults : (s.withForms forms).InactiveOnDefaults)
    (mirrors : Mirrors host s forms (moves.filterMap Move.own?))
    (unnoticed : ReadsUnnoticed host s (s.withForms forms) moves) :
    trace host (s.withForms forms) moves =
        trace host s ((moves.filterMap Move.own?).map .own) ∧
      ∃ after, run host (s.withForms forms) (moves.map Move.step) =
          (run host s (moves.filterMap Move.own?)).withForms after ∧
        Mirrors host (run host s (moves.filterMap Move.own?)) after [] := by
  -- Between the moves the forms of the two runs may differ, but match for what comes next.
  induction moves generalizing s forms with
  | nil => exact ⟨rfl, forms, rfl, mirrors⟩
  | cons move rest ih =>
      have proper := distinct move (.head _)
      have seeds' := seeds.step host proper
      have onDefaults' := inactiveOnDefaults_step host onDefaults move.step
      have restDistinct : ∀ later ∈ rest, later.step.isDistinct = true := fun later mem =>
        distinct later (.tail _ mem)
      cases move with
      | own step =>
          have alike := Mirrors.alike mirrors
          have mirrors := Mirrors.own mirrors single
          rw [ReadsUnnoticed, alike.screen_eq] at unnoticed
          rw [Move.step, alike.screen_eq] at seeds' onDefaults'
          obtain ⟨traces, last, screens, matching⟩ := ih restDistinct
            (fun i => singleFlight_step host (single i)) seeds' onDefaults' mirrors unnoticed
          refine ⟨?_, last, ?_, matching⟩
          · simp only [trace, Move.told, Move.step, List.filterMap_cons, Move.own?, List.map_cons]
            rw [alike.events_eq, alike.result_eq, alike.screen_eq, traces]
          · simp only [List.map_cons, Move.step, run_cons, List.filterMap_cons, Move.own?]
            rw [alike.screen_eq, screens]
      | peek i =>
          obtain ⟨here, unnoticed⟩ := unnoticed
          have silent : ((s.withForms forms).step host (.read i)).events = [] := (read_screen i).2
          have screen : ((s.withForms forms).step host (.read i)).screen =
              s.withForms (forms.modify i s.current) := (read_screen i).1
          rw [screen] at unnoticed
          rw [Move.step, screen] at seeds' onDefaults'
          have mirrors : Mirrors host s (forms.modify i s.current) (rest.filterMap Move.own?) := by
            refine Mirrors.peek mirrors fun g there => ?_
            cases active : g.spec.usesActiveRecord with
            | true => exact here g there active
            | false => exact .upToDate (onDefaults.upToDate seeds there active)
          obtain ⟨traces, last, screens, matching⟩ :=
            ih restDistinct single seeds' onDefaults' mirrors unnoticed
          refine ⟨?_, last, ?_, matching⟩
          · simp only [trace, Move.told, Move.step, silent, List.map_nil, List.nil_append]
            rw [screen, traces]
            rfl
          · simp only [List.map_cons, Move.step, run_cons]
            rw [screen, screens]
            rfl

/-- A run with reads that go unnoticed tells what the run tells without them, ends in a screen
that differs in its forms at most, and has every form read alike at the end. -/
theorem unnoticed_reads_leave_run (host : Host) (schema : Schema) (moves : List Move)
    (distinct : ∀ move ∈ moves, move.step.isDistinct = true)
    (unnoticed : ReadsUnnoticed host (ofSchema schema) (ofSchema schema) moves) :
    let own := moves.filterMap Move.own?
    let bare := run host (ofSchema schema) own
    let watched := run host (ofSchema schema) (moves.map Move.step)
    trace host (ofSchema schema) moves = trace host (ofSchema schema) (own.map .own) ∧
    watched = bare.withForms watched.forms ∧
    ∀ i, (watched.step host (.read i)).result = (bare.step host (.read i)).result := by
  intro own bare watched
  have initial : Mirrors host (ofSchema schema) [] own := ⟨rfl, by simp [ofSchema]⟩
  have seeds : (ofSchema schema).SeedsDistinct :=
    ⟨by simp [ofSchema, Drawer.payload], by simp [ofSchema]⟩
  obtain ⟨traces, after, screen, matching⟩ := trace_run moves distinct
    (run_singleFlight host schema []) seeds (run_inactiveOnDefaults host schema []) initial unnoticed
  have screen : watched = bare.withForms after := screen
  refine ⟨traces, by rw [screen]; rfl, fun i => ?_⟩
  have alike : Alike (bare.step host (.read i)) ((bare.withForms after).step host (.read i)) := by
    simp only [Screen.step]
    exact onForm_alike (matching.agree fun _ => rfl) fun f => ⟨rfl, rfl, rfl⟩
  rw [screen]
  exact alike.result_eq

def browsing : List Move :=
  [.own (.openDrawer "edit" (some (Record.contact "1" "Ann"))), .own (.mount .contact),
    .own (.write 0 "name" (.string "Anna")),
    .own (.openDrawer "edit" (some (Record.contact "2" "Bob"))), .peek 0,
    .own (.pick (Record.contact "3" "Carol")), .peek 0,
    .own (.write 0 "name" (.string "Carola")), .peek 0]

theorem reads_while_browsing_leave_run :
    (∀ move ∈ browsing, move.step.isDistinct = true) ∧
    ReadsUnnoticed .plain (ofSchema .contacts) (ofSchema .contacts) browsing ∧
    trace .plain (ofSchema .contacts) browsing =
      trace .plain (ofSchema .contacts) ((browsing.filterMap Move.own?).map .own) ∧
    ((run .plain (ofSchema .contacts) (browsing.map Move.step)).step .plain (.read 0)).result =
      ((run .plain (ofSchema .contacts) (browsing.filterMap Move.own?)).step .plain
        (.read 0)).result := by
  have unnoticed : ReadsUnnoticed .plain (ofSchema .contacts) (ofSchema .contacts) browsing := by
    have moving : Record.same (Record.contact "2" "Bob") (Record.contact "3" "Carol") = false ∧
        Record.same (Record.contact "1" "Ann") (Record.contact "3" "Carol") = false := by decide
    refine ⟨fun f mounted _ => ?_, fun f mounted _ => ?_, fun f mounted _ => ?_, trivial⟩
    · cases mounted
      exact .movesOn moving.1 moving.2
    · cases mounted
      exact .stays rfl rfl
    · cases mounted
      exact .upToDate (by decide)
  have distinct : ∀ move ∈ browsing, move.step.isDistinct = true := by decide
  obtain ⟨traces, -, reads⟩ :=
    unnoticed_reads_leave_run .plain .contacts browsing distinct unnoticed
  exact ⟨distinct, unnoticed, traces, reads 0⟩

theorem formsChanged_set (other : step.form? ≠ some i) (unended : s.ends step i = false) :
    (s.withForms (s.forms.set i g)).formsChanged host step =
      (s.formsChanged host step).set i g := by
  have kept (h : Form) := formAfter_of_other host (f := h) other unended
  rw [formsChanged, formsChanged, formChange_withForms]
  simp only [formAfter] at kept
  cases changed : s.formChange host step with
  | none => rfl
  | some operation =>
      obtain ⟨j, change⟩ := operation
      apply List.ext_getElem?
      intro k
      simp only [withForms, List.getElem?_modify, List.getElem?_set, List.length_modify]
      by_cases here : i = k
      · subst here
        by_cases same : j = i <;> simp_all
      · simp [here]

theorem step_set (other : step.form? ≠ some i) (unended : s.ends step i = false)
    (bound : i < s.forms.length) :
    ((s.withForms (s.forms.set i g)).step host step).screen =
      (s.step host step).screen.withForms ((s.step host step).screen.forms.set i g) := by
  have apart {j : Nat} (operates : step.form? = some j) :
      (s.forms.set i g)[j]? = s.forms[j]? :=
    List.getElem?_set_ne fun same => other (operates.trans (congrArg some same.symm))
  have alike : Alike (s.step host step) ((s.withForms (s.forms.set i g)).step host step) := by
    refine step_alike host (List.length_set ..) (fun j operates => ?_) ?_
    · rw [Agree, apart operates]
    · rintro j rfl
      rw [apart rfl]
  rw [alike.screen_eq, forms_step, forms_step, formsChanged_set other unended,
    List.set_append_left]
  · rfl
  · rwa [length_formsChanged]

theorem run_set (host : Host) (g : Form) (single : s.SingleFlight i)
    (mounted : s.forms[i]? = some f) (idle : f.submitting = false)
    (others : ∀ step ∈ later, step.form? ≠ some i) :
    run host (s.withForms (s.forms.set i g)) later =
        (run host s later).withForms ((run host s later).forms.set i g) ∧
      (run host s later).forms[i]? = some f := by
  induction later generalizing s with
  | nil => exact ⟨rfl, mounted⟩
  | cons step rest ih =>
      have other := others step (.head _)
      -- A reply ends a submission of the form only if it is the reply that the form waits for, and
      -- an idle form waits for none.
      have unended : s.ends step i = false := Bool.eq_false_iff.mpr fun ended => by
        simp [submitting_of_ends single mounted ended] at idle
      have bound := (List.getElem?_eq_some_iff.mp mounted).1
      have kept : (s.step host step).screen.forms[i]? = some f := by
        rw [form_step host s mounted, formAfter_of_other host other unended]
      rw [run_cons, run_cons, step_set other unended bound]
      exact ih (singleFlight_step host single) kept fun step mem => others step (.tail _ mem)

theorem read_result (mounted : s.forms[i]? = some f) :
    (s.step host (.read i)).result = .form (s.current f) := by
  simp only [Screen.step, onForm, mounted]
  rfl

theorem refresh_result (mounted : s.forms[i]? = some f) :
    (s.step host (.refresh i)).result = .accepted (s.behind f) := by
  simp only [Screen.step, mounted]
  rfl

theorem read_screen_of_submitting (mounted : s.forms[i]? = some f) (busy : f.submitting = true) :
    (s.step host (.read i)).screen = s := by
  obtain ⟨bound, rfl⟩ := List.getElem?_eq_some_iff.mp mounted
  have unchanged : s.forms.modify i s.current = s.forms := by
    rw [← forms_set s mounted, Screen.current, Form.catchUp_of_submitting busy]
    exact List.set_getElem_self bound
  rw [(read_screen i).1, unchanged]
  rfl

theorem results_of_read (single : s.SingleFlight i) (mounted : s.forms[i]? = some f)
    (idle : f.submitting = false) (others : ∀ step ∈ later, step.form? ≠ some i) :
    let next := (run host s later).seedFor f.spec
    let watched := run host (s.step host (.read i)).screen later
    ((run host s later).step host (.read i)).result = .form (f.catchUp next) ∧
    (watched.step host (.read i)).result = .form ((s.current f).catchUp next) ∧
    ((run host s later).step host (.refresh i)).result = .accepted (f.isBehind next) ∧
    (watched.step host (.refresh i)).result = .accepted ((s.current f).isBehind next) := by
  intro next watched
  have read : (s.step host (.read i)).screen = s.withForms (s.forms.set i (s.current f)) := by
    rw [(read_screen i).1, ← forms_set s mounted]
  obtain ⟨same, bare⟩ := run_set host (s.current f) single mounted idle others
  have screen : watched = _ := (congrArg (run host · later) read).trans same
  have shown : watched.forms[i]? = some (s.current f) := by
    rw [screen]
    exact List.getElem?_set_self (List.getElem?_eq_some_iff.mp bare).1
  have seed : watched.seedFor (s.current f).spec = next := by
    rw [screen, show (s.current f).spec = f.spec from f.catchUp_spec _]
    rfl
  rw [read_result bare, refresh_result bare, read_result shown, refresh_result shown,
    Screen.current, behind, Screen.current, behind, seed]
  exact ⟨rfl, rfl, rfl, rfl⟩

/-- Where a run leaves a form alone behind a read of it, the read goes unnoticed just when the form
is shown as it is without it, and when a refresh, if one is next, reports the same. -/
theorem read_unnoticed_iff (host : Host) (schema : Schema) (earlier : List Step)
    (distinct : ∀ step ∈ earlier, step.isDistinct = true)
    (mounted : (run host (ofSchema schema) earlier).forms[i]? = some f)
    (others : ∀ step ∈ later, step.form? ≠ some i) (refreshed : Bool) :
    let s := run host (ofSchema schema) earlier
    let bare := run host s later
    let watched := run host (s.step host (.read i)).screen later
    f.Unnoticed (s.seedFor f.spec) (bare.seedFor f.spec) refreshed ↔
      (watched.step host (.read i)).result = (bare.step host (.read i)).result ∧
      (refreshed = true →
        (watched.step host (.refresh i)).result = (bare.step host (.refresh i)).result) := by
  intro s bare watched
  cases busy : f.submitting with
  | true =>
      have same : watched = bare :=
        congrArg (run host · later) (read_screen_of_submitting mounted busy)
      have upToDate : f.isBehind (s.seedFor f.spec) = false := by simp [Form.isBehind, busy]
      simp [same, Form.Unnoticed.upToDate upToDate]
  | false =>
      have seeds : s.SeedsDistinct := (run_edited host schema earlier distinct i).1
      have reflexive : Record.same (s.seedFor f.spec) (s.seedFor f.spec) = true :=
        Record.same_refl (seed_isDistinct seeds.payload (seeds.defaults i f mounted))
      obtain ⟨shown, shown', reported, reported'⟩ :=
        results_of_read (run_singleFlight host schema earlier i) mounted busy others
      rw [Form.unnoticed_iff reflexive, shown, shown', reported, reported', Result.form.injEq,
        Result.accepted.injEq]
      rfl

def reopening : List Move :=
  [.own (.openDrawer "edit" (some (Record.contact "1" "Ann"))), .own (.mount .contact),
    .own (.write 0 "name" (.string "Anna")), .own .closeDrawer, .peek 0,
    .own (.openDrawer "edit" (some (Record.contact "1" "Ann")))]

/-- The read of the closed drawer loses the edit, and leaves a refresh nothing to report. -/
theorem read_of_closed_drawer_loses_edit :
    ((run .plain (ofSchema .contacts) (reopening.map Move.step)).step .plain (.read 0)).result =
      .form ⟨.contact, Record.contact "1" "Ann", [], [], false, Record.contact "1" "Ann",
        Record.contact "1" "Ann"⟩ ∧
    ((run .plain (ofSchema .contacts) (reopening.filterMap Move.own?)).step .plain
        (.read 0)).result =
      .form ⟨.contact, Record.contact "1" "Anna", [], [], false, Record.contact "1" "Ann",
        Record.contact "1" "Ann"⟩ ∧
    ((run .plain (ofSchema .contacts) ((reopening.take 5).map Move.step)).step .plain
        (.refresh 0)).result = .accepted false ∧
    ((run .plain (ofSchema .contacts) ((reopening.take 5).filterMap Move.own?)).step .plain
        (.refresh 0)).result = .accepted true := by
  refine ⟨rfl, rfl, rfl, rfl⟩

end Screen

end DeclaredScreens
