import DeclaredScreens.Proofs.Step.Calls
import DeclaredScreens.Proofs.Step.Frame

/-! Runs of a screen, and what is remembered of a run beside its screen. A memory is kept by
noting every step in the screen that it is taken in, so that claims about the past of a run are
claims about its memory; an invariant ties the two together step by step. -/

namespace DeclaredScreens

/-- A host whose server takes its time, with a user in front. -/
def Host.plain : Host := ⟨id, true, fun _ => none⟩

def Schema.contacts : Schema where
  baseUrl := "/api/contacts"
  api := ((Directory.empty.insert "index" ⟨"GET", ""⟩).insert "create" ⟨"POST", ""⟩).insert
    "update" ⟨"PUT", ":id"⟩
  drawers := Directory.empty.insert "edit" ⟨none, none, []⟩
  elements := []

def Record.contact (id name : String) : Record := [("id", .string id), ("name", .string name)]

def FormSpec.contact : FormSpec := ⟨none, true, none, none, ["name"]⟩

namespace Screen

variable {α : Type} (host : Host) (s : Screen)

@[simp] theorem run_nil : run host s [] = s := rfl

@[simp] theorem run_cons (step : Step) (rest : List Step) :
    run host s (step :: rest) = run host (s.step host step).screen rest := rfl

theorem run_append (first second : List Step) :
    run host s (first ++ second) = run host (run host s first) second :=
  List.foldl_append

def remember (note : Screen → Step → α → α) : Screen → α → List Step → α
  | _, memory, [] => memory
  | s, memory, step :: rest =>
      remember note (s.step host step).screen (note s step memory) rest

variable (note : Screen → Step → α → α) (memory : α)

@[simp] theorem remember_nil : remember host note s memory [] = memory := rfl

@[simp] theorem remember_cons (step : Step) (rest : List Step) :
    remember host note s memory (step :: rest) =
      remember host note (s.step host step).screen (note s step memory) rest := rfl

theorem remember_append (first second : List Step) :
    remember host note s memory (first ++ second) =
      remember host note (run host s first) (remember host note s memory first) second := by
  induction first generalizing s memory with
  | nil => rfl
  | cons step rest ih => exact ih (s.step host step).screen (note s step memory)

/-- What every step of a kind preserves of screen and memory, a run of such steps preserves. -/
theorem remember_invariant (proper : Step → Prop) (invariant : Screen → α → Prop)
    (preserved : ∀ s memory step, proper step → invariant s memory →
      invariant (s.step host step).screen (note s step memory))
    (initial : invariant s memory) (steps : List Step) (allProper : ∀ step ∈ steps, proper step) :
    invariant (run host s steps) (remember host note s memory steps) := by
  induction steps generalizing s memory with
  | nil => exact initial
  | cons step rest ih =>
      refine ih _ _ ?_ fun later mem => allProper later (.tail _ mem)
      exact preserved s memory step (allProper step (.head _)) initial

theorem run_invariant (proper : Step → Prop) (invariant : Screen → Prop)
    (preserved : ∀ s step, proper step → invariant s → invariant (s.step host step).screen)
    (initial : invariant s) (steps : List Step) (allProper : ∀ step ∈ steps, proper step) :
    invariant (run host s steps) :=
  remember_invariant host s (fun _ _ _ => ()) () proper (fun s _ => invariant s)
    (fun s _ step => preserved s step) initial steps allProper

def Throughout (proper : Screen → Step → Prop) : Screen → List Step → Prop
  | _, [] => True
  | s, step :: rest => proper s step ∧ Throughout proper (s.step host step).screen rest

theorem throughout_invariant (proper : Screen → Step → Prop) (invariant : Screen → Prop)
    (preserved : ∀ s step, proper s step → invariant s → invariant (s.step host step).screen)
    (initial : invariant s) (steps : List Step) (throughout : Throughout host proper s steps) :
    invariant (run host s steps) := by
  induction steps generalizing s with
  | nil => exact initial
  | cons step rest ih => exact ih _ (preserved s step throughout.1 initial) throughout.2

theorem lookup_run {s : Screen} {n : Nat} {call : Call} (waiting : s.calls.lookup n = some call)
    (steps : List Step) (unfinished : ∀ step ∈ steps, step.finishes n = false) :
    (run host s steps).calls.lookup n = some call :=
  run_invariant host s (·.finishes n = false) (·.calls.lookup n = some call)
    (fun _ _ other there => lookup_step host there other) waiting steps unfinished

theorem issued_le_run (steps : List Step) : s.issued ≤ (run host s steps).issued :=
  run_invariant host s (fun _ => True) (s.issued ≤ ·.issued)
    (fun _ _ _ before => Nat.le_trans before (issued_le_step host)) (Nat.le_refl _) steps (by simp)

theorem run_keeps {β : Type} (part : Screen → β)
    (kept : ∀ s step, part (s.step host step).screen = part s) (steps : List Step) :
    part (run host s steps) = part s :=
  run_invariant host s (fun _ => True) (part · = part s)
    (fun _ _ _ same => (kept _ _).trans same) rfl steps (by simp)

@[simp] theorem baseUrl_run (steps : List Step) : (run host s steps).baseUrl = s.baseUrl :=
  run_keeps host s (·.baseUrl) (baseUrl_step host) steps

@[simp] theorem registry_run (steps : List Step) : (run host s steps).registry = s.registry :=
  run_keeps host s (·.registry) (registry_step host) steps

@[simp] theorem drawers_run (steps : List Step) : (run host s steps).drawers = s.drawers :=
  run_keeps host s (·.drawers) (drawers_step host) steps

theorem run_numbered (schema : Schema) (steps : List Step) :
    (run host (ofSchema schema) steps).Numbered :=
  run_invariant host (ofSchema schema) (fun _ => True) Numbered
    (fun _ _ _ numbered => numbered_step host numbered)
    ⟨by simp [ofSchema], by simp [ofSchema]⟩ steps (by simp)

end Screen

end DeclaredScreens
