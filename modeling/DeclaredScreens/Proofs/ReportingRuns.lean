import DeclaredScreens.Proofs.Except
import DeclaredScreens.Proofs.Redirects
import DeclaredScreens.Proofs.Step.Settled
import DeclaredScreens.Proofs.TypedForms

/-! Runs that report. A command that calls the server fetches once at most, however its requests are
answered, and ends by writing an outcome that is no failure just when the run is none. The text of
an outcome tells whether it is a success, and is told apart from notices and questions by its first
and its last character. -/

namespace DeclaredScreens

namespace Outcome

/-- Does a failure stand beside the outcome just when it is no success? -/
def IsHonest (o : Outcome) : Prop := o.success = o.error.isNone

theorem isHonest_ok (data : Option Json) : (ok data).IsHonest := rfl

theorem isHonest_failed (failure : Failure) : (failed failure).IsHonest := rfl

def opening : List Char :=
  '{' :: '\n' :: (Json.indentation 1 ++ Json.quoted "success" ++ [':', ' '])

theorem prettyChars_toJson (o : Outcome) :
    ∃ rest, o.toJson.prettyChars 0 =
      opening ++ ((Json.bool o.success).prettyChars 1 ++ (rest ++ ['}'])) := by
  refine ⟨Json.prettyMemberChars 1 (Json.memberIf "data" o.data ++
    Json.memberIf "error" (o.error.map (·.toJson))) ++ ['\n'], ?_⟩
  simp [toJson, Json.prettyChars, opening, Json.indentation]

variable {o other : Outcome}

theorem success_eq_of_pretty (same : o.toJson.pretty = other.toJson.pretty) :
    o.success = other.success := by
  obtain ⟨rest, text⟩ := o.prettyChars_toJson
  obtain ⟨rest', text'⟩ := other.prettyChars_toJson
  rw [Json.pretty, Json.pretty, String.ofList_inj, text, text', List.append_cancel_left_eq] at same
  cases success : o.success <;> cases success' : other.success <;>
    simp [success, success', Json.prettyChars] at same ⊢

theorem ne_pretty_of_head {line : String} {c : Char} (starts : line.toList.head? = some c)
    (apart : c ≠ '{') : line ≠ o.toJson.pretty := by
  rintro rfl
  obtain ⟨rest, text⟩ := o.prettyChars_toJson
  simp only [Json.pretty, String.toList_ofList, text, opening, List.cons_append, List.head?_cons,
    Option.some.injEq] at starts
  exact apart starts.symm

theorem ne_pretty_of_getLast {line : String} {c : Char} (ends : line.toList.getLast? = some c)
    (apart : c ≠ '}') : line ≠ o.toJson.pretty := by
  rintro rfl
  obtain ⟨rest, text⟩ := o.prettyChars_toJson
  simp only [Json.pretty, String.toList_ofList, text, ← List.append_assoc, List.getLast?_concat,
    Option.some.injEq] at ends
  exact apart ends.symm

end Outcome

theorem Run.question_ne_pretty (message : String) (o : Outcome) :
    question message ≠ o.toJson.pretty :=
  Outcome.ne_pretty_of_getLast (c := ']') (by simp [question]) (by decide)

namespace Session

open Run

/-- Runs that make no call, or one at most if they may, and then write an honest outcome and end as
it says. -/
inductive Reporting (session : Session) : Bool → Run → Prop
  | report (mayCall : Bool) (outcome : Outcome) (honest : outcome.IsHonest) :
      Reporting session mayCall (report outcome)
  | write {mayCall : Bool} (stream : Stream) (line : String) {next : Run}
      (apart : stream = .out → ∀ o : Outcome, line ≠ o.toJson.pretty)
      (later : Reporting session mayCall next) : Reporting session mayCall (.write stream line next)
  | ask {mayCall : Bool} (message : String) {next : Bool → Run}
      (later : ∀ approved, Reporting session mayCall (next approved)) :
      Reporting session mayCall (.ask message next)
  | exchange (call : Call) {next : Reply → Run}
      (later : ∀ reply, Reporting session false (next reply)) :
      Reporting session true (session.exchange call next)

structure Reports (session : Session) (mayCall : Bool) (input : String) (network : Network)
    (run : Run) : Prop where
  requests_eq : (play input network run).requests = [] ∨ mayCall = true ∧ ∃ call : Call,
    (play input network run).requests = (session.origin.fetch network call.url call.request).1
  outcome_shown : ∃ o : Outcome, o.toJson.pretty ∈ shown input network run
  exitCode_eq : ∀ o : Outcome, o.toJson.pretty ∈ shown input network run →
    (play input network run).exitCode = if o.success then 0 else 1

variable (session : Session)

theorem reports_report (mayCall : Bool) (input : String) (network : Network) {outcome : Outcome}
    (honest : outcome.IsHonest) : Reports session mayCall input network (report outcome) := by
  have lines : shown input network (report outcome) = [outcome.toJson.pretty] := rfl
  refine ⟨.inl ?_, ⟨outcome, by simp [lines]⟩, fun o mem => ?_⟩
  · cases failed : outcome.error <;> simp [report, play, Report.line, failed]
  · rw [lines, List.mem_singleton] at mem
    rw [Outcome.success_eq_of_pretty mem, honest]
    cases failed : outcome.error <;> simp [report, play, Report.line, failed]

variable {session} {mayCall : Bool} {run : Run}

theorem Reporting.reports (reporting : Reporting session mayCall run) (input : String)
    (network : Network) : Reports session mayCall input network run := by
  -- What comes before the outcome is no outcome, so only the last line speaks of the exit code.
  induction reporting generalizing network with
  | report mayCall outcome honest => exact session.reports_report mayCall input network honest
  | write stream line apart _ ih =>
      obtain ⟨requests, ⟨outcome, written⟩, exits⟩ := ih network
      cases stream with
      | err => exact ⟨requests, ⟨outcome, written⟩, exits⟩
      | out =>
          refine ⟨requests, ⟨outcome, .tail _ written⟩, fun o mem => ?_⟩
          exact exits o (List.mem_of_ne_of_mem (apart rfl o).symm mem)
  | ask message _ ih =>
      let approved := approves (input.toList.takeWhile (· ≠ '\n'))
      obtain ⟨requests, ⟨outcome, written⟩, exits⟩ := ih approved network
      refine ⟨requests, ⟨outcome, .tail _ written⟩, fun o mem => ?_⟩
      exact exits o (List.mem_of_ne_of_mem (question_ne_pretty message o).symm mem)
  | exchange call _ ih =>
      let fetched := session.origin.fetch network call.url call.request
      obtain ⟨requests, written, exits⟩ :=
        ih (replyOf fetched.2) (network.after fetched.1.length)
      have sendsNoMore := requests.resolve_right fun ⟨called, _⟩ => Bool.false_ne_true called
      refine ⟨.inr ⟨rfl, call, ?_⟩, ?_, ?_⟩
      · rw [play_exchange]
        exact (congrArg (fetched.1 ++ ·) sendsNoMore).trans (List.append_nil _)
      · rwa [shown_exchange]
      · rwa [shown_exchange, play_exchange]

variable (session)

theorem reporting_showEvents (events : List Event) {next : Run}
    (later : Reporting session mayCall next) :
    Reporting session mayCall (showEvents events next) := by
  fun_induction showEvents events next with
  | case1 => exact later
  | case2 message rest ih =>
      exact .write .out _
        (fun _ o => Outcome.ne_pretty_of_head (c := '[') (by simp) (by decide)) ih
  | case3 message rest ih => exact .write .err _ nofun ih
  | case4 event rest _ _ ih => exact ih

def ReportsAs (result : Result) (outcome : Outcome) : Prop :=
  reportResult result = report outcome

/-- A step that comes to an honest outcome, or waits for the reply to a call that will. -/
inductive Concludes (stepped : Stepped) : Prop
  | told (outcome : Outcome) (honest : outcome.IsHonest)
      (reports : ReportsAs stepped.result outcome)
  | waits (number : Nat) (call : Call)
      (reports : ∀ outcome, ReportsAs (call.purpose.told outcome) outcome)
      (result_eq : stepped.result = .waiting number)
      (found : stepped.screen.calls.lookup number = some call)

theorem Concludes.congr {stepped other : Stepped} (concludes : Concludes stepped)
    (screen_eq : other.screen = stepped.screen) (result_eq : other.result = stepped.result) :
    Concludes other := by
  cases concludes with
  | told outcome honest reports => exact .told outcome honest (result_eq ▸ reports)
  | waits number call reports result found =>
      exact .waits number call reports (result_eq.trans result) (screen_eq ▸ found)

theorem answered_told (host : Host) (s : Screen) (purpose : Purpose) (reply : Reply) :
    ∃ outcome : Outcome, outcome.IsHonest ∧
      (Screen.answered host s purpose reply).result = purpose.told outcome := by
  cases reply with
  | rejected causes =>
      exact ⟨_, Outcome.isHonest_failed (.remote causes), by rw [Screen.answered_rejected]⟩
  | response response =>
      cases execution : purpose.isExecution with
      | true =>
          exact ⟨_, Outcome.isHonest_ok response.data, by
            rw [Screen.answered_response host s execution]⟩
      | false =>
          obtain rfl := Purpose.eq_list_of_not_execution execution
          exact ⟨_, Outcome.isHonest_ok (some (response.data.getD (.array []))), rfl⟩

theorem reporting_settle {stepped : Stepped} (concludes : Concludes stepped) :
    Reporting session true (session.settle stepped reportResult) := by
  refine session.reporting_showEvents _ ?_
  cases concludes with
  | told outcome honest reports =>
      split
      · next waits =>
          rw [waits] at reports
          cases reports
      · rw [reports]
        exact .report true outcome honest
  | waits number call reports result found =>
      simp only [result, found]
      refine .exchange call fun reply => session.reporting_showEvents _ ?_
      have answers : stepped.screen.step host (.reply number reply) =
          Screen.answered host (stepped.screen.withoutCall number) call.purpose reply := by
        simp only [Screen.step, Screen.reply, found]
      obtain ⟨outcome, honest, told⟩ :=
        answered_told host (stepped.screen.withoutCall number) call.purpose reply
      rw [answers, told, reports outcome]
      exact .report false outcome honest

section Steps

variable {s : Screen} (idle : s.calls = [])

include idle

theorem concludes_send (forms : List Form) (call : Call)
    (reports : ∀ outcome, ReportsAs (call.purpose.told outcome) outcome) :
    Concludes ({ s with forms := forms }.send call) :=
  .waits s.issued call reports rfl (by simp [Screen.send, idle])

theorem concludes_list : Concludes (s.step host .list) := by
  simp only [Screen.step, Screen.list]
  split
  · exact .told _ (Outcome.isHonest_ok _) rfl
  · split
    · exact concludes_send idle s.forms _ fun _ => rfl
    · exact .told _ (Outcome.isHonest_failed _) rfl

theorem concludes_execute (action : String) (item : Option Record) (payload : Payload)
    (notification : Option Notification) (confirmation : Option Confirmation) :
    Concludes (s.step host (.execute action item payload notification confirmation)) := by
  have executed :
      Concludes (Screen.execute host s action item payload (.execution notification)) := by
    cases found : s.endpointFor action item with
    | ok pair =>
        rw [Screen.execute_registered host s _ action item payload found]
        exact concludes_send idle s.forms _ fun _ => rfl
    | error failure =>
        rw [Screen.execute_unregistered host s _ action item payload found]
        exact .told _ (Outcome.isHonest_failed failure) rfl
  rw [Screen.step]
  rcases Screen.confirmed_cases host s (.execution notification) action item payload
    confirmation with ⟨screen, result⟩ | ⟨-, result⟩
  · exact executed.congr screen result
  · exact .told _ (Outcome.isHonest_failed (.unconfirmed action)) (by rw [result]; rfl)

theorem concludes_submit {i : Nat} {f : Form} (mounted : s.forms[i]? = some f) :
    Concludes (s.step host (.submit i)) := by
  cases Screen.submit_step host s mounted with
  | busy busy same => exact same ▸ .told _ (Outcome.isHonest_failed .inProgress) rfl
  | incomplete idle' lacking same =>
      exact same ▸ .told _ (Outcome.isHonest_failed (.incomplete _)) rfl
  | registered endpoint url idle' complete found same =>
      exact same ▸ concludes_send idle _ _ fun _ => rfl
  | unregistered failure idle' complete absent same =>
      exact same ▸ .told _ (Outcome.isHonest_failed failure) rfl

end Steps

variable {session}

theorem reporting_list : Reporting session true session.list :=
  session.reporting_settle (concludes_list rfl)

theorem reporting_exec {execution : Execution} {run : Run}
    (performed : session.exec execution = .ok run) : Reporting session true run := by
  have executes (item : Option Record) (data : Option Json) (confirmation : Option Confirmation) :
      Reporting session true (session.settle (session.screen.step host
        (.execute execution.action item ⟨data⟩
          (some ⟨execution.success, execution.error⟩) confirmation)) reportResult) :=
    session.reporting_settle (concludes_execute rfl ..)
  simp only [exec] at performed
  obtain ⟨item, -, performed⟩ := ok_of_bind performed
  obtain ⟨data, -, performed⟩ := ok_of_bind performed
  split at performed
  · cases performed
    exact executes item data none
  · cases performed
    exact executes item data _
  · cases performed
    exact .ask _ fun approved => executes item data _

theorem fresh_openDrawerOf {form record : String} {s : Screen}
    (opened : session.openDrawerOf form record = .ok s) : s.forms = [] ∧ s.calls = [] := by
  simp only [openDrawerOf] at opened
  split at opened
  · cases opened
  · obtain ⟨payload, -, opened⟩ := ok_of_bind opened
    have opened := mapError_eq_ok_iff.mp opened
    rw [Screen.openDrawer] at opened
    split at opened
    · cases opened
      exact ⟨rfl, rfl⟩
    · cases opened

theorem reporting_submit {form values : String} {record : Option String} {run : Run}
    (performed : session.submit form values record = .ok run) : Reporting session true run := by
  have submits (s : Screen) (fresh : s.forms = [] ∧ s.calls = []) (spec : FormSpec)
      (values : Record) :
      Reporting session true
        (session.settle ((withForm s spec values).step host (.submit 0)) reportResult) := by
    have idle : (withForm s spec values).calls = [] := by
      rw [withForm_eq fresh.1]
      exact fresh.2
    exact session.reporting_settle (concludes_submit idle (getElem?_withForm fresh.1))
  simp only [submit] at performed
  obtain ⟨element, -, performed⟩ := ok_of_bind performed
  split at performed <;> obtain ⟨screen, opened, performed⟩ := ok_of_bind performed <;>
    obtain ⟨spec, -, performed⟩ := ok_of_bind performed <;>
    obtain ⟨values, -, performed⟩ := ok_of_bind performed <;> cases performed
  · cases opened
    exact submits session.screen ⟨rfl, rfl⟩ spec values
  · exact submits screen (fresh_openDrawerOf opened) spec values

end Session

end DeclaredScreens
