import DeclaredScreens.Proofs.FetchedReplies
import DeclaredScreens.Proofs.ReadSchemas
import DeclaredScreens.Proofs.ReportingRuns

/-! The exit code of a command line. What calls the server reports, what does not call it sends
nothing, and whatever is wrong before ends the run without either. A validation asks the required
fields of its form for the values that were typed over the default ones; no drawer is open then, and
a schema that has been read names each default value once, so the form keeps what was typed. -/

namespace DeclaredScreens

def Command.callsServer : Command → Bool
  | .resolve _ | .validate _ _ => false
  | .submit _ _ _ | .exec _ | .list => true

namespace Session

open Run

variable {session : Session} {run : Run} (input : String) (network : Network)

theorem reporting_perform {command : Command} (calls : command.callsServer = true)
    (performed : session.perform command = .ok run) : Reporting session true run := by
  cases command with
  | resolve record | validate form values => cases calls
  | submit form values record => exact reporting_submit performed
  | exec execution => exact reporting_exec performed
  | list => cases performed; exact reporting_list

theorem requests_reportMissing (form : Option Form) (fields : List String) :
    (play input network (reportMissing form fields)).requests = [] := by
  cases fields with
  | nil => rfl
  | cons name rest =>
      simp only [reportMissing, play_writeAll]
      rfl

theorem exitCode_reportMissing (form : Option Form) (fields : List String) :
    (play input network (reportMissing form fields)).exitCode = 0 ↔ fields = [] := by
  cases fields with
  | nil => exact iff_of_true rfl rfl
  | cons name rest =>
      refine iff_of_false ?_ (List.cons_ne_nil _ _)
      simp [reportMissing, play_writeAll, Run.fail, play]

theorem requests_perform {command : Command} (offline : command.callsServer = false)
    (performed : session.perform command = .ok run) : (play input network run).requests = [] := by
  cases command with
  | submit form values record | exec execution | list => cases offline
  | resolve record =>
      obtain ⟨members, -, performed⟩ := ok_of_bind performed
      cases performed
      rw [play_writeAll]
      rfl
  | validate form values =>
      obtain ⟨e, -, performed⟩ := ok_of_bind performed
      obtain ⟨spec, -, performed⟩ := ok_of_bind performed
      obtain ⟨typed, -, performed⟩ := ok_of_bind performed
      dsimp only at performed
      split at performed <;> cases performed
      · exact requests_reportMissing input network _ _
      · rfl

theorem distinct_of_readRecord {option text : String} {record : Record}
    (read : readRecord option text = .ok record) : Record.isDistinct record = true := by
  obtain ⟨j, document, read⟩ := ok_of_bind read
  rw [readDocument] at document
  split at document
  · next found =>
      cases document
      split at read
      · cases read
        exact Json.isDistinct_of_ofText? found
      · cases read
  · cases document

theorem findElement?_of_element {id : String} {e : Element} (found : session.element id = .ok e) :
    session.schema.findElement? id = some e := by
  rw [element] at found
  split at found
  · next here => cases found; exact here
  · cases found

theorem ofElement?_of_formSpec {id : String} {e : Element} {spec : FormSpec}
    (declared : formSpec id e = .ok spec) : FormSpec.ofElement? e = some spec := by
  rw [formSpec] at declared
  split at declared
  · next here => cases declared; exact here
  · cases declared

theorem validate_reports {form values : String} {e : Element} {spec : FormSpec} {typed : Record}
    (distinct : session.schema.isDistinct = true) (found : session.element form = .ok e)
    (declared : formSpec form e = .ok spec) (read : readRecord "values" values = .ok typed) :
    ∃ shown, session.perform (.validate form values) =
      .ok (reportMissing shown (spec.requiredFields.filter fun name =>
        Json.isBlank ((typed.lookup name).or ((spec.defaults.getD []).lookup name)))) := by
  have seed : session.screen.seedFor spec = spec.defaults.getD [] := by
    cases active : spec.usesActiveRecord <;> simp [Screen.seedFor, FormSpec.seed, active, screen,
      Screen.ofSchema, Drawer.payload]
  have declaredOnce : e.isDistinct = true :=
    Schema.distinct_of_findElement? distinct (findElement?_of_element found)
  have asked := validate_typed (s := session.screen) rfl
    (seed ▸ FormSpec.distinct_of_ofElement? declaredOnce (ofElement?_of_formSpec declared))
    (Record.nodup_names (distinct_of_readRecord read))
  rw [seed] at asked
  refine ⟨((withForm session.screen spec typed).step host (.validate 0)).screen.forms[0]?, ?_⟩
  simp only [perform, validate, found, declared, read, bind, Except.bind, asked]
  rfl

end Session

namespace Invocation

open Run

variable {i : Invocation} {files : String → FileText} {env : Environment}

/-- A validation that gets as far as its check: settings, schema and origin are in order, there is
such a form, and the values are a record. -/
inductive ReachesCheck (i : Invocation) (files : String → FileText) (env : Environment)
    (spec : FormSpec) (typed : Record) : Prop
  | intro (form values : String) (settings : Settings) (session : Session) (e : Element)
      (command_eq : i.command = .validate form values)
      (settled : i.settings (files i.config) env = .ok settings)
      (opened : i.session settings (files i.schema) = .ok session)
      (found : session.element form = .ok e) (declared : Session.formSpec form e = .ok spec)
      (read : Session.readRecord "values" values = .ok typed)

theorem distinct_of_session {settings : Settings} {schema : FileText} {session : Session}
    (opened : i.session settings schema = .ok session) : session.schema.isDistinct = true := by
  obtain ⟨declared, read, opened⟩ := ok_of_bind opened
  obtain ⟨origin, -, opened⟩ := ok_of_bind opened
  cases opened
  unfold readSchema at read
  split at read
  · cases read
  · cases read
  · exact Schema.isDistinct_of_ofText (mapError_eq_ok_iff.mp read)

theorem run_of_session {settings : Settings} {session : Session} {run : Run}
    (settled : i.settings (files i.config) env = .ok settings)
    (opened : i.session settings (files i.schema) = .ok session)
    (performed : session.perform i.command = .ok run) : i.run files env = run := by
  simp only [Invocation.run, settled, start, opened, Except.bind, performed]

theorem run_cases (i : Invocation) (files : String → FileText) (env : Environment) :
    (∃ complaint, i.run files env = .finish (some complaint)) ∨
      ∃ session : Session, session.perform i.command = .ok (i.run files env) := by
  cases settled : i.settings (files i.config) env with
  | error complaint => exact .inl ⟨complaint, by simp only [Invocation.run, settled]⟩
  | ok settings =>
      cases opened : i.session settings (files i.schema) with
      | error complaint =>
          exact .inl ⟨complaint, by simp only [Invocation.run, settled, start, opened, Except.bind]⟩
      | ok session =>
          cases performed : session.perform i.command with
          | error complaint =>
              refine .inl ⟨complaint, ?_⟩
              simp only [Invocation.run, settled, start, opened, Except.bind, performed]
          | ok run =>
              refine .inr ⟨session, ?_⟩
              rw [run_of_session settled opened performed, performed]

theorem exitCode_of_reachesCheck {spec : FormSpec} {typed : Record}
    (reaches : i.ReachesCheck files env spec typed) (input : String) (network : Network) :
    (play input network (i.run files env)).exitCode = 0 ↔ ∀ name ∈ spec.requiredFields,
      ∃ value, (typed.lookup name).or ((spec.defaults.getD []).lookup name) = some value ∧
        value ≠ .null ∧ value ≠ .string "" := by
  obtain ⟨form, values, settings, session, e, command, settled, opened, found, declared, read⟩ :=
    reaches
  obtain ⟨shown, performed⟩ :=
    Session.validate_reports (distinct_of_session opened) found declared read
  rw [← command] at performed
  rw [run_of_session settled opened performed, Session.exitCode_reportMissing,
    List.filter_eq_nil_iff]
  refine forall₂_congr fun name _ => ?_
  rw [Json.isBlank_iff]
  cases (typed.lookup name).or ((spec.defaults.getD []).lookup name) <;> simp

/-- Are these the requests of one fetch, or none? -/
def OfOneFetch (network : Network) (requests : List HttpRequest) : Prop :=
  requests = [] ∨ ∃ (origin : Origin) (text : String) (request : Request),
    requests = (origin.fetch network text request).1

theorem OfOneFetch.length_le {network : Network} {requests : List HttpRequest}
    (one : OfOneFetch network requests) : requests.length ≤ Network.maxRedirects + 1 := by
  rcases one with rfl | ⟨origin, text, request, rfl⟩
  · exact Nat.zero_le _
  · exact origin.length_fetch_le network text request

theorem OfOneFetch.leadsThrough {network : Network} {requests : List HttpRequest}
    (one : OfOneFetch network requests) : network.LeadsThrough requests := by
  rcases one with rfl | ⟨origin, text, request, rfl⟩
  · exact nofun
  · exact origin.fetch_leadsThrough network text request

/-- A run that calls the server fetches once and tells an outcome; any other run sends nothing. -/
theorem run_tells (i : Invocation) (files : String → FileText) (env : Environment)
    (input : String) (network : Network) :
    let report := play input network (i.run files env)
    let lines := shown input network (i.run files env)
    OfOneFetch network report.requests ∧
    (i.command.callsServer = false → report.requests = []) ∧
    ((∀ outcome : Outcome, outcome.toJson.pretty ∉ lines) → report.requests = []) ∧
    (i.command.callsServer = true → ∀ outcome : Outcome, outcome.toJson.pretty ∈ lines →
      report.exitCode = if outcome.success then 0 else 1) := by
  intro report lines
  rcases run_cases i files env with ⟨complaint, ended⟩ | ⟨session, performed⟩
  · have silent : lines = [] := by simp only [lines, ended, shown]
    have unsent : report.requests = [] := by
      simp only [report, ended]
      rfl
    refine ⟨.inl unsent, fun _ => unsent, fun _ => unsent, fun _ outcome mem => ?_⟩
    rw [silent] at mem
    cases mem
  · cases calls : i.command.callsServer with
    | false =>
        have unsent := Session.requests_perform input network calls performed
        exact ⟨.inl unsent, fun _ => unsent, fun _ => unsent,
          fun online => absurd online Bool.false_ne_true⟩
    | true =>
        obtain ⟨requests, ⟨outcome, told⟩, exits⟩ :=
          (Session.reporting_perform calls performed).reports input network
        refine ⟨?_, fun offline => absurd offline.symm Bool.false_ne_true,
          fun untold => absurd told (untold outcome), fun _ => exits⟩
        rcases requests with none | ⟨_, call, same⟩
        · exact .inl none
        · exact .inr ⟨session.origin, call.url, call.request, same⟩

end Invocation

def Schema.greetings : Schema where
  baseUrl := "/api/greetings"
  api := Directory.empty.insert "index" ⟨"GET", ""⟩
  drawers := .empty
  elements := [.form ⟨some "greeting", none, none, false, none⟩
    ⟨none, false, some [("text", .string "Hello")], none⟩
    [.input ⟨none, some "text", none, true, none⟩ none]]

theorem Schema.greetings_ofText : ofText greetings.toJson.text = .ok greetings := by
  have plain : greetings.toJson.floats = [] := by decide
  have readable : greetings.toJson.Readable := ⟨by decide, plain ▸ nofun⟩
  rw [← written_entries] at readable ⊢
  exact (reads (by decide) (.refl _)).ofText readable

namespace Invocation

open Run

def greetingFiles (path : String) : FileText :=
  if path = "greetings.json" then .text Schema.greetings.toJson.text else .missing

def onGreetings (command : Command) : Invocation :=
  ⟨"greetings.json", defaultConfig, none, false, command⟩

def greetingSession : Session :=
  ⟨.greetings, ⟨⟨"http".toList, [], [], some (.ipv4 0x7F000001), some 3000, .rooted "/".toList,
    none, none⟩⟩, false⟩

theorem session_onGreetings (command : Command) :
    (onGreetings command).session .defaults (greetingFiles "greetings.json") =
      .ok greetingSession := by
  simp only [session, onGreetings, greetingFiles, if_true, readSchema, Schema.greetings_ofText]
  rfl

theorem ofArgument_undashed {argument : String} (undashed : argument.toList.head? ≠ some '-') :
    Word.ofArgument argument = .plain argument := by
  unfold Word.ofArgument
  split <;> simp_all

theorem ofArguments_greetings :
    ofArguments ["--schema", "greetings.json", "validate", "--form", "greeting"] =
        .ok (onGreetings (.validate "greeting" "\x7b\x7d")) ∧
      ofArguments ["--schema", "greetings.json", "list"] = .ok (onGreetings .list) := by
  have schema : Word.ofArgument "--schema" = .long "schema" none := by
    simp only [Word.ofArgument, String.reduceToList]
    rfl
  have form : Word.ofArgument "--form" = .long "form" none := by
    simp only [Word.ofArgument, String.reduceToList]
    rfl
  have plain : ∀ text ∈ ["greetings.json", "validate", "greeting", "list"],
      Word.ofArgument text = .plain text := by
    intro text mem
    refine ofArgument_undashed ?_
    revert text
    decide +kernel
  simp only [List.forall_mem_cons] at plain
  obtain ⟨file, validate, greeting, list, -⟩ := plain
  constructor
  · simp [ofArguments, Grammar.scan, schema, form, file, validate, greeting, grammar, Command.names,
      Given.withOption, Given.nothing, Command.ofArguments, Command.grammar, Command.ofGiven,
      Given.required, Given.withDefault, Given.optional, bind, Except.bind, pure, Except.pure,
      onGreetings]
  · simp [ofArguments, Grammar.scan, schema, file, list, grammar, Command.names,
      Given.withOption, Given.nothing, Command.ofArguments, Command.ofGiven, Given.required,
      Given.withDefault, Given.optional, bind, Except.bind, pure, Except.pure, onGreetings]

def greetingSpec : FormSpec :=
  ⟨none, false, some [("text", .string "Hello")], none, ["text"]⟩

theorem greeting_reachesCheck :
    (onGreetings (.validate "greeting" "\x7b\x7d")).ReachesCheck greetingFiles (fun _ => none)
      greetingSpec [] := by
  refine .intro "greeting" _ .defaults _ _ rfl rfl (session_onGreetings _) rfl rfl ?_
  simp only [Session.readRecord, Session.readDocument, Json.ofText?, Raw.ofText,
    String.reduceToList]
  rfl

def listed : Reply → Outcome
  | .response response => .ok (some (response.data.getD (.array [])))
  | .rejected causes => .failed (.remote causes)

theorem run_list_greetings :
    (onGreetings .list).run greetingFiles (fun _ => none) =
      greetingSession.exchange ⟨"/api/greetings", ⟨"GET", none⟩, .list⟩ fun reply =>
        Session.report (listed reply) := by
  have asked : (greetingSession.screen.step Session.host .list).result = .waiting 0 := rfl
  have quiet (next : Run) :
      Session.showEvents (greetingSession.screen.step Session.host .list).events next = next := rfl
  have waiting : (greetingSession.screen.step Session.host .list).screen.calls.lookup 0 =
      some ⟨"/api/greetings", ⟨"GET", none⟩, .list⟩ := by
    have url : Endpoint.url ⟨"GET", ""⟩ "/api/greetings" none = "/api/greetings" := by
      decide +kernel
    rw [← url]
    rfl
  have settled : greetingSession.list = greetingSession.exchange
      ⟨"/api/greetings", ⟨"GET", none⟩, .list⟩ fun reply => Session.report (listed reply) := by
    simp only [Session.list, Session.settle, asked, quiet, waiting]
    exact congrArg (greetingSession.exchange _) (funext fun reply => by cases reply <;> rfl)
  rw [← settled]
  exact run_of_session rfl (session_onGreetings .list) rfl

/-- The run sends what the fetch of the greetings sends, and shows what that fetch comes to. -/
theorem list_greetings (network : Network) :
    let fetched := greetingSession.origin.fetch network "/api/greetings" ⟨"GET", none⟩
    (commandLine ["--schema", "greetings.json", "list"] greetingFiles (fun _ => none) ""
      network).requests = fetched.1 ∧
    shown "" network ((onGreetings .list).run greetingFiles fun _ => none) =
      [(listed (Session.replyOf fetched.2)).toJson.pretty] := by
  intro fetched
  constructor
  · simp only [commandLine, ofArguments_greetings.2, run_list_greetings, Session.play_exchange]
    cases failed : (listed (Session.replyOf fetched.2)).error <;>
      simp [Session.report, play, Report.line, failed, fetched]
  · rw [run_list_greetings, Session.shown_exchange]
    rfl

def movingServer : Network := fun n _ =>
  .ok (if n = 0 then .pointing 302 "Found" (some "/greetings") else .page "[]")

end Invocation

end DeclaredScreens
