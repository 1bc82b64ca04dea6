import DeclaredScreens.CommandLine.Arguments
import DeclaredScreens.CommandLine.Listing
import DeclaredScreens.CommandLine.Run
import DeclaredScreens.Screen
import DeclaredScreens.Settings

/-! What each command does with a screen. Settings and schema are taken in first, and the first
thing that is wrong ends the run. A command that calls the server writes the outcome as a
document and fails if the outcome is a failure. -/

namespace DeclaredScreens

inductive FileText
  | missing
  /-- Something that has no text, such as a folder. -/
  | unreadable
  | text (text : String)

structure Session where
  schema : Schema
  origin : Origin
  assumeYes : Bool

namespace Session

/-- Texts are shown as they are, and calls wait for the network. -/
def host : Host := ⟨id, true, fun _ => none⟩

def notDocument (option : String) : Complaint :=
  ⟨"--" ++ option ++ " is not valid json", ["the text is not a document"]⟩

def readDocument (option text : String) : Except Complaint Json :=
  match Json.ofText? text with
  | some j => .ok j
  | none => .error (notDocument option)

def readRecord (option text : String) : Except Complaint Record := do
  match ← readDocument option text with
  | .object members => return members
  | other => throw (.plain ("--" ++ option ++ " must be a json object, got " ++ other.text))

/-- Shows the notices among some events. Navigation shows nothing on a terminal. -/
def showEvents (events : List Event) (next : Run) : Run :=
  match events with
  | [] => next
  | .toast ⟨.success, message⟩ :: rest => .write .out ("[ok] " ++ message) (showEvents rest next)
  | .toast ⟨.error, message⟩ :: rest => .write .err ("[error] " ++ message) (showEvents rest next)
  | _ :: rest => showEvents rest next

def replyOf : Except FetchError Response → Reply
  | .ok response => .response response
  | .error e => .rejected e.chain

def deliver (next : Reply → Run) : Nat → HttpRequest → Run
  | 0, sent => .send sent fun answer => next (replyOf (sent.unfollowed answer))
  | hops + 1, sent => .send sent fun answer =>
      match sent.progress answer with
      | .settled result => next (replyOf result)
      | .onward request => deliver next hops request

/-- Gets the reply to a call. What cannot be sent is rejected at once. -/
def exchange (session : Session) (call : Call) (next : Reply → Run) : Run :=
  match session.origin.prepare call.url call.request with
  | .error e => next (replyOf (.error e))
  | .ok request => deliver next Network.maxRedirects request

/-- Brings a step to its end, with the reply to its call if it makes one. -/
def settle (session : Session) (stepped : Stepped) (next : Result → Run) : Run :=
  showEvents stepped.events <|
    match stepped.result with
    | .waiting number =>
        match stepped.screen.calls.lookup number with
        | none => next .unknown
        | some call => session.exchange call fun reply =>
            let last := stepped.screen.step host (.reply number reply)
            showEvents last.events (next last.result)
    | result => next result

def report (outcome : Outcome) : Run :=
  .write .out outcome.toJson.pretty <| .finish <|
    outcome.error.map fun failure => .plain (failure.code.title ++ ": " ++ failure.message)

def reportResult : Result → Run
  | .outcome outcome => report outcome
  | .submitted outcome => report outcome.outcome
  | _ => .finish none

def screen (session : Session) : Screen := .ofSchema session.schema

def element (session : Session) (id : String) : Except Complaint Element :=
  match session.schema.findElement? id with
  | some e => .ok e
  | none => .error (.plain ("no element with id '" ++ id ++ "'"))

def formSpec (id : String) (e : Element) : Except Complaint FormSpec :=
  match FormSpec.ofElement? e with
  | some spec => .ok spec
  | none => .error (.plain ("element '" ++ id ++ "' is not a form"))

def openDrawerOf (session : Session) (form record : String) : Except Complaint Screen := do
  match session.schema.drawerContaining? form with
  | none => throw (.plain ("form '" ++ form ++ "' is not inside a drawer"))
  | some drawer =>
      let payload ← readRecord "record" record
      (session.screen.openDrawer drawer (some payload)).mapError fun failure =>
        .plain failure.message

def withForm (s : Screen) (spec : FormSpec) (values : Record) : Screen :=
  s.run host (.mount spec :: values.map fun (name, value) => .write 0 name value)

def resolve (session : Session) (record : String) : Except Complaint Run := do
  let record ← readRecord "record" record
  return Run.writeAll ((session.schema.listing record).map (·.text)) (.finish none)

def reportMissing (form : Option Form) (fields : List String) : Run :=
  match fields with
  | [] => .write .out "ok" (.finish none)
  | fields =>
      let line (name : String) := name ++ ": " ++ ((form.bind (·.error? name)).getD "")
      Run.writeAll (fields.map line)
        (Run.fail (toString fields.length ++ " required field(s) missing"))

def validate (session : Session) (form values : String) : Except Complaint Run := do
  let spec ← formSpec form (← session.element form)
  let values ← readRecord "values" values
  let stepped := (withForm session.screen spec values).step host (.validate 0)
  match stepped.result with
  | .missing fields => return reportMissing stepped.screen.forms[0]? fields
  | _ => return .finish none

def submit (session : Session) (form values : String) (record : Option String) :
    Except Complaint Run := do
  let element ← session.element form
  let screen ← match record with
    | none => pure session.screen
    | some record => session.openDrawerOf form record
  let spec ← formSpec form element
  let values ← readRecord "values" values
  return session.settle ((withForm screen spec values).step host (.submit 0)) reportResult

def exec (session : Session) (e : Execution) : Except Complaint Run := do
  let item ← e.item.mapM (readRecord "item")
  let data ← e.data.mapM (readDocument "data")
  let run (confirmation : Option Confirmation) : Run :=
    session.settle
      (session.screen.step host
        (.execute e.action item ⟨data⟩ (some ⟨e.success, e.error⟩) confirmation))
      reportResult
  match e.confirm, session.assumeYes with
  | none, _ => return run none
  | some message, true => return run (some ⟨message, true⟩)
  | some message, false => return .ask message fun approved => run (some ⟨message, approved⟩)

def list (session : Session) : Run :=
  session.settle (session.screen.step host .list) reportResult

def perform (session : Session) : Command → Except Complaint Run
  | .resolve record => session.resolve record
  | .validate form values => session.validate form values
  | .submit form values record => session.submit form values record
  | .exec execution => session.exec execution
  | .list => .ok session.list

end Session

namespace Invocation

/-- The settings; a config file that is not there is as good as an empty one. -/
def settings (i : Invocation) (config : FileText) (env : Environment) :
    Except Complaint Settings :=
  let complain (what : String) (cause : String) : Complaint :=
    ⟨"failed to " ++ what ++ " config '" ++ i.config ++ "'", [cause]⟩
  let load (file : Option String) : Except Complaint Settings :=
    (Settings.load file env).mapError fun e => complain "parse" e.message
  match config with
  | .missing => load none
  | .unreadable => .error (complain "read" "the file has no text")
  | .text text => load (some text)

def readSchema (i : Invocation) (schema : FileText) : Except Complaint Schema :=
  let complain (what : String) (cause : String) : Complaint :=
    ⟨"failed to " ++ what ++ " schema '" ++ i.schema ++ "'", [cause]⟩
  match schema with
  | .missing => .error (complain "read" "there is no such file")
  | .unreadable => .error (complain "read" "the file has no text")
  | .text text =>
      (Schema.ofText text).mapError fun e =>
        complain "parse" (e.message?.getD "the text is not a schema")

def session (i : Invocation) (settings : Settings) (schema : FileText) :
    Except Complaint Session := do
  let schema ← i.readSchema schema
  let origin ← (Origin.ofText (i.apiOrigin.getD settings.apiOrigin)).mapError fun e =>
    (⟨e.message, e.causes⟩ : Complaint)
  return ⟨schema, origin, i.assumeYes⟩

def start (i : Invocation) (settings : Settings) (schema : FileText) : Run :=
  match (i.session settings schema).bind fun session => session.perform i.command with
  | .ok run => run
  | .error complaint => .finish (some complaint)

def run (i : Invocation) (files : String → FileText) (env : Environment) : Run :=
  match i.settings (files i.config) env with
  | .ok settings => i.start settings (files i.schema)
  | .error complaint => .finish (some complaint)

end Invocation

namespace Refusal

def usageLine : String :=
  "Usage: screenctl --schema <SCHEMA> [--config <CONFIG>] [--api-origin <API_ORIGIN>] [-y] <COMMAND>"

def helpLines : List String :=
  ["Drive a declarative screen schema from the terminal", "", usageLine, "", "Commands:",
    "  resolve [--record <RECORD>]",
    "  validate --form <FORM> [--values <VALUES>]",
    "  submit --form <FORM> [--values <VALUES>] [--record <RECORD>]",
    "  exec <ACTION> [--item <ITEM>] [--data <DATA>] [--success <SUCCESS>] [--error <ERROR>] [--confirm <CONFIRM>]",
    "  list"]

/-- Help is what was asked for; wrong usage is told apart from failure by its exit code. -/
def report : Refusal → Run.Report
  | help => ⟨0, "\n".intercalate helpLines ++ "\n", "", []⟩
  | usage => ⟨2, "", "error: wrong usage\n\n" ++ usageLine ++ "\n", []⟩

end Refusal

def commandLine (arguments : List String) (files : String → FileText) (env : Environment)
    (input : String) (network : Network) : Run.Report :=
  match Invocation.ofArguments arguments with
  | .ok invocation => (invocation.run files env).play input network
  | .error refusal => refusal.report

end DeclaredScreens
