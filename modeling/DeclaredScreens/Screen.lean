import DeclaredScreens.Drawer
import DeclaredScreens.Form
import DeclaredScreens.ListCache
import DeclaredScreens.Schema

/-! A screen at work. Its state is the drawer, the cached lists, the mounted forms and the
calls that wait for a reply. A step that calls the server ends with the call in flight; the
reply, or a cancellation, is a step of its own, so every interleaving is a list of steps. What
a step does to the world outside is told by its events: calls, toasts, prompts and
navigation. -/

namespace DeclaredScreens

inductive Reply
  | response (response : Response)
  | rejected (causes : List String)

inductive Purpose
  | list
  | execution (notification : Option Notification)
  | trigger (notification : Option Notification)
  | submission (form : Nat) (notification : Option Notification)

structure Call where
  url : String
  request : Request
  purpose : Purpose

inductive Event
  | call (url : String) (request : Request)
  | toast (toast : Toast)
  | navigate (path : String)
  | prompt (message : String)

inductive TriggerOutcome
  | drawerOpened (name : String)
  | navigated (path : String)
  | executed (outcome : Outcome)
  | rejected (failure : Failure)

inductive Result
  | done
  | opened
  | refused (failure : Failure)
  | accepted (yes : Bool)
  | dropped (lists : Nat)
  | path (path : String)
  | outcome (outcome : Outcome)
  | triggered (outcome : TriggerOutcome)
  | submitted (outcome : SubmitOutcome)
  | mounted (form : Nat)
  | missing (fields : List String)
  | form (form : Form)
  | waiting (call : Nat)
  | unknown

/-- What a screen relies on around it: the wording of texts in the language of the user, and,
for a host without a server, the reply that every call gets at once. -/
structure Host where
  localize : String → String
  /-- Does it put prompts before a user? Otherwise every prompt counts as approved. -/
  hasUser : Bool
  instantReply : String → Option Reply

def Host.unplugged : Host :=
  ⟨id, false, fun url => some (.rejected ["no fetch backend configured for " ++ url])⟩

structure Screen where
  baseUrl : String
  registry : Registry
  drawers : Directory DrawerDefinition
  drawer : Drawer
  cache : ListCache
  forms : List Form
  calls : List (Nat × Call)
  /-- How many calls there have been; the number of the next one. -/
  issued : Nat

structure Stepped where
  screen : Screen
  events : List Event
  result : Result

structure Confirmation where
  message : String
  approved : Bool

inductive Step
  | openDrawer (name : String) (payload : Option Record)
  /-- Opens whatever the name is, defined or not. -/
  | showDrawer (name : String) (payload : Option Record)
  | closeDrawer
  | setPayload (payload : Option Record)
  | pick (selection : Record)
  | execute (action : String) (item : Option Record) (payload : Payload)
      (notification : Option Notification) (confirmation : Option Confirmation)
  | trigger (action : ButtonAction) (row : Option Record) (approved : Bool)
  | list
  | navigate (template : String) (item : Option Record)
  | storeList (key : String) (list : Json)
  | invalidate (address : String)
  | mount (spec : FormSpec)
  | write (form : Nat) (name : String) (value : Json)
  | touch (form : Nat) (name : String)
  | validate (form : Nat)
  | refresh (form : Nat)
  | read (form : Nat)
  | submit (form : Nat)
  | reply (call : Nat) (reply : Reply)
  | cancel (call : Nat)

namespace Screen

def ofSchema (schema : Schema) : Screen :=
  { baseUrl := schema.baseUrl, registry := schema.api, drawers := schema.drawers
    drawer := .closed, cache := .empty, forms := [], calls := [], issued := 0 }

def endpointFor (s : Screen) (action : String) (item : Option Record) :
    Except Failure (Endpoint × String) :=
  let resolved := Action.resolve action item
  match s.registry.get? resolved with
  | some endpoint => .ok (endpoint, endpoint.url s.baseUrl item)
  | none => .error (.unregistered resolved)

def activeDrawer (s : Screen) : Option (String × DrawerDefinition) := do
  let name ← s.drawer.name?
  let definition ← s.drawers.get? name
  return (name, definition)

def seedFor (s : Screen) (spec : FormSpec) : Record := spec.seed s.drawer.payload

def withForm (s : Screen) (i : Nat) (f : Form) : Screen := { s with forms := s.forms.set i f }

def quiet (s : Screen) (result : Result) : Stepped := ⟨s, [], result⟩

def toast (host : Host) (kind : ToastKind) : Option String → List Event
  | some text => [.toast ⟨kind, host.localize text⟩]
  | none => []

def successToast (host : Host) (notification : Option Notification) : List Event :=
  toast host .success (notification.bind (·.success))

def errorToast (host : Host) (notification : Option Notification) : List Event :=
  toast host .error (notification.bind (·.error))

def openDrawer (s : Screen) (name : String) (payload : Option Record) : Except Failure Screen :=
  if s.drawers.contains name then .ok { s with drawer := .opened name payload }
  else .error (.unknownDrawer name)

def setPayload (s : Screen) (payload : Option Record) : Screen :=
  { s with drawer := s.drawer.setPayload payload }

def send (s : Screen) (call : Call) : Stepped :=
  { screen := { s with calls := s.calls ++ [(s.issued, call)], issued := s.issued + 1 }
    events := [.call call.url call.request]
    result := .waiting s.issued }

/-- Ends a form's submission and, after a success on the active record, takes up its new
seed. -/
def endSubmission (s : Screen) (i : Nat) (succeeded : Bool) : Screen :=
  match s.forms[i]? with
  | none => s
  | some f =>
      let ended := f.endSubmission
      if succeeded && f.spec.usesActiveRecord then
        s.withForm i (ended.catchUp (s.seedFor f.spec))
      else s.withForm i ended

def conclude (s : Screen) (purpose : Purpose) (outcome : Outcome) : Screen × Result :=
  match purpose with
  | .list => (s, .outcome outcome)
  | .execution _ => (s, .outcome outcome)
  | .trigger _ => (s, .triggered (.executed outcome))
  | .submission i _ => (s.endSubmission i outcome.success, .submitted (.completed outcome))

def Purpose.notification : Purpose → Option Notification
  | .list => none
  | .execution n => n
  | .trigger n => n
  | .submission _ n => n

/-- Starts an execution: its method, address and body are fixed now. -/
def execute (host : Host) (s : Screen) (action : String) (item : Option Record)
    (payload : Payload) (purpose : Purpose) : Stepped :=
  match s.endpointFor action item with
  | .ok (endpoint, url) => s.send ⟨url, ⟨endpoint.method, payload.data⟩, purpose⟩
  | .error failure =>
      let (s, result) := s.conclude purpose (.failed failure)
      ⟨s, errorToast host (Purpose.notification purpose), result⟩

def confirmed (host : Host) (s : Screen) (confirmation : Option Confirmation) (action : String)
    (item : Option Record) (payload : Payload) (purpose : Purpose) : Stepped :=
  match confirmation with
  | none => execute host s action item payload purpose
  | some ⟨message, approved⟩ =>
      let prompt := Event.prompt (host.localize message)
      if approved || !host.hasUser then
        let stepped := execute host s action item payload purpose
        { stepped with events := prompt :: stepped.events }
      else
        let (s, result) := s.conclude purpose (.failed (.unconfirmed action))
        ⟨s, [prompt], result⟩

def list (s : Screen) : Stepped :=
  match s.cache.get? s.baseUrl with
  | some cached => s.quiet (.outcome (.ok (some cached)))
  | none =>
      match s.endpointFor Action.index none with
      | .ok (endpoint, url) => s.send ⟨url, ⟨endpoint.method, none⟩, .list⟩
      | .error failure => s.quiet (.outcome (.failed failure))

def trigger (host : Host) (s : Screen) (action : ButtonAction) (row : Option Record)
    (approved : Bool) : Stepped :=
  match action with
  | .drawer name =>
      match s.openDrawer name row with
      | .ok s => s.quiet (.triggered (.drawerOpened name))
      | .error failure => s.quiet (.triggered (.rejected failure))
  | .navigate template =>
      let path := Template.fill template row
      ⟨s, [.navigate path], .triggered (.navigated path)⟩
  | .api action confirm notification sendRow =>
      let payload : Payload := ⟨if sendRow then row.map .object else none⟩
      confirmed host s (confirm.map (⟨·, approved⟩)) action row payload (.trigger notification)

/-- Submits a form: refused while it is submitting, ended by missing fields, and otherwise
an execution on the record of the drawer, or on the values themselves. -/
def submit (host : Host) (s : Screen) (i : Nat) (f : Form) : Stepped :=
  if f.submitting then s.quiet (.submitted .busy)
  else
    match f.missing with
    | [] =>
        let s := s.withForm i { f with submitting := true }
        let item := if f.spec.usesActiveRecord then s.drawer.payload else some f.values
        execute host s f.spec.actionName item (.ofData (.object f.values))
          (.submission i f.spec.notification)
    | fields =>
        (s.withForm i (f.complain (host.localize Form.requiredMessage))).quiet
          (.submitted (.invalid fields))

/-- Takes in the response to an execution: a record goes to the drawer, and the cached lists
of the screen are dropped. -/
def takeIn (s : Screen) (response : Response) : Screen :=
  let s := match response.record? with
    | some record => s.setPayload (some record)
    | none => s
  { s with cache := s.cache.invalidate s.baseUrl }

def answered (host : Host) (s : Screen) (purpose : Purpose) (reply : Reply) : Stepped :=
  match purpose, reply with
  | .list, .response response =>
      let data := response.data.getD (.array [])
      { s with cache := s.cache.store s.baseUrl data }.quiet (.outcome (.ok (some data)))
  | .list, .rejected causes => s.quiet (.outcome (.failed (.remote causes)))
  | purpose, .response response =>
      let (s, result) := (s.takeIn response).conclude purpose (.ok response.data)
      ⟨s, successToast host (Purpose.notification purpose), result⟩
  | purpose, .rejected causes =>
      let (s, result) := s.conclude purpose (.failed (.remote causes))
      ⟨s, errorToast host (Purpose.notification purpose), result⟩

def withoutCall (s : Screen) (number : Nat) : Screen :=
  { s with calls := s.calls.filter fun entry => entry.1 ≠ number }

def reply (host : Host) (s : Screen) (number : Nat) (reply : Reply) : Stepped :=
  match s.calls.lookup number with
  | some call => answered host (s.withoutCall number) call.purpose reply
  | none => s.quiet .unknown

def cancel (s : Screen) (number : Nat) : Stepped :=
  match s.calls.lookup number with
  | some call =>
      let s := s.withoutCall number
      match call.purpose with
      | .submission i _ => (s.endSubmission i false).quiet .done
      | _ => s.quiet .done
  | none => s.quiet .unknown

/-- An operation on a mounted form, once it is up to its seed. -/
def onForm (s : Screen) (i : Nat) (operation : Form → Stepped) : Stepped :=
  match s.forms[i]? with
  | some f => operation (f.catchUp (s.seedFor f.spec))
  | none => s.quiet .unknown

def step (host : Host) (s : Screen) : Step → Stepped
  | .openDrawer name payload =>
      match s.openDrawer name payload with
      | .ok s => s.quiet .opened
      | .error failure => s.quiet (.refused failure)
  | .showDrawer name payload => { s with drawer := .opened name payload }.quiet .done
  | .closeDrawer => { s with drawer := .closed }.quiet .done
  | .setPayload payload => (s.setPayload payload).quiet (.accepted s.drawer.isOpen)
  | .pick selection => (s.setPayload (some selection)).quiet (.accepted s.drawer.isOpen)
  | .execute action item payload notification confirmation =>
      confirmed host s confirmation action item payload (.execution notification)
  | .trigger action row approved => s.trigger host action row approved
  | .list => s.list
  | .navigate template item =>
      let path := Template.fill template item
      ⟨s, [.navigate path], .path path⟩
  | .storeList key list => { s with cache := s.cache.store key list }.quiet .done
  | .invalidate address =>
      { s with cache := s.cache.invalidate address }.quiet
        (.dropped (s.cache.invalidated address))
  | .mount spec =>
      { s with forms := s.forms ++ [Form.mount spec (s.seedFor spec)] }.quiet
        (.mounted s.forms.length)
  | .write i name value => s.onForm i fun f => (s.withForm i (f.write name value)).quiet .done
  | .touch i name => s.onForm i fun f => (s.withForm i (f.touch name)).quiet .done
  | .validate i => s.onForm i fun f =>
      (s.withForm i (f.complain (host.localize Form.requiredMessage))).quiet
        (.missing f.missing)
  | .refresh i =>
      match s.forms[i]? with
      | some f =>
          (s.withForm i (f.catchUp (s.seedFor f.spec))).quiet
            (.accepted (f.isBehind (s.seedFor f.spec)))
      | none => s.quiet .unknown
  | .read i => s.onForm i fun f => (s.withForm i f).quiet (.form f)
  | .submit i => s.onForm i fun f => submit host (s.withForm i f) i f
  | .reply number r => s.reply host number r
  | .cancel number => s.cancel number

/-- A step together with the reply to its call, when that reply is at hand: the one given, or
the one the host gives to every call. -/
def stepAnswered (host : Host) (s : Screen) (step : Step) (given : Option Reply) : Stepped :=
  let first := s.step host step
  match first.result with
  | .waiting number =>
      match first.screen.calls.lookup number with
      | none => first
      | some call =>
          match (host.instantReply call.url).or given with
          | none => first
          | some reply =>
              let second := first.screen.step host (.reply number reply)
              { second with events := first.events ++ second.events }
  | _ => first

def run (host : Host) (s : Screen) (steps : List Step) : Screen :=
  steps.foldl (fun s step => (s.step host step).screen) s

end Screen

end DeclaredScreens
