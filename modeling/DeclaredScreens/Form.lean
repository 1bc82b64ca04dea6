import DeclaredScreens.Element.Basic
import DeclaredScreens.Endpoint
import DeclaredScreens.Json.Print

/-! Forms: values under edit, with errors and touches, over the seed they were reset to. The
seed is the record of the drawer for a form that works on it, and the default values
otherwise. Every operation first brings the form up to a changed seed, except while it is
submitting: a submission keeps its values until it ends. -/

namespace DeclaredScreens

structure FormSpec where
  action : Option String
  usesActiveRecord : Bool
  defaults : Option Record
  notification : Option Notification
  requiredFields : List String

namespace FormSpec

def ofElement? (e : Element) : Option FormSpec :=
  e.form?.map fun (settings, elements) =>
    { action := settings.action
      usesActiveRecord := settings.usesActiveRecord
      defaults := settings.defaults
      notification := settings.notification
      requiredFields := Element.requiredFields elements }

def actionName (spec : FormSpec) : String := spec.action.getD Action.save

def seed (spec : FormSpec) (payload : Option Record) : Record :=
  match spec.usesActiveRecord, payload with
  | true, some record => record
  | _, _ => spec.defaults.getD []

end FormSpec

structure Form where
  spec : FormSpec
  values : Record
  errors : Entries String
  touched : List String
  submitting : Bool
  snapshot : Record
  seed : Record

inductive FormPhase
  | pristine | editing | submitting
deriving DecidableEq

def FormPhase.name : FormPhase → String
  | pristine => "pristine"
  | editing => "editing"
  | submitting => "submitting"

namespace Form

def requiredMessage : String := "This field is required"

def reset (f : Form) (seed : Record) : Form :=
  { spec := f.spec, values := seed, errors := [], touched := [], submitting := false
    snapshot := seed, seed := seed }

def mount (spec : FormSpec) (seed : Record) : Form :=
  { spec := spec, values := seed, errors := [], touched := [], submitting := false
    snapshot := seed, seed := seed }

def isBehind (f : Form) (seed : Record) : Bool := !f.submitting && !f.seed.same seed

def catchUp (f : Form) (seed : Record) : Form := if f.isBehind seed then f.reset seed else f

def value? (f : Form) (name : String) : Option Json := f.values.lookup name

def error? (f : Form) (name : String) : Option String := f.errors.lookup name

def isTouched (f : Form) (name : String) : Bool := f.touched.contains name

/-- The error shown for a field; untouched fields show none. -/
def visibleError? (f : Form) (name : String) : Option String :=
  if f.isTouched name then f.error? name else none

/-- Values and snapshot are compared as text, so the order of fields and the spelling of
numbers count. -/
def isDirty (f : Form) : Bool :=
  (Json.object f.values).text ≠ (Json.object f.snapshot).text

def phase (f : Form) : FormPhase :=
  if f.submitting then .submitting
  else if !f.touched.isEmpty || f.isDirty then .editing
  else .pristine

def write (f : Form) (name : String) (value : Json) : Form :=
  { f with values := Entries.put name value f.values, errors := Entries.remove name f.errors }

def mark (touched : List String) (name : String) : List String :=
  if touched.contains name then touched else touched ++ [name]

def touch (f : Form) (name : String) : Form := { f with touched := mark f.touched name }

def missing (f : Form) : List String :=
  f.spec.requiredFields.filter fun name => Json.isBlank (f.value? name)

/-- Records the error and touches the field, for every field that is missing. -/
def complain (f : Form) (message : String) : Form :=
  { f with
    errors := f.missing.foldl (fun errors name => Entries.put name message errors) f.errors
    touched := f.missing.foldl mark f.touched }

def endSubmission (f : Form) : Form := { f with submitting := false }

end Form

inductive SubmitOutcome
  | invalid (fields : List String)
  | busy
  | completed (outcome : Outcome)

namespace SubmitOutcome

def isSuccess : SubmitOutcome → Bool
  | completed outcome => outcome.success
  | _ => false

def outcome : SubmitOutcome → Outcome
  | completed outcome => outcome
  | busy => .failed .inProgress
  | invalid fields => .failed (.incomplete fields)

end SubmitOutcome

end DeclaredScreens
