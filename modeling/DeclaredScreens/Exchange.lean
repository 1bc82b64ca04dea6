import DeclaredScreens.Decoding

/-! What passes between a screen, its server and its user: requests and responses, outcomes
of executed actions, and the notices shown about them, each with its written form. A body or
data field that holds null reads back as absent, so writing is stable only from the second
time on. -/

namespace DeclaredScreens

inductive FailureCode
  | notConfigured | validation | remote | cancelled | busy
deriving DecidableEq

namespace FailureCode

def name : FailureCode → String
  | notConfigured => "not_configured"
  | validation => "validation"
  | remote => "remote"
  | cancelled => "cancelled"
  | busy => "busy"

def title : FailureCode → String
  | notConfigured => "NotConfigured"
  | validation => "Validation"
  | remote => "Remote"
  | cancelled => "Cancelled"
  | busy => "Busy"

def all : List FailureCode := [notConfigured, validation, remote, cancelled, busy]

def decode : Decoder FailureCode := .enumeration (all.map fun c => (c.name, c))

def toJson (c : FailureCode) : Json := .string c.name

end FailureCode

structure Failure where
  code : FailureCode
  message : String
deriving DecidableEq

structure Request where
  method : String
  body : Option Json

structure Response where
  data : Option Json

structure Payload where
  data : Option Json

structure Notification where
  success : Option String
  error : Option String
deriving DecidableEq

inductive ToastKind
  | success | error
deriving DecidableEq

structure Toast where
  kind : ToastKind
  message : String
deriving DecidableEq

structure Outcome where
  success : Bool
  data : Option Json
  error : Option Failure

namespace Failure

def decode : Decoder Failure :=
  .fields ["code", "message"] fun scope m =>
    Failure.mk <$> m.field scope "code" FailureCode.decode none
      <*> m.field scope "message" .string none

def toJson (f : Failure) : Json :=
  .object [("code", f.code.toJson), ("message", .string f.message)]

def unregistered (action : String) : Failure :=
  ⟨.notConfigured, "no endpoint registered for action '" ++ action ++ "'"⟩

def unknownDrawer (name : String) : Failure :=
  ⟨.notConfigured, "no drawer named '" ++ name ++ "'"⟩

def unconfirmed (action : String) : Failure :=
  ⟨.cancelled, "action '" ++ action ++ "' was not confirmed"⟩

def inProgress : Failure := ⟨.busy, "a submission is already in progress"⟩

def incomplete (fields : List String) : Failure :=
  ⟨.validation, "required fields missing: " ++ ", ".intercalate fields⟩

def remote (causes : List String) : Failure := ⟨.remote, ": ".intercalate causes⟩

end Failure

/-- A member that is left out when absent. -/
def Json.memberIf (name : String) (value : Option Json) : List (String × Json) :=
  match value with
  | some v => [(name, v)]
  | none => []

def Json.orNull (value : Option Json) : Json := value.getD .null

def Json.textOrNull (value : Option String) : Json := Json.orNull (value.map .string)

namespace Request

def decode : Decoder Request :=
  .fields ["method", "body"] fun scope m =>
    Request.mk <$> m.field scope "method" .string none
      <*> m.field scope "body" (.optional .value) (some none)

def toJson (r : Request) : Json :=
  .object (("method", .string r.method) :: Json.memberIf "body" r.body)

end Request

namespace Response

def empty : Response := ⟨none⟩

def ofData (data : Json) : Response := ⟨some data⟩

def record? (r : Response) : Option Record := r.data.bind Json.record?

def decode : Decoder Response :=
  .fields ["data"] fun scope m =>
    Response.mk <$> m.field scope "data" (.optional .value) (some none)

def toJson (r : Response) : Json := .object [("data", Json.orNull r.data)]

end Response

namespace Payload

def none : Payload := ⟨Option.none⟩

def ofData (data : Json) : Payload := ⟨some data⟩

def decode : Decoder Payload :=
  .fields ["data"] fun scope m =>
    Payload.mk <$> m.field scope "data" (.optional .value) (some Option.none)

def toJson (p : Payload) : Json := .object [("data", Json.orNull p.data)]

end Payload

namespace Notification

def decode : Decoder Notification :=
  .fields ["success", "error"] fun scope m =>
    Notification.mk <$> m.field scope "success" (.optional .string) (some none)
      <*> m.field scope "error" (.optional .string) (some none)

def toJson (n : Notification) : Json :=
  .object [("success", Json.textOrNull n.success), ("error", Json.textOrNull n.error)]

end Notification

namespace ToastKind

def name : ToastKind → String
  | success => "success"
  | error => "error"

def all : List ToastKind := [success, error]

def decode : Decoder ToastKind := .enumeration (all.map fun k => (k.name, k))

def toJson (k : ToastKind) : Json := .string k.name

end ToastKind

namespace Toast

def decode : Decoder Toast :=
  .fields ["type", "message"] fun scope m =>
    Toast.mk <$> m.field scope "type" ToastKind.decode none
      <*> m.field scope "message" .string none

def toJson (t : Toast) : Json :=
  .object [("type", t.kind.toJson), ("message", .string t.message)]

end Toast

namespace Outcome

def ok (data : Option Json) : Outcome := ⟨true, data, none⟩

def failed (failure : Failure) : Outcome := ⟨false, none, some failure⟩

def decode : Decoder Outcome :=
  .fields ["success", "data", "error"] fun scope m =>
    Outcome.mk <$> m.field scope "success" .bool none
      <*> m.field scope "data" (.optional .value) (some none)
      <*> m.field scope "error" (.optional Failure.decode) (some none)

def toJson (o : Outcome) : Json :=
  .object (("success", .bool o.success) ::
    (Json.memberIf "data" o.data ++ Json.memberIf "error" (o.error.map (·.toJson))))

end Outcome

end DeclaredScreens
