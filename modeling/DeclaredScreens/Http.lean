import DeclaredScreens.Exchange
import DeclaredScreens.Json.Print
import DeclaredScreens.Url.Parse

/-! Fetching over HTTP. The addresses of a screen are read below the path of an origin, unless
they are addresses of their own; a request is prepared without the network, so a bad address
or method is found before anything is sent, and a reply is read without it too. A reply that
redirects is followed, up to a limit, with a request for the address that it points to. The
network itself is a parameter: it answers each request in turn, or fails with a chain of
causes. -/

namespace DeclaredScreens

inductive TransportError
  | schemeNotAllowed (url : Url)
  | notSendable (url : Url)
  | unsent (url : Url) (causes : List String)
  | tooManyRedirects (url : Url)
  | refused (url : Url) (status : Nat) (reason : String)

inductive FetchError
  | invalidOrigin (origin : String) (cause : UrlError)
  | invalidUrl (url : String) (cause : UrlError)
  | invalidMethod (method : String)
  | transport (cause : TransportError)
  | undecodable

structure HttpRequest where
  method : String
  url : Url
  /-- A body is always a document. -/
  body : Option String

def HttpRequest.contentType (r : HttpRequest) : Option String :=
  r.body.map fun _ => "application/json"

structure HttpReply where
  status : Nat
  reason : String
  body : List UInt8
  location : Option String

/-- What comes back: a reply, or the chain of causes of its absence. -/
abbrev HttpAnswer := Except (List String) HttpReply

/-- The answers to the first request, to the second, and so on. -/
abbrev Network := Nat → HttpRequest → HttpAnswer

namespace TransportError

def parenthesised (text : String) : String := "(" ++ text ++ ")"

def message : TransportError → String
  | schemeNotAllowed url => "builder error for url " ++ parenthesised url.text
  | notSendable url => "builder error for url " ++ parenthesised url.text
  | unsent url _ => "error sending request for url " ++ parenthesised url.text
  | tooManyRedirects url => "error following redirect for url " ++ parenthesised url.text
  | refused url status reason =>
      "HTTP status " ++ (if status < 500 then "client error " else "server error ") ++
        parenthesised (toString status ++ " " ++ reason) ++ " for url " ++ parenthesised url.text

def causes : TransportError → List String
  | schemeNotAllowed _ => ["URL scheme is not allowed"]
  | notSendable _ => ["Parsed Url is not a valid Uri"]
  | unsent _ causes => causes
  | tooManyRedirects _ => ["too many redirects"]
  | refused .. => []

end TransportError

namespace FetchError

def message : FetchError → String
  | invalidOrigin origin cause => "invalid api origin '" ++ origin ++ "': " ++ cause.message
  | invalidUrl url cause => "invalid request url '" ++ url ++ "': " ++ cause.message
  | invalidMethod method => "unsupported http method '" ++ method ++ "'"
  | transport cause => "request failed: " ++ cause.message
  | undecodable => "response body is not valid json"

def causes : FetchError → List String
  | invalidOrigin _ cause => [cause.message]
  | invalidUrl _ cause => [cause.message]
  | invalidMethod _ => []
  | transport cause => cause.message :: cause.causes
  | undecodable => []

def chain (e : FetchError) : List String := e.message :: e.causes

end FetchError

namespace HttpRequest

def isTokenChar (c : Char) : Bool := c.isAlphanum || "!#$%&'*+-.^_\x60|~".toList.contains c

def method? (method : String) : Option String :=
  let upper := method.toList.map Char.toUpper
  if !upper.isEmpty && upper.all isTokenChar then some (String.ofList upper) else none

def isHostChar (c : Char) : Bool := c.isAlphanum || "!$&'()*+,-.;=_~[]:%".toList.contains c

def maxUrlLength : Nat := 65534

def isAddressable (url : Url) : Bool :=
  url.chars.length ≤ maxUrlLength && url.host.any fun host => host.chars.all isHostChar

def checked (r : HttpRequest) : Except TransportError HttpRequest :=
  if String.ofList r.url.scheme ∉ ["http", "https"] then .error (.schemeNotAllowed r.url)
  else if isAddressable r.url then .ok r
  else .error (.notSendable r.url)

end HttpRequest

namespace HttpReply

def isAsciiBlank (b : UInt8) : Bool := b = 32 || b = 9 || b = 10 || b = 12 || b = 13

/-- The document of a body; a blank body is an empty response. -/
def response (body : List UInt8) : Except FetchError Response :=
  if body.all isAsciiBlank then .ok .empty
  else
    match (String.fromUTF8? body.toByteArray).bind Json.ofText? with
    | some data => .ok (.ofData data)
    | none => .error .undecodable

/-- What a reply says: the statuses from 400 to 599 refuse, whatever the body. -/
def read (url : Url) (r : HttpReply) : Except FetchError Response :=
  if 400 ≤ r.status ∧ r.status < 600 then .error (.transport (.refused url r.status r.reason))
  else response r.body

end HttpReply

namespace HttpRequest

def redirections : List Nat := [301, 302, 303, 307, 308]

/-- The request as it is made at another address. Behind some redirections only the page there is
asked for: behind `303` always, and behind `301` and `302` when something was posted. -/
def movedTo (r : HttpRequest) (status : Nat) (url : Url) : HttpRequest :=
  match status with
  | 303 => ⟨if r.method = "HEAD" then "HEAD" else "GET", url, none⟩
  | 301 | 302 => if r.method = "POST" then ⟨"GET", url, none⟩ else { r with url := url }
  | _ => { r with url := url }

/-- The request that a reply leads to. One that points to no address that requests can go to is
taken as it is. -/
def redirected? (r : HttpRequest) (reply : HttpReply) : Option HttpRequest :=
  if reply.status ∈ redirections then
    match reply.location.bind fun text => (r.url.join text.toList).toOption with
    | some url => if isAddressable url then some (r.movedTo reply.status url) else none
    | none => none
  else none

inductive Progress
  | settled (result : Except FetchError Response)
  | onward (next : HttpRequest)

def progress (r : HttpRequest) : HttpAnswer → Progress
  | .error causes => .settled (.error (.transport (.unsent r.url causes)))
  | .ok reply =>
      match r.redirected? reply with
      | none => .settled (reply.read r.url)
      | some next =>
          match next.checked with
          | .ok next => .onward next
          | .error e => .settled (.error (.transport e))

/-- What an answer comes to when no more redirects may be followed. -/
def unfollowed (r : HttpRequest) (answer : HttpAnswer) : Except FetchError Response :=
  match r.progress answer with
  | .settled result => result
  | .onward _ => .error (.transport (.tooManyRedirects r.url))

end HttpRequest

namespace Network

def unreachable : Network := fun _ _ =>
  .error ["client error (Connect)", "tcp connect error",
    "Network is unreachable (os error 101)"]

def after (network : Network) (answers : Nat) : Network := fun n => network (n + answers)

def maxRedirects : Nat := 10

/-- Sends a request, and follows the replies that redirect it: what was sent, and what came of
it. -/
def deliver (network : Network) : Nat → HttpRequest → List HttpRequest × Except FetchError Response
  | 0, sent => ([sent], sent.unfollowed (network 0 sent))
  | hops + 1, sent =>
      match sent.progress (network 0 sent) with
      | .settled result => ([sent], result)
      | .onward next =>
          let (requests, result) := deliver (network.after 1) hops next
          (sent :: requests, result)

end Network

structure Origin where
  url : Url

namespace Origin

/-- A slash at the end keeps what is joined below the path. -/
def ofText (text : String) : Except FetchError Origin :=
  let slashed := if text.toList.getLast? = some '/' then text.toList else text.toList ++ ['/']
  match Url.parse slashed with
  | .ok url => .ok ⟨url⟩
  | .error cause => .error (.invalidOrigin text cause)

/-- A whole address stands for itself; anything else is read below the origin, leading
slashes or not. -/
def requestUrl (origin : Origin) (text : String) : Except FetchError Url :=
  match Url.parse text.toList with
  | .ok url => .ok url
  | .error _ =>
      match origin.url.join (text.toList.dropWhile (· = '/')) with
      | .ok url => .ok url
      | .error cause => .error (.invalidUrl text cause)

/-- The request that is to be sent. Credentials that are text are no part of its address. A bad
address is reported before a bad method. -/
def prepare (origin : Origin) (text : String) (request : Request) :
    Except FetchError HttpRequest :=
  match origin.requestUrl text with
  | .error e => .error e
  | .ok url =>
      match HttpRequest.method? request.method with
      | none => .error (.invalidMethod request.method)
      | some method =>
          let url := if url.namesCredentials then url.withoutCredentials else url
          (HttpRequest.checked ⟨method, url, request.body.map (·.text)⟩).mapError .transport

def fetch (origin : Origin) (network : Network) (text : String) (request : Request) :
    List HttpRequest × Except FetchError Response :=
  match origin.prepare text request with
  | .error e => ([], .error e)
  | .ok sent => network.deliver Network.maxRedirects sent

end Origin

end DeclaredScreens
