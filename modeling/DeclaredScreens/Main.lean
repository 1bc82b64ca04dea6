import DeclaredScreens.CommandLine.Commands
import DeclaredScreens.Http.Wire
import Std.Internal.UV.DNS
import Std.Internal.UV.TCP
import Std.Internal.UV.Timer

/-! The command line program: files, environment, terminal and network around the runs of
`CommandLine.Commands`. -/

namespace DeclaredScreens.Main

open Std.Internal.UV

def readFile (path : String) : IO FileText := do
  try
    return .text (← IO.FS.readFile path)
  catch
    | .noFileOrDirectory .. => return .missing
    | _ => return .unreadable

def readEnvironment : IO Environment := do
  let names := ["SCREENCTL_API_ORIGIN", "APP__API_ORIGIN", "APP__LOG_FILTER",
    "APP__REQUEST_TIMEOUT_SECS"]
  let present ← names.filterMapM fun name => do
    return (← IO.getEnv name).map (name, ·)
  return fun name => present.lookup name

abbrev Attempt := ExceptT (List String) IO

def timedOut : List String := ["operation timed out"]

def await {α : Type} (deadline : Task (Option Unit)) (context : List String)
    (promise : IO (IO.Promise (Except IO.Error α))) : Attempt α := do
  let task := (← promise).result?.map fun result => some result
  match ← IO.waitAny [task, deadline.map fun _ => none] with
  | some (some (.ok a)) => return a
  | some (some (.error e)) => throw (context ++ [toString e])
  | some none => throw (context ++ ["connection closed"])
  | none => throw timedOut

partial def receive (deadline : Task (Option Unit)) (socket : TCP.Socket)
    (bytes : ByteArray) : Attempt ByteArray := do
  match ← await deadline ["client error (SendRequest)"] (socket.recv? 65536) with
  | some more => receive deadline socket (bytes ++ more)
  | none => return bytes

def socketAddress (address : Std.Net.IPAddr) (port : UInt16) : Std.Net.SocketAddress :=
  match address with
  | .v4 addr => .v4 ⟨addr, port⟩
  | .v6 addr => .v6 ⟨addr, port⟩

def hostName (request : HttpRequest) : String :=
  String.ofList (((request.url.host.map (·.chars)).getD []).filter fun c => c ≠ '[' && c ≠ ']')

def exchange (request : HttpRequest) (deadline : Task (Option Unit)) : Attempt HttpReply := do
  if request.url.scheme ≠ "http".toList then
    throw ["client error (Connect)", "only plain http can be sent"]
  let addresses ← await deadline ["client error (Connect)", "dns error"]
    (DNS.getAddrInfo (hostName request) "" 0)
  let some address := addresses[0]? | throw ["client error (Connect)", "dns error"]
  let port := request.url.port.getD 80
  let socket ← TCP.Socket.new
  await deadline ["client error (Connect)", "tcp connect error"]
    (socket.connect (socketAddress address port.toUInt16))
  await deadline ["client error (SendRequest)"] (socket.send #[request.bytes])
  let bytes ← receive deadline socket ByteArray.empty
  let some reply := HttpReply.ofBytes? request.method bytes.toList
    | throw ["client error (SendRequest)", "invalid reply"]
  return reply

def answer (request : HttpRequest) (deadline : Task (Option Unit)) : IO HttpAnswer := do
  try
    (exchange request deadline).run
  catch e => return .error ["client error (Connect)", toString e]

/-- Does what a run says. The time for its requests starts with the first of them. -/
def perform (timeout : UInt64) (deadline : Option (Task (Option Unit))) : Run → IO UInt32
  | .write .out line next => do
      IO.println line
      perform timeout deadline next
  | .write .err line next => do
      IO.eprintln line
      perform timeout deadline next
  | .ask message next => do
      IO.println (Run.question message)
      let line ← (← IO.getStdin).getLine
      perform timeout deadline (next (Run.approves line.toList))
  | .send request next => do
      let deadline ← match deadline with
        | some deadline => pure deadline
        | none => pure (← (← Timer.mk timeout false).next).result?
      let answered ← answer request deadline
      perform timeout deadline (next answered)
  | .finish none => return 0
  | .finish (some complaint) => do
      IO.eprint complaint.text
      return 1

def refuse (refusal : Refusal) : IO UInt32 := do
  IO.print refusal.report.out
  IO.eprint refusal.report.err
  return refusal.report.exitCode.toUInt32

def invoke (invocation : Invocation) : IO UInt32 := do
  match invocation.settings (← readFile invocation.config) (← readEnvironment) with
  | .error complaint => perform 0 none (.finish (some complaint))
  | .ok settings =>
      let timeout := min (settings.requestTimeoutSecs * 1000) 9223372036854775808
      perform timeout.toUInt64 none (invocation.start settings (← readFile invocation.schema))

end DeclaredScreens.Main

def main (arguments : List String) : IO UInt32 :=
  match DeclaredScreens.Invocation.ofArguments arguments with
  | .ok invocation => DeclaredScreens.Main.invoke invocation
  | .error refusal => DeclaredScreens.Main.refuse refusal
