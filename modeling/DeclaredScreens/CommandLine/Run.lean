import DeclaredScreens.Http

/-! A run of the command line, as the tree of what it does: lines it writes, the question it
asks, the requests it sends, and how it ends. A tree can be played against given input and a
given network, which tells what can be seen of the run. The lines of a log, which settings can
turn on, are no part of it. -/

namespace DeclaredScreens

structure Complaint where
  message : String
  causes : List String
deriving DecidableEq

namespace Complaint

def plain (message : String) : Complaint := ⟨message, []⟩

/-- Causes one a line, numbered if there are several. -/
def causeLines : List String → List String
  | [] => []
  | [cause] => ["    " ++ cause]
  | causes => causes.zipIdx.map fun (cause, i) =>
      let number := toString i
      String.ofList (List.replicate (5 - number.length) ' ') ++ number ++ ": " ++ cause

def text (c : Complaint) : String :=
  let behind := match causeLines c.causes with
    | [] => ""
    | lines => "\n\nCaused by:\n" ++ "\n".intercalate lines
  "Error: " ++ c.message ++ behind ++ "\n"

end Complaint

inductive Stream
  | out | err
deriving DecidableEq

inductive Run
  | write (stream : Stream) (line : String) (next : Run)
  | ask (question : String) (next : Bool → Run)
  | send (request : HttpRequest) (next : HttpAnswer → Run)
  | finish (complaint : Option Complaint)

namespace Run

def isBlank (c : Char) : Bool :=
  let n := c.toNat
  (9 ≤ n && n ≤ 13) || n = 0x20 || n = 0x85 || n = 0xA0 || n = 0x1680 ||
    (0x2000 ≤ n && n ≤ 0x200A) || n = 0x2028 || n = 0x2029 || n = 0x202F || n = 0x205F ||
    n = 0x3000

def trimmed (cs : List Char) : List Char :=
  ((cs.dropWhile isBlank).reverse.dropWhile isBlank).reverse

/-- Only `y` and `yes` approve, in either case and with blanks around. -/
def approves (line : List Char) : Bool :=
  let word := String.ofList ((trimmed line).map Char.toLower)
  word = "y" || word = "yes"

def question (message : String) : String := message ++ " [y/N]"

/-- What can be seen of a run, but for its log. -/
structure Report where
  exitCode : Nat
  out : String
  err : String
  requests : List HttpRequest

def Report.line (r : Report) (stream : Stream) (line : String) : Report :=
  match stream with
  | .out => { r with out := line ++ "\n" ++ r.out }
  | .err => { r with err := line ++ "\n" ++ r.err }

/-- Plays a run: its questions are answered by the first line of the input, its requests by
the network, one after the other. -/
def play (input : String) (network : Network) : Run → Report
  | write stream line next => (play input network next).line stream line
  | ask message next =>
      let approved := approves (input.toList.takeWhile (· ≠ '\n'))
      (play input network (next approved)).line .out (question message)
  | send request next =>
      let report := play input (network.after 1) (next (network 0 request))
      { report with requests := request :: report.requests }
  | finish none => ⟨0, "", "", []⟩
  | finish (some complaint) => ⟨1, "", complaint.text, []⟩

def fail (message : String) : Run := finish (some (.plain message))

def writeAll (lines : List String) (next : Run) : Run := lines.foldr (write .out) next

end Run

end DeclaredScreens
