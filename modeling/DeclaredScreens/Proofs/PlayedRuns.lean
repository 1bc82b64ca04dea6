import DeclaredScreens.CommandLine.Run

/-! What is seen of a run when it is played: the lines of its output one by one, and what writing
many lines in front of a run adds to it. -/

namespace DeclaredScreens.Run

def written (lines : List String) : String := String.join (lines.map (· ++ "\n"))

@[simp] theorem written_nil : written [] = "" := rfl

@[simp] theorem written_cons (line : String) (rest : List String) :
    written (line :: rest) = line ++ "\n" ++ written rest := String.join_cons

variable (input : String) (network : Network)

/-- The lines that the run writes to its output when it is played, questions among them. -/
def shown (input : String) (network : Network) : Run → List String
  | write .out line next => line :: shown input network next
  | write .err _ next => shown input network next
  | ask message next =>
      let approved := approves (input.toList.takeWhile (· ≠ '\n'))
      question message :: shown input network (next approved)
  | send request next => shown input (network.after 1) (next (network 0 request))
  | finish _ => []

theorem out_play (run : Run) :
    (play input network run).out = written (shown input network run) := by
  induction run generalizing network with
  | write stream line next ih => cases stream <;> simp [play, shown, Report.line, ih]
  | ask message next ih => simp [play, shown, Report.line, ih]
  | send request next ih => exact ih _ _
  | finish complaint => cases complaint <;> rfl

theorem play_writeAll (lines : List String) (next : Run) :
    play input network (writeAll lines next) =
      { play input network next with
        out := written lines ++ (play input network next).out } := by
  induction lines with
  | nil => simp [writeAll]
  | cons line rest ih =>
      rw [writeAll, List.foldr_cons, ← writeAll, play, ih]
      simp [Report.line, String.append_assoc]

end DeclaredScreens.Run
