import DeclaredScreens.Number.Digits

/-! Sets and maps of code points, read from text. The items of such a text stand between
blanks and its numbers are in hexadecimal. A set lists its runs, as in `41-5A 5F`. A map lists
runs with the image of their first member: `41-5A=61` shifts a run, `100-12E/2=101` shifts
every second member of it, and `DF=73.73` has an image of several code points. -/

namespace DeclaredScreens

/-- Consecutive code points, both ends included. -/
structure CodeRun where
  low : Nat
  high : Nat

def CodeRun.contains (run : CodeRun) (n : Nat) : Bool := run.low ≤ n && n ≤ run.high

def CodeRun.ofChars (item : List Char) : CodeRun :=
  let ends := (item.splitOn '-').map (Digits.number 16)
  ⟨ends.headD 0, ends.getLastD 0⟩

abbrev CodeSet := List CodeRun

def CodeSet.items (text : String) : List (List Char) :=
  (text.toList.splitOnP fun c => c = ' ' || c = '\n').filter (!·.isEmpty)

def CodeSet.ofText (text : String) : CodeSet := (items text).map CodeRun.ofChars

def CodeSet.contains (set : CodeSet) (n : Nat) : Bool := set.any (·.contains n)

/-- Every `step`-th member of a run, and the image of the first of them. -/
structure CodeRow where
  run : CodeRun
  step : Nat
  image : List Nat

abbrev CodeMap := List CodeRow

namespace CodeRow

def ofChars (item : List Char) : CodeRow :=
  let sides := item.splitOn '='
  let run := (sides.headD []).splitOn '/'
  { run := .ofChars (run.headD [])
    step := if run.length = 1 then 1 else Digits.number 16 (run.getLastD [])
    image := ((sides.getLastD []).splitOn '.').map (Digits.number 16) }

def contains (row : CodeRow) (n : Nat) : Bool :=
  row.run.contains n && (n - row.run.low) % row.step = 0

/-- A single image moves along with the run. -/
def imageOf (row : CodeRow) (n : Nat) : List Nat :=
  match row.image with
  | [first] => [first + (n - row.run.low)]
  | image => image

end CodeRow

namespace CodeMap

def ofText (text : String) : CodeMap := (CodeSet.items text).map CodeRow.ofChars

def image? (map : CodeMap) (n : Nat) : Option (List Nat) :=
  (map.find? (·.contains n)).map (·.imageOf n)

end CodeMap

end DeclaredScreens
