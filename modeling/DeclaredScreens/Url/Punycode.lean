/-! Punycode: a label with characters outside ASCII, written in letters, digits and hyphens.
The other characters follow in increasing order, each told by its distance from the one
before, in digits whose weights adapt to the distances so far. -/

namespace DeclaredScreens.Punycode

def digitChar (d : Nat) : Char :=
  if d < 26 then Char.ofNat (97 + d) else Char.ofNat (22 + d)

def digitValue? (c : Char) : Option Nat :=
  if 'a' ≤ c ∧ c ≤ 'z' then some (c.toNat - 97)
  else if 'A' ≤ c ∧ c ≤ 'Z' then some (c.toNat - 65)
  else if c.isDigit then some (c.toNat - 22)
  else none

/-- The least value that needs a further digit after the one of weight position `k`. -/
def threshold (k bias : Nat) : Nat :=
  if k ≤ bias then 1 else if bias + 26 ≤ k then 26 else k - bias

theorem threshold_pos (k bias : Nat) : 0 < threshold k bias := by
  unfold threshold
  split
  · omega
  · split <;> omega

theorem threshold_le (k bias : Nat) : threshold k bias ≤ 26 := by
  unfold threshold
  split
  · omega
  · split <;> omega

def damp (delta k : Nat) : Nat × Nat :=
  if 455 < delta then damp (delta / 35) (k + 36) else (delta, k)
termination_by delta
decreasing_by omega

/-- The bias after a distance; the first one counts for less. -/
def adapt (delta count : Nat) (first : Bool) : Nat :=
  let halved := if first then delta / 700 else delta / 2
  let (rest, k) := damp (halved + halved / count) 0
  k + 36 * rest / (rest + 38)

def deltaChars (bias k q : Nat) : List Char :=
  if q < threshold k bias then [digitChar q]
  else
    digitChar (threshold k bias + (q - threshold k bias) % (36 - threshold k bias)) ::
      deltaChars bias (k + 36) ((q - threshold k bias) / (36 - threshold k bias))
termination_by q
decreasing_by
  have positive := threshold_pos k bias
  have bounded := threshold_le k bias
  exact Nat.lt_of_le_of_lt (Nat.div_le_self _ _) (by omega)

structure Encoder where
  output : List Char
  delta : Nat
  bias : Nat
  handled : Nat

def Encoder.look (basic round : Nat) (e : Encoder) (c : Char) : Encoder :=
  if c.toNat < round then { e with delta := e.delta + 1 }
  else if c.toNat = round then
    { output := e.output ++ deltaChars e.bias 36 e.delta
      delta := 0
      bias := adapt e.delta (e.handled + 1) (e.handled = basic)
      handled := e.handled + 1 }
  else e

def Encoder.rounds (label : List Char) (basic : Nat) : List Nat → Nat → Encoder → Encoder
  | [], _, e => e
  | round :: more, next, e =>
      let e := { e with delta := e.delta + (round - next) * (e.handled + 1) }
      let e := label.foldl (Encoder.look basic round) e
      rounds label basic more (round + 1) { e with delta := e.delta + 1 }

def encode (label : List Char) : List Char :=
  let basic := label.filter fun c => c.toNat < 128
  let others := (label.map Char.toNat).filter fun n => 128 ≤ n
  let rounds := (others.mergeSort (· ≤ ·)).eraseDups
  let e := Encoder.rounds label basic.length rounds 128 ⟨[], 0, 72, basic.length⟩
  (if basic.isEmpty then [] else basic ++ ['-']) ++ e.output

/-- One distance and the text after it. Distances and weights have 32 bits. -/
def delta? (bias : Nat) : Nat → Nat → Nat → List Char → Option (Nat × List Char)
  | _, _, _, [] => none
  | k, weight, sum, c :: rest => do
      let digit ← digitValue? c
      let sum := sum + digit * weight
      if 4294967296 ≤ weight ∨ 4294967296 ≤ sum then none
      else if digit < threshold k bias then return (sum, rest)
      else delta? bias (k + 36) (weight * (36 - threshold k bias)) sum rest

def insertAt (label : List Char) (place : Nat) (c : Char) : List Char :=
  label.take place ++ c :: label.drop place

/-- Reads distances until the text ends; every one takes at least a character. -/
def decodeFrom : Nat → Nat → Nat → Nat → List Char → List Char → Option (List Char)
  | _, _, _, _, label, [] => some label
  | 0, _, _, _, _, _ :: _ => none
  | fuel + 1, point, place, bias, label, cs => do
      let (delta, rest) ← delta? bias 36 1 0 cs
      let count := label.length + 1
      let reached := place + delta
      let point := point + reached / count
      if 0x110000 ≤ point ∨ (0xD800 ≤ point ∧ point < 0xE000) then none
      else
        decodeFrom fuel point (reached % count + 1) (adapt delta count (place = 0))
          (insertAt label (reached % count) (Char.ofNat point)) rest

/-- The characters before the last hyphen and the text after it. A hyphen in front separates
nothing. -/
def splitLastHyphen (cs : List Char) : List Char × List Char :=
  let digits := (cs.reverse.takeWhile (· ≠ '-')).reverse
  let basic := cs.take (cs.length - digits.length - 1)
  if basic.isEmpty then ([], cs) else (basic, digits)

def decode? (cs : List Char) : Option (List Char) :=
  let (basic, digits) := splitLastHyphen cs
  if basic.all fun c => c.toNat < 128 then
    decodeFrom digits.length 128 0 72 basic digits
  else none

end DeclaredScreens.Punycode
