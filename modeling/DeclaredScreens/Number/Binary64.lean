/-! Finite double-precision numbers as exact dyadic values. A value is counted in units
of `2 ^ -1074`, the spacing of the smallest doubles, so every finite double is an integer
number of units and comparison, rounding and reading need only exact integer arithmetic.
Infinities and NaN are left out: no document and no rule produces one. -/

namespace DeclaredScreens

/-- A finite double: `± mantissa · 2 ^ exponent` units of `2 ^ -1074`. -/
structure Binary64 where
  negative : Bool
  mantissa : Nat
  exponent : Nat
  mantissa_lt : mantissa < Nat.pow 2 53
  exponent_le : exponent ≤ 2045
  normal : Nat.pow 2 52 ≤ mantissa ∨ exponent = 0
deriving DecidableEq

namespace Binary64

def zero : Binary64 := ⟨false, 0, 0, by decide, by decide, .inr rfl⟩

def unitsPerOne : Nat := Nat.pow 2 1074

def magnitude (f : Binary64) : Nat := f.mantissa * Nat.pow 2 f.exponent

def units (f : Binary64) : Int :=
  if f.negative then -(f.magnitude : Int) else f.magnitude

def negate (f : Binary64) : Binary64 := { f with negative := !f.negative }

/-- The bit pattern: sign, then exponent and mantissa, whose sum carries the leading bit
of a normal mantissa into the exponent field. -/
def bits (f : Binary64) : Nat :=
  (if f.negative then Nat.pow 2 63 else 0) + f.exponent * Nat.pow 2 52 + f.mantissa

def ofParts? (negative : Bool) (mantissa exponent : Nat) : Option Binary64 :=
  if h : mantissa < Nat.pow 2 53 ∧ exponent ≤ 2045 ∧ (Nat.pow 2 52 ≤ mantissa ∨ exponent = 0) then
    some ⟨negative, mantissa, exponent, h.1, h.2.1, h.2.2⟩
  else none

def roundToEven (num den : Nat) : Nat :=
  let quotient := num / den
  let remainder := num % den
  if 2 * remainder < den then quotient
  else if 2 * remainder > den then quotient + 1
  else if quotient % 2 = 0 then quotient else quotient + 1

/-- The double nearest to `num / den` units, a tie going to the even mantissa; none when
it lies beyond the largest double. -/
def ofUnits? (negative : Bool) (num den : Nat) : Option Binary64 :=
  let exponent := (num / den).log2 - 52
  let mantissa := roundToEven num (den * Nat.pow 2 exponent)
  if mantissa = Nat.pow 2 53 then ofParts? negative (Nat.pow 2 52) (exponent + 1)
  else ofParts? negative mantissa exponent

/-- The double nearest to an integer; the integers of documents are far from overflow. -/
def ofInt (n : Int) : Binary64 :=
  (ofUnits? (n < 0) (n.natAbs * unitsPerOne) 1).getD zero

def tenPow (k : Nat) : Binary64 :=
  (ofUnits? false (Nat.pow 10 k * unitsPerOne) 1).getD zero

def times? (f g : Binary64) : Option Binary64 :=
  ofUnits? false (f.magnitude * g.magnitude) unitsPerOne

def dividedBy? (f g : Binary64) : Option Binary64 :=
  ofUnits? false (f.magnitude * unitsPerOne) g.magnitude

/-- A quotient of doubles is never beyond the largest double here: the divisors are powers
of ten, which are at least one. -/
def dividedBy (f g : Binary64) : Binary64 := (f.dividedBy? g).getD zero

/-- `f / 10 ^ k`, rounded after each division by at most `10 ^ 308`. -/
def shiftDown (f : Binary64) (k : Nat) : Binary64 :=
  if k ≤ 308 then f.dividedBy (tenPow k)
  else if f.mantissa = 0 then f
  else shiftDown (f.dividedBy (tenPow 308)) (k - 308)
termination_by k
decreasing_by omega

def shiftUp? (f : Binary64) (k : Nat) : Option Binary64 :=
  if k ≤ 308 then f.times? (tenPow k)
  else if f.mantissa = 0 then some f
  else none

/-- A decimal literal `± significand · 10 ^ exponent` is read by rounding the significand
and then scaling it, so a literal with many digits may land beside the nearest double. -/
def ofLiteral? (negative : Bool) (significand : Nat) (exponent : Int) : Option Binary64 :=
  let scaled :=
    match exponent with
    | .ofNat k => (ofInt significand).shiftUp? k
    | .negSucc k => some ((ofInt significand).shiftDown (k + 1))
  scaled.map fun f => if negative then f.negate else f

end Binary64

end DeclaredScreens
