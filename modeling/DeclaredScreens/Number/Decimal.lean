import DeclaredScreens.Number.Binary64

/-! Decimal text for doubles. `Decimal.shortest` finds the coarsest decimal grid that has a
point among the reals rounding to the double, and takes the nearest such point; a
`DecimalStyle` says how the digits found are laid out. Which text a document or a template
uses is decided where they are written, by the two styles at the end. -/

namespace DeclaredScreens

structure Decimal where
  digits : Nat
  exponent : Int
deriving DecidableEq

inductive Tie
  | even | up
deriving DecidableEq

namespace Decimal

/-- The reals that round to a double, as multiples of a quarter of its unit: the ends are
halfway to the neighbours, and belong to it when its mantissa is even. -/
structure Interval where
  low : Nat
  value : Nat
  high : Nat
  closed : Bool

def Interval.around (f : Binary64) : Interval :=
  let step := Nat.pow 2 f.exponent
  let below := if f.mantissa = Nat.pow 2 52 ∧ 0 < f.exponent then step else 2 * step
  { low := 4 * f.magnitude - below
    value := 4 * f.magnitude
    high := 4 * f.magnitude + 2 * step
    closed := f.mantissa % 2 = 0 }

def Interval.holds (i : Interval) (scale point : Nat) : Bool :=
  if i.closed then i.low * scale ≤ point && point ≤ i.high * scale
  else i.low * scale < point && point < i.high * scale

/-- The grid point of `10 ^ exponent` chosen for the double, if one rounds to it: of the two
neighbours on the grid, the one inside, or the nearer when both are. -/
def onGrid? (tie : Tie) (i : Interval) (exponent : Int) : Option Nat :=
  let scale := Nat.pow 10 (-exponent).toNat
  let width := 4 * Binary64.unitsPerOne * Nat.pow 10 exponent.toNat
  let below := i.value * scale / width
  let above := below + 1
  match i.holds scale (below * width), i.holds scale (above * width) with
  | false, false => none
  | true, false => some below
  | false, true => some above
  | true, true =>
      let down := i.value * scale - below * width
      let up := above * width - i.value * scale
      if down < up then some below
      else if up < down then some above
      else match tie with
        | .up => some above
        | .even => some (if below % 2 = 0 then below else above)

def search (tie : Tie) (i : Interval) (top : Int) : Nat → Decimal
  | 0 => ⟨0, 0⟩
  | grids + 1 =>
      match onGrid? tie i top with
      | some digits => ⟨digits, top⟩
      | none => search tie i (top - 1) grids

/-- The fewest digits that read back as the double, nearest to it; the sign is left out. The
finest grid is below the spacing of the smallest doubles, so the search ends with a hit. -/
def shortest (tie : Tie) (f : Binary64) : Decimal :=
  if f.mantissa = 0 then ⟨0, 0⟩ else search tie (.around f) 308 633

end Decimal

structure DecimalStyle where
  tie : Tie
  /-- The decimal exponents written without an exponent part; all of them when absent. -/
  positional : Option (Int × Int)
  keepsFraction : Bool

namespace DecimalStyle

def digitChars (n : Nat) : List Char := Nat.toDigits 10 n

def positionalChars (style : DecimalStyle) (digits : List Char) (whole : Int) : List Char :=
  if whole ≤ 0 then
    '0' :: '.' :: (List.replicate (-whole).toNat '0' ++ digits)
  else if digits.length ≤ whole.toNat then
    digits ++ List.replicate (whole.toNat - digits.length) '0' ++
      (if style.keepsFraction then ['.', '0'] else [])
  else
    digits.take whole.toNat ++ '.' :: digits.drop whole.toNat

def exponentChars (exponent : Int) : List Char :=
  'e' :: (if exponent < 0 then '-' else '+') :: digitChars exponent.natAbs

def scientificChars (digits : List Char) (exponent : Int) : List Char :=
  match digits with
  | [] => []
  | [d] => d :: exponentChars exponent
  | d :: rest => d :: '.' :: (rest ++ exponentChars exponent)

def magnitudeChars (style : DecimalStyle) (f : Binary64) : List Char :=
  if f.mantissa = 0 then (if style.keepsFraction then ['0', '.', '0'] else ['0'])
  else
    let decimal := Decimal.shortest style.tie f
    let digits := digitChars decimal.digits
    let whole := digits.length + decimal.exponent
    match style.positional with
    | none => style.positionalChars digits whole
    | some (least, greatest) =>
        if least ≤ whole - 1 ∧ whole - 1 ≤ greatest then style.positionalChars digits whole
        else scientificChars digits (whole - 1)

def chars (style : DecimalStyle) (f : Binary64) : List Char :=
  if f.negative then '-' :: style.magnitudeChars f else style.magnitudeChars f

/-- Numbers in documents: positional from `0.00001` up to sixteen whole digits, and always
recognisable as fractions. -/
def document : DecimalStyle := ⟨.even, some (-5, 15), true⟩

/-- Numbers shown to people: always positional, whole numbers without a point. -/
def plain : DecimalStyle := ⟨.up, none, false⟩

end DecimalStyle

end DeclaredScreens
