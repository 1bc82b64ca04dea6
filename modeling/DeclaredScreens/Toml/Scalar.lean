import DeclaredScreens.Number.Digits
import DeclaredScreens.Toml.Basic

/-! The values that are written without quotes or brackets: booleans, integers in four bases,
floats, and moments. Digits may be grouped by single underscores; an integer has 64 bits, and
a float must not round beyond the largest double, unless it is negative. -/

namespace DeclaredScreens.Toml

def isScalarChar (c : Char) : Bool := c.isAlphanum || "+-.:_".toList.contains c

/-- Digits in groups that single underscores hold together. -/
def grouped? (isDigit : Char → Bool) (cs : List Char) : Option (List Char) :=
  let groups := cs.splitOn '_'
  if groups.all fun group => !group.isEmpty && group.all isDigit then some groups.flatten
  else none

def inBase? (base : Nat) (isDigit : Char → Bool) (cs : List Char) : Option Toml := do
  let n := Digits.number base (← grouped? isDigit cs)
  if n < 9223372036854775808 then return .integer n else none

def whole? (cs : List Char) : Option (List Char) := do
  match ← grouped? Char.isDigit cs with
  | '0' :: _ :: _ => none
  | digits => return digits

def signed (cs : List Char) : Bool × List Char :=
  match cs with
  | '-' :: rest => (true, rest)
  | '+' :: rest => (false, rest)
  | rest => (false, rest)

def decimal? (cs : List Char) : Option Toml := do
  let (negative, digits) := signed cs
  let n : Int := Digits.number 10 (← whole? digits)
  let n := if negative then -n else n
  if -9223372036854775808 ≤ n ∧ n < 9223372036854775808 then return .integer n else none

def integer? (cs : List Char) : Option Toml :=
  match cs with
  | '0' :: 'x' :: digits => inBase? 16 Digits.isHex digits
  | '0' :: 'o' :: digits => inBase? 8 (fun c => '0' ≤ c && c ≤ '7') digits
  | '0' :: 'b' :: digits => inBase? 2 (fun c => c = '0' || c = '1') digits
  | cs => decimal? cs

def overflows (significand : Nat) (exponent : Int) : Bool :=
  let limit := Nat.pow 2 1024 - Nat.pow 2 970
  match exponent with
  | .ofNat k => significand ≠ 0 && (k > 309 || limit ≤ significand * Nat.pow 10 k)
  | .negSucc k =>
      let digits := (Nat.toDigits 10 significand).length
      k < digits && limit * Nat.pow 10 (k + 1) ≤ significand

def exponent? (cs : List Char) : Option Int := do
  let (negative, digits) := signed cs
  let n : Int := Digits.number 10 (← grouped? Char.isDigit digits)
  return if negative then -n else n

def isExponentMark (c : Char) : Bool := c = 'e' || c = 'E'

def float? (cs : List Char) : Option Toml := do
  let (negative, unsigned) := signed cs
  let exponent ← match unsigned.dropWhile fun c => !isExponentMark c with
    | [] => some 0
    | _ :: digits => exponent? digits
  let mantissa := unsigned.takeWhile fun c => !isExponentMark c
  let whole ← whole? (mantissa.takeWhile (· ≠ '.'))
  let fraction ← match mantissa.dropWhile (· ≠ '.') with
    | [] => if mantissa.length < unsigned.length then some [] else none
    | _ :: digits => grouped? Char.isDigit digits
  if !negative && overflows (Digits.number 10 (whole ++ fraction)) (exponent - fraction.length) then
    none
  else return .float (String.ofList cs)

def specialFloat? (cs : List Char) : Option Toml :=
  let (_, unsigned) := signed cs
  if unsigned = "inf".toList || unsigned = "nan".toList then some (.float (String.ofList cs))
  else none

def isTwoDigits (low high : Nat) (a b : Char) : Bool :=
  a.isDigit && b.isDigit && low ≤ Digits.number 10 [a, b] && Digits.number 10 [a, b] ≤ high

def daysIn (year month : Nat) : Nat :=
  if month = 2 then
    if year % 4 = 0 ∧ (year % 100 ≠ 0 ∨ year % 400 = 0) then 29 else 28
  else if month = 4 ∨ month = 6 ∨ month = 9 ∨ month = 11 then 30
  else 31

def afterDate? (cs : List Char) : Option (List Char) :=
  match cs with
  | y₁ :: y₂ :: y₃ :: y₄ :: '-' :: m₁ :: m₂ :: '-' :: d₁ :: d₂ :: rest =>
      let year := Digits.number 10 [y₁, y₂, y₃, y₄]
      let month := Digits.number 10 [m₁, m₂]
      if [y₁, y₂, y₃, y₄].all Char.isDigit && isTwoDigits 1 12 m₁ m₂ &&
          isTwoDigits 1 (daysIn year month) d₁ d₂ then
        some rest
      else none
  | _ => none

/-- What follows a time `hh:mm:ss` at the front; the last second of a minute may be a leap
second, and parts of a second may follow. -/
def afterTime? (lastHour : Nat) (cs : List Char) : Option (List Char) :=
  match cs with
  | h₁ :: h₂ :: ':' :: m₁ :: m₂ :: ':' :: s₁ :: s₂ :: rest =>
      if isTwoDigits 0 lastHour h₁ h₂ && isTwoDigits 0 59 m₁ m₂ && isTwoDigits 0 60 s₁ s₂ then
        match rest with
        | '.' :: fraction =>
            if (fraction.takeWhile Char.isDigit).isEmpty then none
            else some (fraction.dropWhile Char.isDigit)
        | rest => some rest
      else none
  | _ => none

def isOffset (cs : List Char) : Bool :=
  match cs with
  | ['Z'] | ['z'] => true
  | [sign, h₁, h₂, ':', m₁, m₂] =>
      (sign = '+' || sign = '-') && isTwoDigits 0 23 h₁ h₂ && isTwoDigits 0 59 m₁ m₂
  | _ => false

def isDate (cs : List Char) : Bool := afterDate? cs = some []

def isTime (cs : List Char) : Bool := afterTime? 23 cs = some []

def isTimeWithOffset (cs : List Char) : Bool :=
  match afterTime? 23 cs with
  | some rest => rest.isEmpty || isOffset rest
  | none => false

def isMoment (cs : List Char) : Bool :=
  isDate cs || isTime cs ||
    match afterDate? cs with
    | some (mark :: time) => (mark = 'T' || mark = 't') && isTimeWithOffset time
    | _ => false

def isWideOffset (cs : List Char) : Bool :=
  match cs with
  | [] | ['Z'] | ['z'] => true
  | [sign, h₁, h₂, ':', m₁, m₂] =>
      let minutes := Digits.number 10 [h₁, h₂] * 60 + Digits.number 10 [m₁, m₂]
      (sign = '+' || sign = '-') && [h₁, h₂, m₁, m₂].all Char.isDigit && minutes ≤ 24 * 60
  | _ => false

/-- The wider rule for moments in quotes: midnight may end a day, a blank may stand before the
time, and an offset may follow a date alone. -/
def isQuotedMoment (cs : List Char) : Bool :=
  if cs[2]? = some ':' then afterTime? 24 cs = some []
  else
    match afterDate? cs with
    | none => false
    | some [] => true
    | some (mark :: rest) =>
        if mark = 'T' || mark = 't' || mark = ' ' then (afterTime? 24 rest).any isWideOffset
        else isWideOffset (mark :: rest)

def boolean? (cs : List Char) : Option Toml :=
  if cs = "true".toList then some (.boolean true)
  else if cs = "false".toList then some (.boolean false)
  else none

def ofWord? (cs : List Char) : Option Toml :=
  if isMoment cs then some (.moment (String.ofList cs))
  else boolean? cs <|> integer? cs <|> float? cs <|> specialFloat? cs

/-- The value at the front, and what follows it. A blank may stand between date and time. -/
def scalar? (cs : List Char) : Option (Toml × List Char) := do
  let word := cs.takeWhile isScalarChar
  let value ← ofWord? word
  match isDate word, cs.dropWhile isScalarChar with
  | true, ' ' :: d :: rest =>
      if d.isDigit then
        let time := (d :: rest).takeWhile isScalarChar
        if isTimeWithOffset time then
          return (.moment (String.ofList (word ++ ' ' :: time)), rest.dropWhile isScalarChar)
        else none
      else return (value, ' ' :: d :: rest)
  | _, rest => return (value, rest)

end DeclaredScreens.Toml
