import DeclaredScreens.Json.Basic
import DeclaredScreens.Number.Digits

/-! Document text as it is read, before anyone asks what it means. A `Raw` tree keeps what a
document value drops: repeated names, numbers beyond the doubles, strings with half a
surrogate pair, and the place where the text stops being a document. Reading a value of some
type walks this tree from the front, so the first fault in the text is the one it meets;
parts that nobody asks for only have to be well bracketed. -/

namespace DeclaredScreens

inductive Raw
  | broken
  | null
  | bool (value : Bool)
  /-- A number, absent when it is beyond the doubles. -/
  | number (value : Option Number)
  /-- A string, absent when it holds half a surrogate pair. -/
  | string (value : Option String)
  | array (items : List Raw)
  /-- Members under their names, absent like a string; a break is a last nameless member. -/
  | object (members : List (Option String × Raw))

instance : Inhabited Raw := ⟨.broken⟩

namespace Raw

def isBlank (c : Char) : Bool := c = ' ' || c = '\t' || c = '\n' || c = '\r'

def skipBlanks (cs : List Char) : List Char := cs.dropWhile isBlank

/-- The greatest significand that a literal collects before it drops digits. -/
def significandLimit : Nat := 18446744073709551615

/-- Appends digits while the significand stays within its limit; also tells how many. -/
def absorb (significand count : Nat) : List Char → Nat × Nat
  | [] => (significand, count)
  | d :: ds =>
      let next := significand * 10 + (d.toNat - '0'.toNat)
      if next ≤ significandLimit then absorb next (count + 1) ds else (significand, count)

structure Literal where
  negative : Bool
  whole : List Char
  fraction : Option (List Char)
  exponent : Option (Bool × List Char)

def digitValue (digits : List Char) : Nat :=
  digits.foldl (fun n d => n * 10 + (d.toNat - '0'.toNat)) 0

/-- The number a literal stands for: an integer when it has neither fraction nor exponent
and fits 64 bits, otherwise a double, which `-0` is too. -/
def Literal.number? (l : Literal) : Option Number :=
  let (whole, used) := absorb 0 0 l.whole
  let dropped := l.whole.length - used
  match l.fraction, l.exponent with
  | none, none =>
      let value : Int := if l.negative then -(digitValue l.whole : Int) else digitValue l.whole
      if fits : (-9223372036854775808 ≤ value ∧ value < 18446744073709551616) ∧
          ¬(l.negative ∧ value = 0) then
        some (.integer value fits.1)
      else (Binary64.ofLiteral? l.negative whole dropped).map .float
  | fraction, exponent =>
      let (significand, places) := absorb whole 0 (fraction.getD [])
      let shift : Int :=
        match exponent with
        | none => 0
        | some (true, digits) => -(digitValue digits : Int)
        | some (false, digits) => digitValue digits
      (Binary64.ofLiteral? l.negative significand (dropped - places + shift)).map .float

def digits (cs : List Char) : List Char × List Char :=
  (cs.takeWhile Char.isDigit, cs.dropWhile Char.isDigit)

/-- The exponent part of a number, if one follows; none when it lacks its digits. -/
def exponent? (cs : List Char) : Option (Option (Bool × List Char) × List Char) :=
  let signed (negative : Bool) (rest : List Char) :=
    match digits rest with
    | ([], _) => none
    | (ds, rest) => some (some (negative, ds), rest)
  match cs with
  | 'e' :: '-' :: rest | 'E' :: '-' :: rest => signed true rest
  | 'e' :: '+' :: rest | 'E' :: '+' :: rest => signed false rest
  | 'e' :: rest | 'E' :: rest => signed false rest
  | _ => some (none, cs)

def fraction? (cs : List Char) : Option (Option (List Char) × List Char) :=
  match cs with
  | '.' :: rest =>
      match digits rest with
      | ([], _) => none
      | (ds, rest) => some (some ds, rest)
  | _ => some (none, cs)

def whole? (cs : List Char) : Option (List Char × List Char) :=
  match digits cs with
  | ([], _) => none
  | ('0' :: _ :: _, _) => none
  | (ds, rest) => some (ds, rest)

def literal? (cs : List Char) : Option (Literal × List Char) := do
  let (negative, cs) := match cs with
    | '-' :: rest => (true, rest)
    | _ => (false, cs)
  let (whole, cs) ← whole? cs
  let (fraction, cs) ← fraction? cs
  let (exponent, cs) ← exponent? cs
  return (⟨negative, whole, fraction, exponent⟩, cs)

def hexUnit? : List Char → Option (Nat × List Char)
  | a :: b :: c :: d :: rest => do
      let a ← Digits.value? a
      let b ← Digits.value? b
      let c ← Digits.value? c
      let d ← Digits.value? d
      return (((a * 16 + b) * 16 + c) * 16 + d, rest)
  | _ => none

inductive Piece
  | char (c : Char)
  | half (unit : Nat)

def simpleEscape? : Char → Option Char
  | '"' => some '"'
  | '\\' => some '\\'
  | '/' => some '/'
  | 'b' => some '\x08'
  | 'f' => some '\x0c'
  | 'n' => some '\n'
  | 'r' => some '\r'
  | 't' => some '\t'
  | _ => none

def unitPiece (unit : Nat) : Piece :=
  if 0xD800 ≤ unit ∧ unit < 0xE000 then .half unit else .char (Char.ofNat unit)

/-- The pieces up to the closing quote; none when there is none, or an escape or a control
character that no string may hold comes first. -/
def pieces? : Nat → List Char → Option (List Piece × List Char)
  | 0, _ => none
  | _, [] => none
  | _, '"' :: rest => some ([], rest)
  | fuel + 1, '\\' :: 'u' :: rest => do
      let (unit, rest) ← hexUnit? rest
      let (more, rest) ← pieces? fuel rest
      return (unitPiece unit :: more, rest)
  | fuel + 1, '\\' :: c :: rest => do
      let c ← simpleEscape? c
      let (more, rest) ← pieces? fuel rest
      return (.char c :: more, rest)
  | fuel + 1, c :: rest =>
      if c.toNat < 32 then none
      else do
        let (more, rest) ← pieces? fuel rest
        return (.char c :: more, rest)

/-- The characters that the pieces spell, when every high half is followed by a low one. -/
def spell? : List Piece → Option (List Char)
  | [] => some []
  | .char c :: rest => (spell? rest).map (c :: ·)
  | .half high :: .half low :: rest =>
      if high < 0xDC00 ∧ 0xDC00 ≤ low then
        (spell? rest).map (Char.ofNat ((high - 0xD800) * 0x400 + (low - 0xDC00) + 0x10000) :: ·)
      else none
  | .half _ :: _ => none

def string? (cs : List Char) : Option (Option String × List Char) :=
  (pieces? (cs.length + 1) cs).map fun (pieces, rest) => ((spell? pieces).map String.ofList, rest)

mutual

/-- The value at the front and the text after it; after a break nothing is left. -/
def readValue : Nat → List Char → Raw × List Char
  | 0, _ => (broken, [])
  | fuel + 1, cs =>
      match skipBlanks cs with
      | 'n' :: 'u' :: 'l' :: 'l' :: rest => (null, rest)
      | 't' :: 'r' :: 'u' :: 'e' :: rest => (bool true, rest)
      | 'f' :: 'a' :: 'l' :: 's' :: 'e' :: rest => (bool false, rest)
      | '"' :: rest =>
          match string? rest with
          | some (s, rest) => (string s, rest)
          | none => (broken, [])
      | '[' :: rest =>
          match skipBlanks rest with
          | ']' :: rest => (array [], rest)
          | rest =>
              let (items, rest) := readItems fuel rest
              (array items, rest)
      | '{' :: rest =>
          match skipBlanks rest with
          | '}' :: rest => (object [], rest)
          | rest =>
              let (members, rest) := readMembers fuel rest
              (object members, rest)
      | cs =>
          match literal? cs with
          | some (l, rest) => (number l.number?, rest)
          | none => (broken, [])

def readItems : Nat → List Char → List Raw × List Char
  | 0, _ => ([broken], [])
  | fuel + 1, cs =>
      let (item, rest) := readValue fuel cs
      match skipBlanks rest with
      | ',' :: rest =>
          let (items, rest) := readItems fuel rest
          (item :: items, rest)
      | ']' :: rest => ([item], rest)
      | _ => ([item, broken], [])

def readMembers : Nat → List Char → List (Option String × Raw) × List Char
  | 0, _ => ([(none, broken)], [])
  | fuel + 1, cs =>
      match skipBlanks cs with
      | '"' :: rest =>
          match string? rest with
          | none => ([(none, broken)], [])
          | some (name, rest) =>
              match skipBlanks rest with
              | ':' :: rest =>
                  let (value, rest) := readValue fuel rest
                  match skipBlanks rest with
                  | ',' :: rest =>
                      let (members, rest) := readMembers fuel rest
                      ((name, value) :: members, rest)
                  | '}' :: rest => ([(name, value)], rest)
                  | _ => ([(name, value), (none, broken)], [])
              | _ => ([(name, broken)], [])
      | _ => ([(none, broken)], [])

end

def ofChars (cs : List Char) : Raw × Bool :=
  let (value, rest) := readValue (2 * cs.length + 2) cs
  (value, (skipBlanks rest).isEmpty)

def ofText (text : String) : Raw × Bool := ofChars text.toList

mutual

/-- Is the text a document all through, whatever its numbers, strings and depth? -/
def complete : Raw → Bool
  | broken => false
  | array items => completeItems items
  | object members => completeMembers members
  | _ => true

def completeItems : List Raw → Bool
  | [] => true
  | x :: xs => complete x && completeItems xs

def completeMembers : List (Option String × Raw) → Bool
  | [] => true
  | (_, value) :: rest => complete value && completeMembers rest

end

mutual

/-- The document value, when at most `room` brackets are open at once. -/
def value? : Nat → Raw → Option Json
  | _, broken => none
  | _, null => some .null
  | _, bool b => some (.bool b)
  | _, number n => n.map .number
  | _, string s => s.map .string
  | 0, array _ => none
  | room + 1, array items => (itemValues? room items).map .array
  | 0, object _ => none
  | room + 1, object members => (memberValues? room members []).map .object

def itemValues? : Nat → List Raw → Option (List Json)
  | _, [] => some []
  | room, x :: xs => do
      let x ← value? room x
      let xs ← itemValues? room xs
      return x :: xs

/-- Members read so far, then the rest: a repeated name keeps its place and gets the later
value. -/
def memberValues? : Nat → List (Option String × Raw) → Record → Option Record
  | _, [], done => some done
  | _, (none, _) :: _, _ => none
  | room, (some name, value) :: rest, done => do
      let value ← value? room value
      memberValues? room rest (Entries.put name value done)

end

end Raw

def Json.nestingLimit : Nat := 127

def Json.ofText? (text : String) : Option Json :=
  match Raw.ofText text with
  | (value, true) => value.value? Json.nestingLimit
  | (_, false) => none

end DeclaredScreens
