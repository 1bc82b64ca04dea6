import DeclaredScreens.Url.Basic
import DeclaredScreens.Url.DomainName
import DeclaredScreens.Url.Percent

/-! Reading hosts. In the schemes of the web a host is an address in brackets, a domain name,
or, when its last label is a number, a network address in any of its spellings; in other
schemes it is text. -/

namespace DeclaredScreens.UrlHost

/-- A number in decimal, octal after a zero, or hexadecimal after `0x`. -/
def ipv4Number? (part : List Char) : Option Nat :=
  match part with
  | [] => none
  | '0' :: 'x' :: digits | '0' :: 'X' :: digits =>
      if digits.all Digits.isHex then some (Digits.number 16 digits) else none
  | '0' :: d :: digits =>
      if (d :: digits).all fun c => '0' ≤ c && c ≤ '7' then some (Digits.number 8 (d :: digits))
      else none
  | digits => if digits.all Char.isDigit then some (Digits.number 10 digits) else none

def ipv4Parts (name : List Char) : List (List Char) :=
  let parts := name.splitOn '.'
  if parts.getLast? = some [] then parts.dropLast else parts

def endsInNumber (name : List Char) : Bool :=
  match (ipv4Parts name).getLast? with
  | none => false
  | some last => (!last.isEmpty && last.all Char.isDigit) || (ipv4Number? last).isSome

def ipv4Numbers? : List (List Char) → Option (List Nat)
  | [] => some []
  | part :: rest => do
      let n ← ipv4Number? part
      let more ← ipv4Numbers? rest
      return n :: more

/-- The address of up to four numbers, the last of which fills the bytes left over. -/
def ipv4? (name : List Char) : Option Nat := do
  let numbers ← ipv4Numbers? (ipv4Parts name)
  let last ← numbers.getLast?
  let bytes := numbers.dropLast
  if 4 < numbers.length ∨ bytes.any (255 < ·) ∨ Nat.pow 256 (4 - bytes.length) ≤ last then none
  else return bytes.foldl (fun n b => n * 256 + b) 0 * Nat.pow 256 (4 - bytes.length) + last

/-- One byte of a dotted tail: no leading zeros, at most 255. -/
def dottedByte? (part : List Char) : Option Nat :=
  match part with
  | [] => none
  | '0' :: _ :: _ => none
  | digits =>
      if digits.all Char.isDigit && digits.length ≤ 3 && Digits.number 10 digits ≤ 255 then
        some (Digits.number 10 digits)
      else none

def dottedPieces? (text : List Char) : Option (List Nat) :=
  match (text.splitOn '.').map dottedByte? with
  | [some a, some b, some c, some d] => some [a * 256 + b, c * 256 + d]
  | _ => none

def piece? (text : List Char) : Option Nat :=
  if !text.isEmpty && text.length ≤ 4 && text.all Digits.isHex then some (Digits.number 16 text)
  else none

def pieces? : List (List Char) → Option (List Nat)
  | [] => some []
  | [last] => if last.contains '.' then dottedPieces? last else (piece? last).map ([·])
  | part :: rest => do
      let piece ← piece? part
      let more ← pieces? rest
      return piece :: more

def splitGap : List Char → Option (List Char × List Char)
  | ':' :: ':' :: rest => some ([], rest)
  | c :: rest => (splitGap rest).map fun (before, after) => (c :: before, after)
  | [] => none

def gapSide? (dotted : Bool) (text : List Char) : Option (List Nat) :=
  if text.isEmpty then some []
  else if !dotted && text.contains '.' then none
  else pieces? (text.splitOn ':')

/-- Eight pieces; `::` stands for as many zeros as are missing, at least one. -/
def ipv6? (text : List Char) : Option (List Nat) :=
  match splitGap text with
  | none => do
      let pieces ← pieces? (text.splitOn ':')
      if pieces.length = 8 then return pieces else none
  | some (before, after) => do
      let front ← gapSide? false before
      let back ← gapSide? true after
      if front.length + back.length < 8 then
        return front ++ List.replicate (8 - front.length - back.length) 0 ++ back
      else none

def bracketed? (text : List Char) : Except UrlError UrlHost :=
  match text.getLast? with
  | some ']' =>
      match ipv6? text.dropLast with
      | some pieces => .ok (.ipv6 pieces)
      | none => .error .invalidIpv6
  | _ => .error .invalidIpv6

def ofWeb (text : List Char) : Except UrlError UrlHost :=
  match text with
  | '[' :: rest => bracketed? rest
  | _ =>
      match (Percent.decodeText? text).bind DomainName.toAscii? with
      | none => .error .invalidDomain
      | some [] => .error .emptyHost
      | some domain =>
          if endsInNumber domain then
            match ipv4? domain with
            | some address => .ok (.ipv4 address)
            | none => .error .invalidIpv4
          else .ok (.name domain)

def isForbiddenInText (c : Char) : Bool :=
  "\x00\t\n\r #/:<>?@[\\]^|".toList.contains c

def ofText (text : List Char) : Except UrlError UrlHost :=
  match text with
  | '[' :: rest => bracketed? rest
  | _ =>
      if text.any isForbiddenInText then .error .invalidHostCharacter
      else .ok (.name (Percent.encode Percent.controls text))

end DeclaredScreens.UrlHost
