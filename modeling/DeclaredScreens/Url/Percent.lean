import DeclaredScreens.Number.Digits

/-! Percent encoding: a character of a set is written as the bytes of its UTF-8 form, each as
a percent sign and two hexadecimal digits. Each part of an address has its own set. -/

namespace DeclaredScreens.Percent

def byteChars (b : UInt8) : List Char :=
  ['%', (Nat.digitChar (b.toNat / 16)).toUpper, (Nat.digitChar (b.toNat % 16)).toUpper]

def encode (set : Char → Bool) (cs : List Char) : List Char :=
  cs.flatMap fun c =>
    if set c then (String.utf8EncodeChar c).flatMap byteChars else [c]

def controls (c : Char) : Bool := c.toNat < 0x20 || 0x7E < c.toNat

def fragment (c : Char) : Bool :=
  controls c || c = ' ' || c = '"' || c = '<' || c = '>' || c = '\x60'

def path (c : Char) : Bool :=
  fragment c || c = '#' || c = '?' || c = '\x7b' || c = '\x7d'

def userinfo (c : Char) : Bool :=
  path c || c = '/' || c = ':' || c = ';' || c = '=' || c = '@' || c = '[' || c = '\\' ||
    c = ']' || c = '^' || c = '|'

def query (c : Char) : Bool :=
  controls c || c = ' ' || c = '"' || c = '#' || c = '<' || c = '>'

/-- Queries of the schemes of the web also encode the apostrophe. -/
def specialQuery (c : Char) : Bool := query c || c = '\''

/-- The bytes that a text stands for: encoded bytes decoded, other characters in UTF-8. -/
def decode : List Char → List UInt8
  | '%' :: a :: b :: rest =>
      match Digits.value? a, Digits.value? b with
      | some high, some low => UInt8.ofNat (high * 16 + low) :: decode rest
      | _, _ => UInt8.ofNat '%'.toNat :: decode (a :: b :: rest)
  | c :: rest => String.utf8EncodeChar c ++ decode rest
  | [] => []

def decodeText? (cs : List Char) : Option (List Char) :=
  (String.fromUTF8? (decode cs).toByteArray).map String.toList

end DeclaredScreens.Percent
