import DeclaredScreens.Json.Basic

/-! The text of a document. `Json.text` writes it without blanks and `Json.pretty` over
several lines; both keep the order of members, and write every character that needs no
escape as itself. Characters, not strings, carry the work, so that the reader can be stated
against what remains to be read. -/

namespace DeclaredScreens

namespace Number

def chars : Number → List Char
  | integer value _ =>
      if value < 0 then '-' :: DecimalStyle.digitChars value.natAbs
      else DecimalStyle.digitChars value.natAbs
  | float value => DecimalStyle.document.chars value

end Number

namespace Json

def hexDigit (n : Nat) : Char := Nat.digitChar n

/-- A character inside quotes: quote, backslash and the control characters are escaped. -/
def escapedChar (c : Char) : List Char :=
  if c = '"' then ['\\', '"']
  else if c = '\\' then ['\\', '\\']
  else if c = '\x08' then ['\\', 'b']
  else if c = '\x0c' then ['\\', 'f']
  else if c = '\n' then ['\\', 'n']
  else if c = '\r' then ['\\', 'r']
  else if c = '\t' then ['\\', 't']
  else if c.toNat < 32 then
    ['\\', 'u', '0', '0', hexDigit (c.toNat / 16), hexDigit (c.toNat % 16)]
  else [c]

def quoted (s : String) : List Char :=
  '"' :: (s.toList.flatMap escapedChar ++ ['"'])

mutual

def chars : Json → List Char
  | null => ['n', 'u', 'l', 'l']
  | bool true => ['t', 'r', 'u', 'e']
  | bool false => ['f', 'a', 'l', 's', 'e']
  | number n => n.chars
  | string s => quoted s
  | array [] => ['[', ']']
  | array (x :: xs) => '[' :: (x.chars ++ itemChars xs)
  | object [] => ['{', '}']
  | object ((name, value) :: rest) =>
      '{' :: (quoted name ++ ':' :: (value.chars ++ memberChars rest))

/-- The items after the first, up to the closing bracket. -/
def itemChars : List Json → List Char
  | [] => [']']
  | x :: xs => ',' :: (x.chars ++ itemChars xs)

/-- The members after the first, up to the closing brace. -/
def memberChars : List (String × Json) → List Char
  | [] => ['}']
  | (name, value) :: rest => ',' :: (quoted name ++ ':' :: (value.chars ++ memberChars rest))

end

def text (j : Json) : String := String.ofList j.chars

def indentation (depth : Nat) : List Char := List.replicate (2 * depth) ' '

mutual

def prettyChars (depth : Nat) : Json → List Char
  | array [] => ['[', ']']
  | array (x :: xs) =>
      '[' :: '\n' :: (indentation (depth + 1) ++ prettyChars (depth + 1) x ++
        prettyItemChars (depth + 1) xs ++ '\n' :: (indentation depth ++ [']']))
  | object [] => ['{', '}']
  | object ((name, value) :: rest) =>
      '{' :: '\n' :: (indentation (depth + 1) ++ quoted name ++ ':' :: ' ' ::
        (prettyChars (depth + 1) value ++ prettyMemberChars (depth + 1) rest ++
          '\n' :: (indentation depth ++ ['}'])))
  | null => ['n', 'u', 'l', 'l']
  | bool true => ['t', 'r', 'u', 'e']
  | bool false => ['f', 'a', 'l', 's', 'e']
  | number n => n.chars
  | string s => quoted s

def prettyItemChars (depth : Nat) : List Json → List Char
  | [] => []
  | x :: xs =>
      ',' :: '\n' :: (indentation depth ++ prettyChars depth x ++ prettyItemChars depth xs)

def prettyMemberChars (depth : Nat) : List (String × Json) → List Char
  | [] => []
  | (name, value) :: rest =>
      ',' :: '\n' :: (indentation depth ++ quoted name ++ ':' :: ' ' ::
        (prettyChars depth value ++ prettyMemberChars depth rest))

end

def pretty (j : Json) : String := String.ofList (j.prettyChars 0)

end Json

end DeclaredScreens
