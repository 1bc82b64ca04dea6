import DeclaredScreens.Url.Percent

/-! Addresses as the parts they are made of, and their one written form. A rooted path is
empty or starts with a slash; the path of an address such as a mail address is text that
nothing can be joined to. -/

namespace DeclaredScreens

inductive UrlError
  | relativeWithoutBase
  | relativeToFlatBase
  | emptyHost
  | invalidPort
  | invalidDomain
  | invalidIpv4
  | invalidIpv6
  | invalidHostCharacter
deriving DecidableEq

def UrlError.message : UrlError → String
  | relativeWithoutBase => "relative URL without a base"
  | relativeToFlatBase => "relative URL with a cannot-be-a-base base"
  | emptyHost => "empty host"
  | invalidPort => "invalid port number"
  | invalidDomain => "invalid international domain name"
  | invalidIpv4 => "invalid IPv4 address"
  | invalidIpv6 => "invalid IPv6 address"
  | invalidHostCharacter => "invalid domain character"

/-- A host: a name, or a network address. The empty name is the host of a local file. -/
inductive UrlHost
  | name (text : List Char)
  | ipv4 (address : Nat)
  | ipv6 (pieces : List Nat)
deriving DecidableEq

inductive UrlPath
  | flat (text : List Char)
  | rooted (text : List Char)
deriving DecidableEq

structure Url where
  scheme : List Char
  username : List Char
  password : List Char
  host : Option UrlHost
  port : Option Nat
  path : UrlPath
  query : Option (List Char)
  fragment : Option (List Char)
deriving DecidableEq

namespace UrlHost

def ipv4Chars (address : Nat) : List Char :=
  let byte (shift : Nat) := Nat.toDigits 10 (address / Nat.pow 2 shift % 256)
  byte 24 ++ '.' :: (byte 16 ++ '.' :: (byte 8 ++ '.' :: byte 0))

def leadingZeros (pieces : List Nat) : Nat := (pieces.takeWhile (· = 0)).length

def longestZeros (start : Nat) : List Nat → Nat × Nat
  | [] => (start, 0)
  | piece :: rest =>
      let here := leadingZeros (piece :: rest)
      let later := longestZeros (start + 1) rest
      if here < later.2 then later else (start, here)

def piecesChars (pieces : List Nat) : List Char :=
  List.intercalate [':'] (pieces.map (Nat.toDigits 16))

/-- The pieces in hexadecimal; the first longest run of at least two zeros is left out. -/
def ipv6Chars (pieces : List Nat) : List Char :=
  let (start, length) := longestZeros 0 pieces
  if 2 ≤ length then
    piecesChars (pieces.take start) ++ ':' :: ':' :: piecesChars (pieces.drop (start + length))
  else piecesChars pieces

def chars : UrlHost → List Char
  | name text => text
  | ipv4 address => ipv4Chars address
  | ipv6 pieces => '[' :: (ipv6Chars pieces ++ [']'])

end UrlHost

namespace UrlPath

def chars : UrlPath → List Char
  | flat text => text
  | rooted text => text

end UrlPath

namespace Url

def credentialChars (u : Url) : List Char :=
  match u.username, u.password with
  | [], [] => []
  | username, [] => username ++ ['@']
  | username, password => username ++ ':' :: (password ++ ['@'])

/-- The part between the scheme and the path. A path that starts with an empty segment is
kept apart from a missing host by a dot segment. -/
def authorityChars (u : Url) : List Char :=
  match u.host with
  | some host =>
      '/' :: '/' :: (u.credentialChars ++ host.chars ++
        (match u.port with
          | some port => ':' :: Nat.toDigits 10 port
          | none => []))
  | none =>
      match u.path with
      | .rooted ('/' :: '/' :: _) => ['/', '.']
      | _ => []

def suffixChars (u : Url) : List Char :=
  (match u.query with
    | some query => '?' :: query
    | none => []) ++
  (match u.fragment with
    | some fragment => '#' :: fragment
    | none => [])

def chars (u : Url) : List Char :=
  u.scheme ++ ':' :: (u.authorityChars ++ u.path.chars ++ u.suffixChars)

def text (u : Url) : String := String.ofList u.chars

def isBase (u : Url) : Bool :=
  match u.path with
  | .flat _ => false
  | .rooted _ => true

def withoutCredentials (u : Url) : Url := { u with username := [], password := [] }

/-- Are the credentials text that a request can name by themselves? A user name has to be
text; without one the password has to be. -/
def namesCredentials (u : Url) : Bool :=
  (Percent.decodeText? u.username).isSome &&
    (!u.username.isEmpty || (!u.password.isEmpty && (Percent.decodeText? u.password).isSome))

end Url

end DeclaredScreens
