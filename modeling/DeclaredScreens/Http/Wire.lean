import DeclaredScreens.Http

/-! Requests and replies as the bytes of one connection that the server closes. The body of a
reply ends with its chunks, at its announced length, or with the connection, in this order of
precedence. -/

namespace DeclaredScreens

namespace HttpRequest

def target (r : HttpRequest) : String :=
  String.ofList <| r.url.path.chars ++
    match r.url.query with
    | some query => '?' :: query
    | none => []

def authority (r : HttpRequest) : String :=
  String.ofList <| (r.url.host.map (·.chars)).getD [] ++
    match r.url.port with
    | some port => ':' :: Nat.toDigits 10 port
    | none => []

def headLines (r : HttpRequest) : List String :=
  [r.method ++ " " ++ r.target ++ " HTTP/1.1", "host: " ++ r.authority, "accept: */*",
      "connection: close"] ++
    (match r.contentType with
      | some type => ["content-type: " ++ type]
      | none => []) ++
    match r.body with
    | some body => ["content-length: " ++ toString body.utf8ByteSize]
    | none => []

def bytes (r : HttpRequest) : ByteArray :=
  ("\r\n".intercalate (r.headLines ++ ["", r.body.getD ""])).toUTF8

end HttpRequest

namespace HttpReply

def line? : List UInt8 → Option (List UInt8 × List UInt8)
  | [] => none
  | 13 :: 10 :: rest => some ([], rest)
  | b :: rest => do
      let (line, rest) ← line? rest
      return (b :: line, rest)

def lineChars (line : List UInt8) : List Char := line.map fun b => Char.ofNat b.toNat

def headLines? : Nat → List UInt8 → Option (List (List Char) × List UInt8)
  | 0, _ => none
  | fuel + 1, bytes => do
      match ← line? bytes with
      | ([], rest) => return ([], rest)
      | (line, rest) =>
          let (lines, rest) ← headLines? fuel rest
          return (lineChars line :: lines, rest)

def status? (line : List Char) : Option (Nat × String) :=
  match line with
  | 'H' :: 'T' :: 'T' :: 'P' :: '/' :: '1' :: '.' :: _ :: ' ' :: a :: b :: c :: rest =>
      if [a, b, c].all Char.isDigit then
        let status := [a, b, c].foldl (fun n d => n * 10 + (d.toNat - '0'.toNat)) 0
        some (status, String.ofList (rest.drop 1))
      else none
  | _ => none

def header? (name : String) (lines : List (List Char)) : Option (List Char) :=
  lines.findSome? fun line =>
    if String.ofList ((line.takeWhile (· ≠ ':')).map Char.toLower) = name then
      let value := ((line.dropWhile (· ≠ ':')).drop 1).dropWhile (· = ' ')
      some (value.reverse.dropWhile (· = ' ')).reverse
    else none

def location? (lines : List (List Char)) : Option String :=
  (header? "location" lines).bind fun value =>
    String.fromUTF8? (value.map fun c => c.toNat.toUInt8).toByteArray

def chunkSize? (line : List Char) : Option Nat :=
  let digits := line.takeWhile fun c => c ≠ ';' && c ≠ ' '
  if digits.isEmpty then none
  else digits.foldlM (fun n c => (Digits.value? c).map (n * 16 + ·)) 0

/-- A body in chunks, up to an empty one. -/
def chunks? : Nat → List UInt8 → Option (List UInt8)
  | 0, _ => none
  | fuel + 1, bytes => do
      let (line, rest) ← line? bytes
      match ← chunkSize? (lineChars line) with
      | 0 => return []
      | size =>
          if rest.length < size then none
          else
            match rest.drop size with
            | 13 :: 10 :: after =>
                let more ← chunks? fuel after
                return rest.take size ++ more
            | _ => none

def body? (lines : List (List Char)) (bytes : List UInt8) : Option (List UInt8) :=
  if (header? "transfer-encoding" lines).map (·.map Char.toLower) = some "chunked".toList then
    chunks? (bytes.length + 1) bytes
  else
    match header? "content-length" lines with
    | none => some bytes
    | some digits => do
        let size ← (String.ofList digits).toNat?
        if bytes.length < size then none else return bytes.take size

/-- The reply to a request that a closed connection has left. -/
def ofBytes? (method : String) (bytes : List UInt8) : Option HttpReply := do
  let (first, rest) ← line? bytes
  let (status, reason) ← status? (lineChars first)
  let (lines, rest) ← headLines? (rest.length + 1) rest
  let location := location? lines
  if method = "HEAD" || status = 204 || status = 304 then return ⟨status, reason, [], location⟩
  else return ⟨status, reason, ← body? lines rest, location⟩

end HttpReply

end DeclaredScreens
