import DeclaredScreens.Url.Host
import DeclaredScreens.Url.Path

/-! Reading addresses, whole or relative to a base. Blanks and control characters around the
text and line breaks inside it do not count. In the schemes of the web a backslash is a slash,
the path is never empty, and the port of the scheme itself is left out. -/

namespace DeclaredScreens.Url

open UrlPath (isIgnoredInside isSlash)

/-- The schemes of the web with their ports; files belong to them but have none. -/
def specialPorts : List (String × Option Nat) :=
  [("http", some 80), ("https", some 443), ("ws", some 80), ("wss", some 443),
    ("ftp", some 21), ("file", none)]

def isSpecial (scheme : List Char) : Bool :=
  (specialPorts.lookup (String.ofList scheme)).isSome

def isFile (scheme : List Char) : Bool := scheme = "file".toList

def defaultPort? (scheme : List Char) : Option Nat :=
  (specialPorts.lookup (String.ofList scheme)).join

def isIgnoredAround (c : Char) : Bool := c.toNat ≤ 32

def trimmed (cs : List Char) : List Char :=
  ((cs.dropWhile isIgnoredAround).reverse.dropWhile isIgnoredAround).reverse

def visible (cs : List Char) : List Char := cs.filter fun c => !isIgnoredInside c

def next? (cs : List Char) : Option (Char × List Char) :=
  match cs.dropWhile isIgnoredInside with
  | [] => none
  | c :: rest => some (c, rest)

def endsAuthority (special : Bool) (c : Char) : Bool := isSlash special c || c = '?' || c = '#'

def cutAt (stop : Char) : List Char → List Char × Option (List Char)
  | [] => ([], none)
  | c :: rest =>
      if c = stop then ([], some rest)
      else
        match cutAt stop rest with
        | (before, after) => (c :: before, after)

def isSchemeChar (c : Char) : Bool := c.isAlphanum || c = '+' || c = '-' || c = '.'

def schemeFrom : List Char → Option (List Char × List Char)
  | [] => none
  | c :: rest =>
      if isIgnoredInside c then schemeFrom rest
      else if c = ':' then some ([], rest)
      else if isSchemeChar c then
        (schemeFrom rest).map fun (scheme, rest) => (c.toLower :: scheme, rest)
      else none

def scheme? (cs : List Char) : Option (List Char × List Char) :=
  match next? cs with
  | some (c, _) => if c.isAlpha then schemeFrom cs else none
  | none => none

structure Tail where
  path : List Char
  query : Option (List Char)
  fragment : Option (List Char)

def tail (special : Bool) (cs : List Char) : Tail :=
  let (front, fragment) := cutAt '#' cs
  let (path, query) := cutAt '?' front
  let set := if special then Percent.specialQuery else Percent.query
  { path := path
    query := query.map fun text => Percent.encode set (visible text)
    fragment := fragment.map fun text => Percent.encode Percent.fragment (visible text) }

/-- The path after an authority: the schemes of the web always have one. A drive at its start
takes the place of the host of a file. -/
def absolutePath (scheme : List Char) (text : List Char) : UrlPath × Bool :=
  let special := isSpecial scheme
  let rest := match next? text with
    | some (c, rest) => if isSlash special c then rest else text
    | none => []
  if (visible text).isEmpty && !special then (.rooted [], false)
  else
    let walk := UrlPath.walk special (isFile scheme) ['/'] rest
    (.rooted (UrlPath.trimmed (isFile scheme) walk.before), walk.leadingDrive)

def credentials (userinfo : List Char) : List Char × List Char :=
  match cutAt ':' userinfo with
  | (name, password) =>
      (Percent.encode Percent.userinfo name,
        Percent.encode Percent.userinfo (password.getD []))

/-- A host text up to a colon outside brackets or the end of the authority, and what follows
it. -/
def cutHost (special : Bool) (inside : Bool) : List Char → List Char × List Char
  | [] => ([], [])
  | c :: rest =>
      if (c = ':' && !inside) || endsAuthority special c then ([], c :: rest)
      else
        match cutHost special (c = '[' || (inside && c ≠ ']')) rest with
        | (host, rest) => (c :: host, rest)

/-- A port; none when it is empty or the one of the scheme. -/
def port? (scheme : List Char) (digits : List Char) : Except UrlError (Option Nat) :=
  let value := Digits.number 10 digits
  if 65535 < value then .error .invalidPort
  else if digits.isEmpty || defaultPort? scheme = some value then .ok none
  else .ok (some value)

/-- The port after a host, and what follows it. Any kind of slash ends a port. -/
def cutPort (scheme : List Char) (cs : List Char) :
    Except UrlError (Option Nat × List Char) :=
  match cs with
  | ':' :: text => do
      let isInside (c : Char) : Bool := c.isDigit || isIgnoredInside c
      let rest := text.dropWhile isInside
      if rest.head?.any fun c => !endsAuthority true c then throw .invalidPort
      return (← port? scheme (visible (text.takeWhile isInside)), rest)
  | rest => .ok (none, rest)

/-- The text before the last `@` of the authority, if there is one, and the text from the host
on. -/
def cutUserinfo (special : Bool) (cs : List Char) : Option (List Char) × List Char :=
  let authority := cs.takeWhile fun c => !endsAuthority special c
  if authority.contains '@' then
    let host := authority.reverse.takeWhile (· ≠ '@')
    let length := authority.length - host.length
    (some (visible (authority.take (length - 1))), cs.drop length)
  else (none, cs)

def lacksHost (special : Bool) (userinfo : Option (List Char)) (cs : List Char) : Bool :=
  userinfo = some [] && (next? cs).any fun (c, _) => endsAuthority special c

def withAuthority (scheme : List Char) (cs : List Char) : Except UrlError Url := do
  let special := isSpecial scheme
  let (userinfo, cs) := cutUserinfo special cs
  if lacksHost special userinfo cs then throw .emptyHost
  let (username, password) := credentials (userinfo.getD [])
  let (hostText, cs) := cutHost special false cs
  let hostText := visible hostText
  if hostText.isEmpty && (special || cs.head? = some ':') then throw .emptyHost
  let host ← if special then UrlHost.ofWeb hostText else UrlHost.ofText hostText
  let (port, cs) ← cutPort scheme cs
  if hostText.isEmpty && !(username.isEmpty && password.isEmpty) then throw .emptyHost
  let t := tail special cs
  return { scheme := scheme, username := username, password := password, host := some host
           port := port, path := (absolutePath scheme t.path).1, query := t.query
           fragment := t.fragment }

def withoutAuthority (scheme : List Char) (cs : List Char) : Url :=
  let t := tail false cs
  let path := match next? t.path with
    | some ('/', rest) => UrlPath.below false false ['/'] rest
    | _ => UrlPath.flat (Percent.encode Percent.controls (visible t.path))
  { scheme := scheme, username := [], password := [], host := none, port := none, path := path
    query := t.query, fragment := t.fragment }

def emptyHost : UrlHost := .name []

def fileUrl (host : UrlHost) (path : UrlPath) (t : Tail) : Url :=
  { scheme := "file".toList, username := [], password := [], host := some host, port := none
    path := path, query := t.query, fragment := t.fragment }

def fileBelow (host : UrlHost) (path : List Char) (cs : List Char) : Url :=
  let t := tail true cs
  fileUrl host (UrlPath.below true true path t.path) t

def startsWithDrive (cs : List Char) : Bool :=
  UrlPath.isDriveLetter (cs.take 2) && !(cs.drop 2).head?.any fun c => !endsAuthority true c

/-- The host of a file from its text; none for the local one. -/
def fileHost? (text : List Char) : Except UrlError (Option UrlHost) :=
  if text.isEmpty then .ok none
  else do
    let host ← UrlHost.ofWeb text
    if host = .name "localhost".toList then return none else return some host

/-- A file from the text after its two slashes. A drive is no host. -/
def fileAtHost (cs : List Char) : Except UrlError Url := do
  let hostText := visible (cs.takeWhile fun c => !endsAuthority true c)
  if UrlPath.isDriveLetter hostText then return fileBelow emptyHost ['/'] cs
  let rest := cs.dropWhile fun c => !endsAuthority true c
  match ← fileHost? hostText with
  | none => return fileBelow emptyHost ['/'] rest
  | some host =>
      let t := tail true rest
      let (path, leadingDrive) := absolutePath "file".toList t.path
      return fileUrl (if leadingDrive then emptyHost else host) path t

def firstSegment (path : UrlPath) : List Char := (path.chars.drop 1).takeWhile (· ≠ '/')

/-- A file from a text that starts with one slash: on the host of the base, below its drive. -/
def fileAtRoot (base : Option Url) (cs : List Char) : Url :=
  let after := ((next? cs).map (·.2)).getD []
  match base with
  | none => fileBelow emptyHost [] cs
  | some b =>
      if startsWithDrive (visible after) then fileBelow emptyHost [] cs
      else
        let first := firstSegment b.path
        if UrlPath.isNormalDrive first then fileBelow emptyHost ('/' :: first) cs
        else fileBelow (b.host.getD emptyHost) [] cs

def fileInFolder (base : Option Url) (cs : List Char) : Url :=
  match base with
  | none => fileBelow emptyHost ['/'] cs
  | some b =>
      let t := tail true cs
      match next? cs with
      | none => { b with fragment := none }
      | some ('#', _) => { b with fragment := t.fragment }
      | some ('?', _) => { b with query := t.query, fragment := t.fragment }
      | some _ =>
          if startsWithDrive (visible cs) then fileBelow emptyHost ['/'] cs
          else
            { b with
              path := UrlPath.below true true (UrlPath.popped true b.path.chars) t.path
              query := t.query
              fragment := t.fragment }

def file (base : Option Url) (cs : List Char) : Except UrlError Url :=
  match next? cs with
  | some (a, rest) =>
      if isSlash true a then
        match next? rest with
        | some (b, rest) => if isSlash true b then fileAtHost rest else .ok (fileAtRoot base cs)
        | none => .ok (fileAtRoot base cs)
      else .ok (fileInFolder base cs)
  | none => .ok (fileInFolder base cs)

def cutSlashes (cs : List Char) : List Char × List Char :=
  let isInside (c : Char) : Bool := isSlash true c || isIgnoredInside c
  (visible (cs.takeWhile isInside), cs.dropWhile isInside)

def afterDoubleSlash? (cs : List Char) : Option (List Char) :=
  match next? cs with
  | some ('/', rest) =>
      match next? rest with
      | some ('/', rest) => some rest
      | _ => none
  | _ => none

/-- An address relative to a base that is no file. Two slashes start an authority; if they are
not both plain, further slashes do not count. -/
def relativeTo (base : Url) (cs : List Char) : Except UrlError Url :=
  let special := isSpecial base.scheme
  let t := tail special cs
  let below (path : List Char) (text : List Char) : Url :=
    { base with
      path := UrlPath.below special false path text
      query := t.query
      fragment := t.fragment }
  match next? cs with
  | none => .ok { base with fragment := none }
  | some ('?', _) => .ok { base with query := t.query, fragment := t.fragment }
  | some ('#', _) => .ok { base with fragment := t.fragment }
  | some (c, _) =>
      if isSlash true c then
        let (slashes, rest) := cutSlashes cs
        if 2 ≤ slashes.length then
          withAuthority base.scheme ((afterDoubleSlash? cs).getD rest)
        else .ok (below ['/'] (((next? t.path).map (·.2)).getD []))
      else
        let folder := UrlPath.popped false base.path.chars
        .ok (below (if folder.isEmpty then ['/'] else folder) t.path)

def withScheme (base : Option Url) (scheme : List Char) (cs : List Char) : Except UrlError Url :=
  if isFile scheme then file (base.filter fun b => isFile b.scheme) cs
  else if isSpecial scheme then
    let (slashes, rest) := cutSlashes cs
    match base.filter fun b => b.scheme = scheme && slashes.length < 2 with
    | some b => relativeTo b cs
    | none => withAuthority scheme rest
  else
    match afterDoubleSlash? cs with
    | some rest => withAuthority scheme rest
    | none => .ok (withoutAuthority scheme cs)

def parseFrom (base : Option Url) (cs : List Char) : Except UrlError Url :=
  let cs := trimmed cs
  match scheme? cs with
  | some (scheme, rest) => withScheme base scheme rest
  | none =>
      match base with
      | none => .error .relativeWithoutBase
      | some b =>
          match next? cs with
          | some ('#', _) => .ok { b with fragment := (tail (isSpecial b.scheme) cs).fragment }
          | _ =>
              if !b.isBase then .error .relativeToFlatBase
              else if isFile b.scheme then file (some b) cs
              else relativeTo b cs

def parse (text : List Char) : Except UrlError Url := parseFrom none text

def join (base : Url) (text : List Char) : Except UrlError Url := parseFrom (some base) text

end DeclaredScreens.Url
