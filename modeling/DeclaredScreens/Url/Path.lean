import DeclaredScreens.Url.Basic

/-! Reading rooted paths, segment by segment. A segment goes below the path that is there
already; a dot segment leaves it as it is and a double one goes one segment up, but no path
goes up out of a drive. Files know drives: their first segment may be one, and what is read
right behind a bare drive is set off by a slash. -/

namespace DeclaredScreens.UrlPath

def isIgnoredInside (c : Char) : Bool := c = '\t' || c = '\n' || c = '\r'

def isSlash (special : Bool) (c : Char) : Bool := c = '/' || (special && c = '\\')

def isSingleDot (segment : List Char) : Bool :=
  [".", "%2e"].contains (String.ofList (segment.map Char.toLower))

def isDoubleDot (segment : List Char) : Bool :=
  ["..", ".%2e", "%2e.", "%2e%2e"].contains (String.ofList (segment.map Char.toLower))

def isDriveMark (c : Char) : Bool := c = ':' || c = '|'

def isDriveLetter (segment : List Char) : Bool :=
  match segment with
  | [letter, mark] => letter.isAlpha && isDriveMark mark
  | _ => false

/-- Does a segment start with a drive? A backslash ends one, where it is no slash. -/
def startsWithDrive (segment : List Char) : Bool :=
  match segment with
  | letter :: mark :: rest =>
      letter.isAlpha && isDriveMark mark && (rest.isEmpty || rest.head? = some '\\')
  | _ => false

def isNormalDrive (segment : List Char) : Bool :=
  match segment with
  | [letter, ':'] => letter.isAlpha
  | _ => false

def lastSegment (path : List Char) : List Char := (path.reverse.takeWhile (· ≠ '/')).reverse

def folder (path : List Char) : List Char := (path.reverse.dropWhile (· ≠ '/')).reverse

def endsInSlash (path : List Char) : Bool := path.getLast? = some '/'

def withSlash (path : List Char) : List Char := if endsInSlash path then path else path ++ ['/']

/-- A path without its last segment; the drive of a file stays. -/
def popped (file : Bool) (path : List Char) : List Char :=
  if file && isNormalDrive (lastSegment path) then path else folder path

def climbed (file : Bool) (path : List Char) : List Char :=
  let inner := path.dropLast
  if endsInSlash path && !inner.isEmpty && !startsWithDrive (lastSegment inner) then
    popped file inner
  else popped file path

/-- A path up to a segment, the segment as far as it is read, and whether a drive came at the
place that the host of a file stands before. -/
structure Walk where
  before : List Char
  segment : List Char
  leadingDrive : Bool

namespace Walk

def extend (file : Bool) (w : Walk) (text : List Char) : Walk :=
  let encoded := Percent.encode Percent.path text
  if text.isEmpty then w
  else if file && isNormalDrive ((w.before ++ w.segment).drop 1) then
    let segment := w.segment ++ '/' :: encoded
    { w with before := w.before ++ segment.take 1, segment := segment.drop 1 }
  else { w with segment := w.segment ++ encoded }

def close (file last : Bool) (w : Walk) : Walk :=
  let slash := if last then [] else ['/']
  if isDoubleDot w.segment then
    let path := climbed file w.before
    { w with before := if last then path else withSlash path, segment := [] }
  else if isSingleDot w.segment then { w with before := withSlash w.before, segment := [] }
  else if file && w.before.length = 1 && isDriveLetter w.segment then
    ⟨w.before ++ w.segment.take 1 ++ ':' :: slash, [], true⟩
  else { w with before := w.before ++ w.segment ++ slash, segment := [] }

/-- Reads one segment of a text; characters that do not count cut it into parts. -/
def read (file last : Bool) (w : Walk) (segment : List Char) : Walk :=
  ((segment.splitOnP isIgnoredInside).foldl (extend file) w).close file last

def readAll (file : Bool) (w : Walk) : List (List Char) → Walk
  | [] => w
  | [segment] => w.read file true segment
  | segment :: rest => (w.read file false segment).readAll file rest

end Walk

def walk (special file : Bool) (path : List Char) (text : List Char) : Walk :=
  Walk.readAll file ⟨path, [], false⟩ (text.splitOnP (isSlash special))

/-- The path of a file starts with a single slash. -/
def trimmed (file : Bool) (path : List Char) : List Char :=
  if file then '/' :: path.dropWhile (· = '/') else path

def below (special file : Bool) (path : List Char) (text : List Char) : UrlPath :=
  .rooted (trimmed file (walk special file path text).before)

end DeclaredScreens.UrlPath
