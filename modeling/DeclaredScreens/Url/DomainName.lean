import DeclaredScreens.Text.Canonical
import DeclaredScreens.Text.Direction
import DeclaredScreens.Text.Folding
import DeclaredScreens.Text.Joining
import DeclaredScreens.Url.Punycode

/-! Domain names in ASCII. A name is folded, so that spellings that count as the same become
the same, and cut into labels at its dots. A label outside ASCII is written in Punycode behind
a mark; a label that bears the mark already must be such a written form. The labels must not
mislead: none starts with a mark, joiners stand only where they show, and in a name that is
partly written from right to left every label keeps one direction. -/

namespace DeclaredScreens.DomainName

def isForbidden (c : Char) : Bool :=
  c.toNat ≤ 32 || c.toNat = 127 || "%#/:<>?@[\\]^|".toList.contains c

def isAscii (label : List Char) : Bool := label.all fun c => c.toNat < 128

def folded? (name : List Char) : Option (List Char) :=
  (Folding.foldAll? (name.map Char.toNat)).map fun ns => (Canonical.spelled ns).map Char.ofNat

structure Label where
  shown : List Char
  written : List Char

namespace Label

def punycodeMark : List Char := "xn--".toList

/-- The most characters that a label is decoded from. -/
def maxEncoded : Nat := 2000

/-- The most characters of a label outside ASCII. -/
def maxShown : Nat := 1000

/-- A label from what follows its mark. Only a folded text has a written form. -/
def ofEncoded? (digits : List Char) : Option Label :=
  if !isAscii digits || digits.getLast? = some '-' || maxEncoded < digits.length then none
  else
    match Punycode.decode? digits with
    | none => none
    | some shown =>
        if isAscii shown || maxShown < shown.length || folded? shown ≠ some shown ||
            !shown.all (Folding.isPlain ·.toNat) then none
        else some ⟨shown, punycodeMark ++ digits⟩

def ofFolded? (label : List Char) : Option Label :=
  match label with
  | 'x' :: 'n' :: '-' :: '-' :: digits => ofEncoded? digits
  | _ =>
      if isAscii label then some ⟨label, label⟩
      else if maxShown < label.length then none
      else some ⟨label, punycodeMark ++ Punycode.encode label⟩

def isSound (label : Label) : Bool :=
  let codes := label.shown.map Char.toNat
  !label.shown.any isForbidden && !codes.head?.any Mark.isMark && Joining.joinersCount [] codes

end Label

def labels? (name : List Char) : Option (List Label) := do
  let labels ← (name.splitOn '.').mapM Label.ofFolded?
  let codes := labels.map fun label => label.shown.map Char.toNat
  if !labels.all Label.isSound then none
  else if codes.any Direction.isRightward && !codes.all Direction.isClear then none
  else return labels

def toAscii? (name : List Char) : Option (List Char) := do
  let labels ← labels? (← folded? name)
  return List.intercalate ['.'] (labels.map Label.written)

end DeclaredScreens.DomainName
