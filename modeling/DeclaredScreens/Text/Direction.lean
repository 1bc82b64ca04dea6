import DeclaredScreens.Text.Mark

/-! Writing directions. A label reads without doubt when it starts with a letter, holds only
letters of one direction, and does not end in something whose place depends on what
follows. -/

namespace DeclaredScreens

inductive Direction
  | left
  | right
  | europeanDigit
  | arabicDigit
  /-- Takes the direction of what it is written onto. -/
  | mark
  /-- Takes the direction of what is around it. -/
  | neutral
deriving DecidableEq

namespace Direction

def rightward : CodeSet := .ofText
    "5BE-5F4 608 60B 60D 61B-64A 66D-6D5 6E5-6E6 6EE-6EF 6FA-7F5 7FA-8C9 FBB2-FBC2 FE73
    10800-1091B 10920-10B35 10B40-10D23 10D40-10D4F 10D6F-10D8F 10E80-10EC7 10F00-10FF6
    1E800-1ED3D"

def europeanDigits : CodeSet := .ofText
    "30-39 6F0-6F9 102E1-102FB"

def arabicDigits : CodeSet := .ofText
    "660-669 66B-66C 10D30-10D39 10E60-10E7E"

def neutrals : CodeSet := .ofText
    "0-2F 3A-60 7B-D7 F7 2B9-2BA 2C2-2CF 2D2-2ED 2EF-2FF 375 3F6 58A-58F 606-607 609-60A 60C
    60E-60F 66A 6DE 6E9 7F6-7F9 9F2-9F3 9FB AF1 BF3-BFA C78-C7E E3F F3A-F3D 1390-1399 1400
    169B-169C 17DB 17F0-180A 1940-1945 19DE-19FF 200C-214D 218A-2335 237B-2394 2396-26AB
    26AD-27FF 2900-2BFF 2CE5-2CEA 2CF9-2CFF 2E00-3004 3008-3020 3030 3037 303D-303F 30A0
    30FB 31C0-31E5 4DC0-4DFF A490-A4C6 A60D-A60F A673-A67F A700-A721 A788 A828-A82B
    A838-A839 A874-A877 AB6A-AB6B FBC3-FE46 10101 10140-1018C 10190-101A0 1091F
    10B39-10B3F 10D6E 10ED0-10ED8 11052-11065 11660-1166C 11FD5-11FF1 16FE2 1CC00-1CEF0
    1D1E9-1D245 1D300-1D356 1E2FF 1EEF0-1F12F 1F16D-1F16F 1F1AD 1F260-1FBFA"

def directedMarks : CodeSet := .ofText "CBF CC6 11A07 11A08 11C3F"

def ofCode (n : Nat) : Direction :=
  if Mark.isNonspacing n && !directedMarks.contains n then mark
  else if europeanDigits.contains n then europeanDigit
  else if neutrals.contains n then neutral
  else if n < 0x590 then left
  else if rightward.contains n then right
  else if arabicDigits.contains n then arabicDigit
  else left

def isRightward (name : List Nat) : Bool :=
  name.any fun n => 0x590 ≤ n && (ofCode n = right || ofCode n = arabicDigit)

/-- Does a label without its last marks, but for its first code point, fit a first letter
from left to right? The last code point comes first here. -/
def fitsLeft : List Direction → Bool
  | [] => true
  | last :: middle =>
      [left, europeanDigit].contains last &&
        middle.all [left, europeanDigit, neutral, mark].contains

/-- The same for a first letter from right to left. Only one kind of digits may appear. -/
def fitsRight : List Direction → Bool
  | [] => true
  | last :: middle =>
      [right, europeanDigit, arabicDigit].contains last &&
        middle.all [right, europeanDigit, arabicDigit, neutral, mark].contains &&
        !((last :: middle).contains europeanDigit && (last :: middle).contains arabicDigit)

def isClear (label : List Nat) : Bool :=
  match label.map ofCode with
  | [] => true
  | first :: rest =>
      let backward := rest.reverse.dropWhile (· = mark)
      match first with
      | left => fitsLeft backward
      | right => fitsRight backward
      | _ => false

end Direction

end DeclaredScreens
