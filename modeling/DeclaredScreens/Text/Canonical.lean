import DeclaredScreens.Text.CombiningClass
import DeclaredScreens.Text.Composition

/-! The one spelling of a text among those that differ only in how letters and accents are
written. Everything is taken apart, the accents after a letter are put in the order of their
classes, and what can be joined is joined. -/

namespace DeclaredScreens.Canonical

/-- Puts a code point before what is there, last first, and past the accents of higher
classes. -/
def settle (n : Nat) : List Nat → List Nat
  | [] => [n]
  | m :: before =>
      if 0 < combiningClass n && combiningClass n < combiningClass m then m :: settle n before
      else n :: m :: before

def settled (ns : List Nat) : List Nat :=
  (ns.foldl (fun before n => settle n before) []).reverse

def isBlocked (accents : List Nat) (n : Nat) : Bool :=
  accents.getLast?.any fun m => combiningClass n ≤ combiningClass m

def joinFrom (letter : Nat) (accents : List Nat) : List Nat → List Nat
  | [] => letter :: accents
  | n :: rest =>
      match if isBlocked accents n then none else Composition.join? letter n with
      | some whole => joinFrom whole accents rest
      | none =>
          if combiningClass n = 0 then letter :: (accents ++ joinFrom n [] rest)
          else joinFrom letter (accents ++ [n]) rest

def joined : List Nat → List Nat
  | [] => []
  | n :: rest => if combiningClass n = 0 then joinFrom n [] rest else n :: joined rest

/-- The one spelling of a text. There are no accents below the first mark. -/
def spelled (ns : List Nat) : List Nat :=
  if ns.all (· < 0x300) then ns else joined (settled (ns.flatMap Composition.parts))

end DeclaredScreens.Canonical
