import DeclaredScreens.Proofs.Json.Literals
import DeclaredScreens.Value

/-! Numerals. Whatever the style, a number is written in digits, points, signs and the mark of an
exponent, and in one of them at least. So no number is shown as nothing, and no text of a number
holds a character that means something else in a document. -/

namespace DeclaredScreens

def isNumeralChar (c : Char) : Bool := c.isDigit || ['+', '-', '.', 'e'].contains c

structure IsNumeral (cs : List Char) : Prop where
  ne_nil : cs ≠ []
  chars : ∀ c ∈ cs, isNumeralChar c = true

theorem isNumeralChar_of_isDigit {c : Char} (digit : c.isDigit = true) :
    isNumeralChar c = true := by
  simp [isNumeralChar, digit]

namespace IsNumeral

theorem cons {c : Char} {cs : List Char} (first : isNumeralChar c = true)
    (later : ∀ c ∈ cs, isNumeralChar c = true) : IsNumeral (c :: cs) :=
  ⟨List.cons_ne_nil c cs, List.forall_mem_cons.mpr ⟨first, later⟩⟩

theorem append {cs ds : List Char} (front : IsNumeral cs)
    (later : ∀ c ∈ ds, isNumeralChar c = true) : IsNumeral (cs ++ ds) :=
  ⟨List.append_ne_nil_of_left_ne_nil front.ne_nil ds,
    List.forall_mem_append.mpr ⟨front.chars, later⟩⟩

theorem toDigits (n : Nat) : IsNumeral (Nat.toDigits 10 n) :=
  ⟨Nat.toDigits_ne_nil, fun c mem => isNumeralChar_of_isDigit (Number.isDigit_toDigits c mem)⟩

theorem minus {cs : List Char} (numeral : IsNumeral cs) : IsNumeral ('-' :: cs) :=
  cons rfl numeral.chars

theorem zeros (n : Nat) : ∀ c ∈ List.replicate n '0', isNumeralChar c = true := by
  intro c mem
  rw [List.eq_of_mem_replicate mem]
  rfl

end IsNumeral

namespace DecimalStyle

open IsNumeral (cons append toDigits zeros)

variable {digits : List Char}

theorem isNumeral_positionalChars (style : DecimalStyle) (numeral : IsNumeral digits)
    (whole : Int) : IsNumeral (style.positionalChars digits whole) := by
  unfold positionalChars
  split
  · refine cons rfl (List.forall_mem_cons.mpr ⟨rfl, ?_⟩)
    exact List.forall_mem_append.mpr ⟨zeros _, numeral.chars⟩
  · next positive =>
      split
      · refine (numeral.append (zeros _)).append ?_
        split <;> exact List.all_eq_true.mp rfl
      · have front : ∀ c ∈ digits.take whole.toNat, isNumeralChar c = true := fun c mem =>
          numeral.chars c (List.mem_of_mem_take mem)
        have back : ∀ c ∈ digits.drop whole.toNat, isNumeralChar c = true := fun c mem =>
          numeral.chars c (List.mem_of_mem_drop mem)
        refine ⟨by simp, List.forall_mem_append.mpr ⟨front, ?_⟩⟩
        exact List.forall_mem_cons.mpr ⟨rfl, back⟩

theorem isNumeral_exponentChars (exponent : Int) : IsNumeral (exponentChars exponent) := by
  unfold exponentChars
  refine cons rfl (List.forall_mem_cons.mpr ⟨?_, (toDigits _).chars⟩)
  split <;> rfl

theorem isNumeral_scientificChars (numeral : IsNumeral digits) (exponent : Int) :
    IsNumeral (scientificChars digits exponent) := by
  have power := (isNumeral_exponentChars exponent).chars
  obtain ⟨nonempty, chars⟩ := numeral
  unfold scientificChars
  split
  · exact absurd rfl nonempty
  · next d => exact cons (chars d (.head _)) power
  · next d rest _ =>
      obtain ⟨first, later⟩ := List.forall_mem_cons.mp chars
      refine cons first (List.forall_mem_cons.mpr ⟨rfl, ?_⟩)
      exact List.forall_mem_append.mpr ⟨later, power⟩

theorem isNumeral_magnitudeChars (style : DecimalStyle) (f : Binary64) :
    IsNumeral (style.magnitudeChars f) := by
  unfold magnitudeChars
  split
  · split
    · exact ⟨by decide, List.all_eq_true.mp rfl⟩
    · exact ⟨by decide, List.all_eq_true.mp rfl⟩
  · dsimp only
    split
    · exact isNumeral_positionalChars style (toDigits _) _
    · split
      · exact isNumeral_positionalChars style (toDigits _) _
      · exact isNumeral_scientificChars (toDigits _) _

theorem isNumeral_chars (style : DecimalStyle) (f : Binary64) : IsNumeral (style.chars f) := by
  unfold chars
  split
  · exact (isNumeral_magnitudeChars style f).minus
  · exact isNumeral_magnitudeChars style f

end DecimalStyle

namespace Number

theorem isNumeral_chars (n : Number) : IsNumeral n.chars := by
  cases n with
  | float value => exact DecimalStyle.isNumeral_chars .document value
  | integer value fits =>
      simp only [chars]
      split
      · exact (IsNumeral.toDigits _).minus
      · exact IsNumeral.toDigits _

theorem isNumeral_displayChars (n : Number) : IsNumeral n.displayChars := by
  cases n with
  | float value => exact DecimalStyle.isNumeral_chars .plain value
  | integer value fits => exact isNumeral_chars (.integer value fits)

end Number

end DeclaredScreens
