import DeclaredScreens.Json.Print
import DeclaredScreens.Json.Raw

/-! Numbers and strings read back from their written form, whatever follows it in a document.
Every integer does; a double is read by rounding twice, so that it reads back is a condition on
it. -/

namespace DeclaredScreens

namespace Raw

/-- What may follow a number in a document. -/
def EndsLiteral (rest : List Char) : Prop := ∀ c ∈ rest.head?, c = ',' ∨ c = ']' ∨ c = '}'

theorem fraction?_absent {cs : List Char} (none : ∀ more, cs ≠ '.' :: more) :
    fraction? cs = some (.none, cs) := by
  unfold fraction?
  split
  · next more => exact absurd rfl (none more)
  · rfl

def exponentDigits? (negative : Bool) (cs : List Char) :
    Option (Option (Bool × List Char) × List Char) :=
  match digits cs with
  | ([], _) => none
  | (ds, rest) => some (some (negative, ds), rest)

theorem exponent?_absent {cs : List Char} (none : ∀ c ∈ cs.head?, c ≠ 'e' ∧ c ≠ 'E') :
    exponent? cs = some (.none, cs) := by
  unfold exponent?
  split
  case h_7 => rfl
  all_goals simp at none

theorem exponent?_unsigned {e c : Char} (mark : e = 'e' ∨ e = 'E') (minus : c ≠ '-')
    (plus : c ≠ '+') (cs : List Char) :
    exponent? (e :: c :: cs) = exponentDigits? false (c :: cs) := by
  rcases mark with rfl | rfl
  all_goals
    unfold exponent?
    split
    case h_1 | h_2 => next same => cases same <;> exact absurd rfl minus
    case h_3 | h_4 => next same => cases same <;> exact absurd rfl plus
    case h_5 | h_6 => next same => cases same <;> rfl
    case h_7 other other' => simp at other other'

def unsigned? (negative : Bool) (cs : List Char) : Option (Literal × List Char) := do
  let (whole, cs) ← whole? cs
  let (fraction, cs) ← fraction? cs
  let (exponent, cs) ← exponent? cs
  return (⟨negative, whole, fraction, exponent⟩, cs)

theorem literal?_minus (cs : List Char) : literal? ('-' :: cs) = unsigned? true cs := rfl

theorem literal?_plain {cs : List Char} (plain : ∀ more, cs ≠ '-' :: more) :
    literal? cs = unsigned? false cs := by
  unfold literal?
  split
  · next sign text same =>
      split at same
      · next more => exact absurd rfl (plain more)
      · cases same
        rfl

section Literal

variable {rest : List Char} (ends : EndsLiteral rest)

include ends

theorem EndsLiteral.head_ne {c : Char} {more : List Char} (text : rest = c :: more) :
    c.isDigit = false ∧ c ≠ '.' ∧ c ≠ 'e' ∧ c ≠ 'E' := by
  subst text
  rcases ends c rfl with rfl | rfl | rfl <;> decide

theorem digits_append (cs : List Char) :
    digits (cs ++ rest) = ((digits cs).1, (digits cs).2 ++ rest) := by
  induction cs with
  | nil =>
      cases text : rest with
      | nil => rfl
      | cons c more => simp [digits, (ends.head_ne text).1]
  | cons c cs ih =>
      simp only [digits, Prod.mk.injEq] at ih
      by_cases digit : c.isDigit = true <;> simp [digits, digit, ih]

variable {cs left : List Char}

theorem whole?_append {ds : List Char} (read : whole? cs = some (ds, left)) :
    whole? (cs ++ rest) = some (ds, left ++ rest) := by
  simp only [whole?, digits_append ends] at read ⊢
  generalize digits cs = parts at read ⊢
  obtain ⟨front, back⟩ := parts
  split at read
  · cases read
  · cases read
  · next notEmpty notZero same =>
      cases read
      cases same
      split
      · next same => cases same; exact (notEmpty rfl).elim
      · next same => cases same; exact (notZero _ _ rfl).elim
      · next same => cases same; rfl

theorem fraction?_append {fraction : Option (List Char)}
    (read : fraction? cs = some (fraction, left)) :
    fraction? (cs ++ rest) = some (fraction, left ++ rest) := by
  by_cases point : ∃ more, cs = '.' :: more
  · obtain ⟨more, rfl⟩ := point
    simp only [fraction?, List.cons_append, digits_append ends] at read ⊢
    generalize digits more = parts at read ⊢
    obtain ⟨_ | ⟨d, ds⟩, back⟩ := parts
    · cases read
    · cases read
      rfl
  · rw [fraction?_absent fun more same => point ⟨more, same⟩] at read
    cases read
    refine fraction?_absent fun more same => ?_
    cases cs with
    | nil => exact (ends.head_ne same).2.1 rfl
    | cons c cs => exact point ⟨cs, by simpa using (List.cons.inj same).1⟩

theorem exponentDigits?_append (negative : Bool) {exponent : Option (Bool × List Char)}
    (read : exponentDigits? negative cs = some (exponent, left)) :
    exponentDigits? negative (cs ++ rest) = some (exponent, left ++ rest) := by
  simp only [exponentDigits?, digits_append ends] at read ⊢
  generalize digits cs = parts at read ⊢
  obtain ⟨_ | ⟨d, ds⟩, back⟩ := parts
  · cases read
  · cases read
    rfl

theorem exponent?_append {exponent : Option (Bool × List Char)}
    (read : exponent? cs = some (exponent, left)) :
    exponent? (cs ++ rest) = some (exponent, left ++ rest) := by
  by_cases marked : ∃ e more, cs = e :: more ∧ (e = 'e' ∨ e = 'E')
  · obtain ⟨e, more, rfl, mark⟩ := marked
    cases more with
    | nil => rcases mark with rfl | rfl <;> cases read
    | cons c more =>
        by_cases minus : c = '-'
        · subst minus
          rcases mark with rfl | rfl <;> exact exponentDigits?_append ends true read
        · by_cases plus : c = '+'
          · subst plus
            rcases mark with rfl | rfl <;> exact exponentDigits?_append ends false read
          · rw [exponent?_unsigned mark minus plus] at read
            rw [List.cons_append, List.cons_append, exponent?_unsigned mark minus plus]
            exact exponentDigits?_append ends false read
  · have none : ∀ c ∈ cs.head?, c ≠ 'e' ∧ c ≠ 'E' := by
      intro c first
      obtain ⟨more, rfl⟩ := List.head?_eq_some_iff.mp first
      exact ⟨fun same => marked ⟨c, more, rfl, .inl same⟩,
        fun same => marked ⟨c, more, rfl, .inr same⟩⟩
    rw [exponent?_absent none] at read
    cases read
    refine exponent?_absent fun c first => ?_
    cases cs with
    | nil =>
        obtain ⟨more, same⟩ := List.head?_eq_some_iff.mp first
        exact (ends.head_ne same).2.2
    | cons c cs => exact none _ first

theorem unsigned?_append (negative : Bool) {l : Literal}
    (read : unsigned? negative cs = some (l, left)) :
    unsigned? negative (cs ++ rest) = some (l, left ++ rest) := by
  simp only [unsigned?, bind, Option.bind_eq_some_iff, Prod.exists] at read ⊢
  obtain ⟨whole, text₁, read₁, fraction, text₂, read₂, exponent, text₃, read₃, done⟩ := read
  cases done
  exact ⟨_, _, whole?_append ends read₁, _, _, fraction?_append ends read₂, _, _,
    exponent?_append ends read₃, rfl⟩

theorem literal?_append {l : Literal} (read : literal? cs = some (l, left)) :
    literal? (cs ++ rest) = some (l, left ++ rest) := by
  cases cs with
  | nil => cases read
  | cons c cs =>
      by_cases minus : c = '-'
      · subst minus
        exact unsigned?_append ends true read
      · rw [literal?_plain (by simp [minus])] at read
        rw [literal?_plain (by simp [minus])]
        exact unsigned?_append ends false read

end Literal

theorem whole?_isDigit {c : Char} {cs ds left : List Char}
    (read : whole? (c :: cs) = some (ds, left)) : c.isDigit = true := by
  cases digit : c.isDigit with
  | true => rfl
  | false => simp [whole?, digits, digit] at read

theorem literal?_head {cs left : List Char} {l : Literal} (read : literal? cs = some (l, left)) :
    ∃ c more, cs = c :: more ∧ (c = '-' ∨ c.isDigit = true) := by
  cases cs with
  | nil => cases read
  | cons c cs =>
      refine ⟨c, cs, rfl, ?_⟩
      by_cases minus : c = '-'
      · exact .inl minus
      · rw [literal?_plain (by simp [minus])] at read
        simp only [unsigned?, bind, Option.bind_eq_some_iff, Prod.exists] at read
        obtain ⟨whole, text, first, -⟩ := read
        exact .inr (whole?_isDigit first)

end Raw

namespace Number

/-- Does a number read back from its written form? -/
def ReadsBack (n : Number) : Prop :=
  ∃ l, Raw.literal? n.chars = some (l, []) ∧ l.number? = some n

theorem digitValue_toDigits (n : Nat) : Raw.digitValue (Nat.toDigits 10 n) = n := by
  have same : ∀ cs init, List.foldl (fun n d => n * 10 + (d.toNat - '0'.toNat)) init cs =
      Nat.ofDigitChars 10 cs init := by
    intro cs
    induction cs with
    | nil => intro init; rfl
    | cons c cs ih =>
        intro init
        rw [List.foldl_cons, ih, Nat.mul_comm]
        rfl
  rw [Raw.digitValue, same]
  exact Nat.ofDigitChars_ten_toDigits

theorem head?_toDigits {n : Nat} (pos : 0 < n) : (Nat.toDigits 10 n).head? ≠ some '0' := by
  induction n using Nat.strongRecOn with
  | ind n ih =>
      rw [Nat.toDigits_eq_if (by decide)]
      split
      · intro zero
        have digit : n.digitChar = '0' := by simpa using zero
        exact absurd (Nat.digitChar_eq_zero.mp digit) (by omega)
      · have front := ih (n / 10) (by omega) (by omega)
        rw [List.head?_append]
        cases leading : (Nat.toDigits 10 (n / 10)).head? with
        | none => simp at leading
        | some c => simpa [leading] using front

theorem isDigit_toDigits {n : Nat} : ∀ c ∈ Nat.toDigits 10 n, c.isDigit = true := fun _ =>
  Nat.isDigit_of_mem_toDigits (by decide) (by decide)

theorem whole?_toDigits (n : Nat) :
    Raw.whole? (Nat.toDigits 10 n) = some (Nat.toDigits 10 n, []) := by
  have digits : Raw.digits (Nat.toDigits 10 n ++ []) = (Nat.toDigits 10 n ++ [], []) := by
    rw [Raw.digits, List.takeWhile_append_of_pos isDigit_toDigits,
      List.dropWhile_append_of_pos isDigit_toDigits]
    rfl
  rw [List.append_nil] at digits
  rw [Raw.whole?, digits]
  split
  · next empty => exact absurd (Prod.mk.inj empty).1 Nat.toDigits_ne_nil
  · next second more _ leading =>
      have zeros : Nat.toDigits 10 n = '0' :: second :: more := (Prod.mk.inj leading).1
      rcases Nat.eq_zero_or_pos n with rfl | pos
      · simp at zeros
      · exact absurd (by rw [zeros]; rfl) (head?_toDigits pos)
  · next same => cases same; rfl

theorem unsigned?_toDigits (negative : Bool) (n : Nat) :
    Raw.unsigned? negative (Nat.toDigits 10 n) =
      some (⟨negative, Nat.toDigits 10 n, none, none⟩, []) := by
  rw [Raw.unsigned?, whole?_toDigits]
  rfl

theorem readsBack_integer (value : Int)
    (fits : -9223372036854775808 ≤ value ∧ value < 18446744073709551616) :
    (integer value fits).ReadsBack := by
  by_cases negative : value < 0
  · refine ⟨⟨true, Nat.toDigits 10 value.natAbs, none, none⟩, ?_, ?_⟩
    · simp only [chars, negative, if_true, DecimalStyle.digitChars]
      rw [Raw.literal?_minus, unsigned?_toDigits]
    · have same : -(value.natAbs : Int) = value := by omega
      simp only [Raw.Literal.number?, digitValue_toDigits, if_true, same]
      rw [dif_pos ⟨fits, fun zero => by omega⟩]
  · refine ⟨⟨false, Nat.toDigits 10 value.natAbs, none, none⟩, ?_, ?_⟩
    · have plain : ∀ more, Nat.toDigits 10 value.natAbs ≠ '-' :: more := by
        intro more minus
        have digit : '-'.isDigit = true := isDigit_toDigits '-' (by rw [minus]; exact .head more)
        cases digit
      simp only [chars, negative, if_false, DecimalStyle.digitChars]
      rw [Raw.literal?_plain plain, unsigned?_toDigits]
    · have same : (value.natAbs : Int) = value := by omega
      simp only [Raw.Literal.number?, digitValue_toDigits, Bool.false_eq_true, if_false, same]
      rw [dif_pos ⟨fits, fun zero => zero.1.elim⟩]

end Number

namespace Raw

theorem value?_hexDigit : ∀ n < 16, Digits.value? (Json.hexDigit n) = some n := by decide

theorem hexUnit?_control {n : Nat} (control : n < 32) (rest : List Char) :
    hexUnit? ('0' :: '0' :: Json.hexDigit (n / 16) :: Json.hexDigit (n % 16) :: rest) =
      some (n, rest) := by
  have high := value?_hexDigit (n / 16) (by omega)
  have low := value?_hexDigit (n % 16) (by omega)
  have zero : Digits.value? '0' = some 0 := by decide
  simp only [hexUnit?, high, low, zero, bind, Option.bind_some, pure, Option.some.injEq,
    Prod.mk.injEq, and_true]
  omega

theorem pieces?_plain {c : Char} (quote : c ≠ '"') (backslash : c ≠ '\\')
    (printable : ¬c.toNat < 32) (fuel : Nat) (rest : List Char) :
    pieces? (fuel + 1) (c :: rest) =
      (pieces? fuel rest).map fun (more, rest) => (.char c :: more, rest) := by
  rw [pieces?, if_neg printable]
  · cases pieces? fuel rest <;> rfl
  · exact quote
  · exact fun _ same _ => backslash same
  · exact fun _ _ same _ => backslash same

theorem pieces?_escapedChar (c : Char) (fuel : Nat) (rest : List Char) :
    pieces? (fuel + 1) (Json.escapedChar c ++ rest) =
      (pieces? fuel rest).map fun (more, rest) => (.char c :: more, rest) := by
  have bind_map (x : Option (List Piece × List Char)) (piece : Piece) :
      (do let (more, rest) ← x; return (piece :: more, rest)) =
        x.map fun (more, rest) => (piece :: more, rest) := by
    cases x <;> rfl
  unfold Json.escapedChar
  iterate 7
    split
    case isTrue same => subst same; exact bind_map _ _
  split
  case isTrue control =>
    have piece : unitPiece c.toNat = .char c := by
      rw [unitPiece, if_neg (by omega), Char.ofNat_toNat]
    simp only [List.cons_append, List.nil_append, pieces?, hexUnit?_control control, bind,
      Option.bind_some, piece]
    exact bind_map _ _
  case isFalse quote backslash _ _ _ _ _ printable =>
    exact pieces?_plain quote backslash printable fuel rest

theorem pieces?_quoted (cs : List Char) (fuel : Nat) (enough : cs.length < fuel)
    (rest : List Char) :
    pieces? fuel (cs.flatMap Json.escapedChar ++ '"' :: rest) = some (cs.map .char, rest) := by
  induction cs generalizing fuel with
  | nil =>
      cases fuel with
      | zero => cases enough
      | succ fuel => rfl
  | cons c cs ih =>
      cases fuel with
      | zero => cases enough
      | succ fuel =>
          rw [List.flatMap_cons, List.append_assoc, pieces?_escapedChar,
            ih fuel (Nat.lt_of_succ_lt_succ enough)]
          rfl

theorem spell?_chars (cs : List Char) : spell? (cs.map .char) = some cs := by
  induction cs with
  | nil => rfl
  | cons c cs ih => simp [spell?, ih]

theorem length_le_escaped (cs : List Char) : cs.length ≤ (cs.flatMap Json.escapedChar).length := by
  have nonempty (c : Char) : 0 < (Json.escapedChar c).length := by
    unfold Json.escapedChar
    repeat' split
    all_goals exact Nat.succ_pos _
  induction cs with
  | nil => exact Nat.le_refl _
  | cons c cs ih =>
      have escaped := nonempty c
      simp only [List.flatMap_cons, List.length_append, List.length_cons]
      omega

theorem string?_quoted (s : String) (rest : List Char) :
    string? (s.toList.flatMap Json.escapedChar ++ '"' :: rest) = some (some s, rest) := by
  have enough : s.toList.length <
      (s.toList.flatMap Json.escapedChar ++ '"' :: rest).length + 1 := by
    have escaped := length_le_escaped s.toList
    simp only [List.length_append, List.length_cons]
    omega
  rw [string?, pieces?_quoted s.toList _ enough]
  simp [spell?_chars]

end Raw

end DeclaredScreens
