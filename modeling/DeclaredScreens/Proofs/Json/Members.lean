import DeclaredScreens.Proofs.Numerals
import Mathlib.Data.List.Forall2

/-! Members of objects told from their text. A walk along a text keeps count of the open brackets
and knows when it is inside quotes; the text of a value brings it back to where it began, and what
may follow a value stops it there. So the text of a value ends where the value does, even if a
number in it does not read back, and two objects have one text just when they have the same names
in the same order, over values of the same text. -/

namespace DeclaredScreens.Json

open Raw (EndsLiteral)

/-- Where a walk along a text is, with so many brackets open. -/
inductive Place
  | between (depth : Nat)
  | quoted (depth : Nat)
  | escaped (depth : Nat)

/-- The place behind a character; none where a value ends that no bracket was open around. -/
def advance : Place → Char → Option Place
  | .between depth, c =>
      if c = '"' then some (.quoted depth)
      else if c = '[' ∨ c = '{' then some (.between (depth + 1))
      else
        match depth with
        | 0 => if c = ',' ∨ c = ']' ∨ c = '}' then none else some (.between 0)
        | inner + 1 => if c = ']' ∨ c = '}' then some (.between inner) else some (.between depth)
  | .quoted depth, c =>
      if c = '"' then some (.between depth)
      else if c = '\\' then some (.escaped depth)
      else some (.quoted depth)
  | .escaped depth, _ => some (.quoted depth)

def walk (place : Place) (cs : List Char) : Option Place := cs.foldlM advance place

theorem walk_cons (place : Place) (c : Char) (cs : List Char) :
    walk place (c :: cs) = (advance place c).bind (walk · cs) := rfl

theorem walk_append (place : Place) (cs ds : List Char) :
    walk place (cs ++ ds) = (walk place cs).bind (walk · ds) := List.foldlM_append

theorem walk_of_stays {place : Place} {cs : List Char}
    (stays : ∀ c ∈ cs, advance place c = some place) : walk place cs = some place := by
  induction cs with
  | nil => rfl
  | cons c cs ih =>
      obtain ⟨first, later⟩ := List.forall_mem_cons.mp stays
      rw [walk_cons, first, Option.bind_some, ih later]

theorem advance_numeral {c : Char} (numeral : isNumeralChar c = true) (depth : Nat) :
    advance (.between depth) c = some (.between depth) := by
  have plain : ¬(c = '"' ∨ c = '[' ∨ c = '{' ∨ c = ',' ∨ c = ']' ∨ c = '}') := by
    rintro (rfl | rfl | rfl | rfl | rfl | rfl) <;> cases numeral
  simp only [not_or] at plain
  cases depth <;> simp [advance, plain]

theorem walk_number (n : Number) (depth : Nat) :
    walk (.between depth) n.chars = some (.between depth) :=
  walk_of_stays fun c mem => advance_numeral (n.isNumeral_chars.chars c mem) depth

theorem hexDigit_plain : ∀ n < 16, hexDigit n ≠ '"' ∧ hexDigit n ≠ '\\' := by decide

theorem walk_escapedChar (c : Char) (depth : Nat) :
    walk (.quoted depth) (escapedChar c) = some (.quoted depth) := by
  unfold escapedChar
  iterate 7
    split
    case isTrue => rfl
  split
  case isTrue control =>
    have high := hexDigit_plain (c.toNat / 16) (by omega)
    have low := hexDigit_plain (c.toNat % 16) (by omega)
    simp [walk, advance, high, low]
  case isFalse quote backslash _ _ _ _ _ _ => simp [walk, advance, quote, backslash]

theorem walk_escaped (cs : List Char) (depth : Nat) :
    walk (.quoted depth) (cs.flatMap escapedChar) = some (.quoted depth) := by
  induction cs with
  | nil => rfl
  | cons c cs ih =>
      rw [List.flatMap_cons, walk_append, walk_escapedChar, Option.bind_some, ih]

theorem walk_quoted (s : String) (depth : Nat) :
    walk (.between depth) (quoted s) = some (.between depth) := by
  have opened : advance (.between depth) '"' = some (.quoted depth) := rfl
  have closed : walk (.quoted depth) ['"'] = some (.between depth) := rfl
  rw [quoted, walk_cons, opened, Option.bind_some, walk_append, walk_escaped, Option.bind_some,
    closed]

mutual

theorem walk_chars (j : Json) (depth : Nat) :
    walk (.between depth) j.chars = some (.between depth) := by
  cases j with
  | null => cases depth <;> rfl
  | bool b => cases depth <;> cases b <;> rfl
  | number n => exact walk_number n depth
  | string s => exact walk_quoted s depth
  | array items =>
      cases items with
      | nil => rfl
      | cons x xs =>
          have opened : advance (.between depth) '[' = some (.between (depth + 1)) := rfl
          rw [chars, walk_cons, opened, Option.bind_some, walk_append, walk_chars x,
            Option.bind_some, walk_itemChars xs]
  | object members =>
      cases members with
      | nil => rfl
      | cons member rest =>
          obtain ⟨name, value⟩ := member
          have opened : advance (.between depth) '{' = some (.between (depth + 1)) := rfl
          have colon : advance (.between (depth + 1)) ':' = some (.between (depth + 1)) := rfl
          rw [chars, walk_cons, opened, Option.bind_some, walk_append, walk_quoted,
            Option.bind_some, walk_cons, colon, Option.bind_some, walk_append, walk_chars value,
            Option.bind_some, walk_memberChars rest]
termination_by structural j

theorem walk_itemChars (items : List Json) (depth : Nat) :
    walk (.between (depth + 1)) (itemChars items) = some (.between depth) := by
  cases items with
  | nil => rfl
  | cons x xs =>
      have comma : advance (.between (depth + 1)) ',' = some (.between (depth + 1)) := rfl
      rw [itemChars, walk_cons, comma, Option.bind_some, walk_append, walk_chars x,
        Option.bind_some, walk_itemChars xs]
termination_by structural items

theorem walk_memberChars (members : List (String × Json)) (depth : Nat) :
    walk (.between (depth + 1)) (memberChars members) = some (.between depth) := by
  cases members with
  | nil => rfl
  | cons member rest =>
      obtain ⟨name, value⟩ := member
      have comma : advance (.between (depth + 1)) ',' = some (.between (depth + 1)) := rfl
      have colon : advance (.between (depth + 1)) ':' = some (.between (depth + 1)) := rfl
      rw [memberChars, walk_cons, comma, Option.bind_some, walk_append, walk_quoted,
        Option.bind_some, walk_cons, colon, Option.bind_some, walk_append, walk_chars value,
        Option.bind_some, walk_memberChars rest]
termination_by structural members

end

section Seam

variable {a b : Json} {r s more : List Char}

/-- The text of a value does not hold a shorter one with what may follow a value behind it. -/
theorem eq_nil_of_chars_append (longer : b.chars = a.chars ++ more)
    (ends : EndsLiteral (more ++ s)) : more = [] := by
  cases more with
  | nil => rfl
  | cons c more =>
      have stops : advance (.between 0) c = none := by
        rcases ends c rfl with rfl | rfl | rfl <;> rfl
      have whole := walk_chars b 0
      rw [longer, walk_append, walk_chars, Option.bind_some, walk_cons, stops] at whole
      cases whole

theorem chars_append_inj (same : a.chars ++ r = b.chars ++ s) (ends : EndsLiteral r)
    (ends' : EndsLiteral s) : a.chars = b.chars ∧ r = s := by
  rcases List.append_eq_append_iff.mp same with ⟨more, longer, rest⟩ | ⟨more, longer, rest⟩
  · obtain rfl := eq_nil_of_chars_append longer (rest ▸ ends)
    exact ⟨by simpa using longer.symm, rest⟩
  · obtain rfl := eq_nil_of_chars_append longer (rest ▸ ends')
    exact ⟨by simpa using longer, rest.symm⟩

theorem quoted_append_inj {name other : String} (same : quoted name ++ r = quoted other ++ s) :
    name = other ∧ r = s := by
  have read (t : String) (rest : List Char) :
      Raw.string? (quoted t ++ rest).tail = some (some t, rest) := by
    simp only [quoted, List.cons_append, List.append_assoc, List.nil_append, List.tail_cons]
    exact Raw.string?_quoted t rest
  have both := (read name r).symm.trans (same ▸ read other s)
  simpa using both

theorem endsLiteral_memberChars (members : List (String × Json)) :
    EndsLiteral (memberChars members) := by
  cases members <;> simp [memberChars, EndsLiteral]

end Seam

/-- Two members under one name, whose values have one text. -/
def SameText (m n : String × Json) : Prop := m.1 = n.1 ∧ m.2.text = n.2.text

theorem text_eq_iff {a b : Json} : a.text = b.text ↔ a.chars = b.chars := String.ofList_inj

theorem memberChars_eq_iff (ms ns : List (String × Json)) :
    memberChars ms = memberChars ns ↔ List.Forall₂ SameText ms ns := by
  induction ms generalizing ns with
  | nil => cases ns <;> simp [memberChars]
  | cons m ms ih =>
      obtain ⟨name, value⟩ := m
      cases ns with
      | nil => simp [memberChars]
      | cons n ns =>
          obtain ⟨other, shown⟩ := n
          simp only [memberChars, List.cons.injEq, true_and, List.forall₂_cons, SameText,
            text_eq_iff, ← ih]
          constructor
          · intro same
            obtain ⟨names, rest⟩ := quoted_append_inj same
            obtain ⟨values, later⟩ := chars_append_inj (List.cons.inj rest).2
              (endsLiteral_memberChars ms) (endsLiteral_memberChars ns)
            exact ⟨⟨names, values⟩, later⟩
          · rintro ⟨⟨rfl, values⟩, later⟩
            rw [values, later]

/-- The text of an object tells its members, each by its name and the text of its value. -/
theorem text_object_eq_iff (ms ns : List (String × Json)) :
    (object ms).text = (object ns).text ↔ List.Forall₂ SameText ms ns := by
  rw [text_eq_iff, ← memberChars_eq_iff]
  cases ms <;> cases ns <;> simp [chars, memberChars, quoted]

end DeclaredScreens.Json
