import DeclaredScreens.Decoding
import DeclaredScreens.Proofs.Json.Literals
import DeclaredScreens.Proofs.Record

/-! Documents read back from their text. The tree that is read from the text of a document is the
tree of the document, and its value is the document itself if it is not nested too deep and its
objects name each member once. The readers run on fuel; the length of the text is enough. -/

namespace DeclaredScreens

namespace Json

open Raw (EndsLiteral skipBlanks isBlank readValue readItems readMembers)

mutual

def floats : Json → List Binary64
  | number (.float f) => [f]
  | array items => itemFloats items
  | object members => memberFloats members
  | _ => []

def itemFloats : List Json → List Binary64
  | [] => []
  | x :: xs => floats x ++ itemFloats xs

def memberFloats : List (String × Json) → List Binary64
  | [] => []
  | (_, value) :: rest => floats value ++ memberFloats rest

end

mutual

def nesting : Json → Nat
  | array items => itemNesting items + 1
  | object members => memberNesting members + 1
  | _ => 0

def itemNesting : List Json → Nat
  | [] => 0
  | x :: xs => max (nesting x) (itemNesting xs)

def memberNesting : List (String × Json) → Nat
  | [] => 0
  | (_, value) :: rest => max (nesting value) (memberNesting rest)

end

/-- Is the document nested no deeper than is read, and do its doubles read back from their
digits? -/
structure Readable (j : Json) : Prop where
  deep : j.nesting ≤ nestingLimit
  floats : ∀ f ∈ j.floats, (Number.float f).ReadsBack

theorem number_readsBack {n : Number}
    (reads : ∀ f ∈ (number n).floats, (Number.float f).ReadsBack) : n.ReadsBack := by
  cases n with
  | integer value fits => exact Number.readsBack_integer value fits
  | float f => exact reads f (.head _)

theorem isBlank_number {c : Char} (first : c = '-' ∨ c.isDigit = true) : isBlank c = false := by
  cases blank : isBlank c with
  | false => rfl
  | true =>
      simp only [isBlank, Bool.or_eq_true, decide_eq_true_eq] at blank
      rcases blank with ((rfl | rfl) | rfl) | rfl <;> exact absurd first (by decide)

/-- The text of a document starts with a character that is no blank and closes nothing. -/
theorem chars_head (j : Json) (reads : ∀ f ∈ j.floats, (Number.float f).ReadsBack) :
    ∃ c more, j.chars = c :: more ∧ isBlank c = false ∧ c ≠ ']' := by
  have plain {c : Char} {more : List Char} (text : j.chars = c :: more)
      (first : isBlank c = false ∧ c ≠ ']') :
      ∃ c more, j.chars = c :: more ∧ isBlank c = false ∧ c ≠ ']' := ⟨c, more, text, first⟩
  cases j with
  | null => exact plain rfl (by decide)
  | bool b => cases b <;> exact plain rfl (by decide)
  | number n =>
      obtain ⟨l, literal, -⟩ := number_readsBack reads
      obtain ⟨c, more, text, first⟩ := Raw.literal?_head literal
      refine plain text ⟨isBlank_number first, ?_⟩
      rintro rfl
      exact absurd first (by decide)
  | string s => exact plain rfl (by decide)
  | array items => cases items <;> exact plain rfl (by decide)
  | object members => cases members <;> exact plain rfl (by decide)

theorem skipBlanks_cons {c : Char} (solid : isBlank c = false) (rest : List Char) :
    skipBlanks (c :: rest) = c :: rest := by
  simp [skipBlanks, solid]

theorem endsLiteral_items (xs : List Json) (rest : List Char) :
    EndsLiteral (itemChars xs ++ rest) := by
  cases xs with
  | nil => rintro _ ⟨⟩; decide
  | cons x xs => rintro _ ⟨⟩; decide

theorem endsLiteral_members (ms : List (String × Json)) (rest : List Char) :
    EndsLiteral (memberChars ms ++ rest) := by
  cases ms with
  | nil => rintro _ ⟨⟩; decide
  | cons m ms => rintro _ ⟨⟩; decide

theorem readValue_number {c : Char} (first : c = '-' ∨ c.isDigit = true) (fuel : Nat)
    (more : List Char) :
    readValue (fuel + 1) (c :: more) =
      match Raw.literal? (c :: more) with
      | some (l, rest) => (.number l.number?, rest)
      | none => (.broken, []) := by
  rw [readValue, skipBlanks_cons (isBlank_number first)]
  split
  case h_7 => rfl
  all_goals
    next same =>
      cases same
      exact absurd first (by decide)

theorem readValue_array {c : Char} (solid : isBlank c = false) (open' : c ≠ ']') (fuel : Nat)
    (more : List Char) :
    readValue (fuel + 1) ('[' :: c :: more) =
      (.array (readItems fuel (c :: more)).1, (readItems fuel (c :: more)).2) := by
  rw [readValue, skipBlanks_cons (by decide)]
  simp only [skipBlanks_cons solid]
  split
  · next same => exact absurd (List.cons.inj same).1 open'
  · rfl

theorem readItems_succ (fuel : Nat) (cs : List Char) :
    readItems (fuel + 1) cs =
      match skipBlanks (readValue fuel cs).2 with
      | ',' :: rest => ((readValue fuel cs).1 :: (readItems fuel rest).1, (readItems fuel rest).2)
      | ']' :: rest => ([(readValue fuel cs).1], rest)
      | _ => ([(readValue fuel cs).1, .broken], []) := rfl

theorem readMembers_quoted (fuel : Nat) (name : String) (cs : List Char) :
    readMembers (fuel + 1) (quoted name ++ ':' :: cs) =
      match skipBlanks (readValue fuel cs).2 with
      | ',' :: rest =>
          ((some name, (readValue fuel cs).1) :: (readMembers fuel rest).1,
            (readMembers fuel rest).2)
      | '}' :: rest => ([(some name, (readValue fuel cs).1)], rest)
      | _ => ([(some name, (readValue fuel cs).1), (none, .broken)], []) := by
  have whole : quoted name ++ ':' :: cs =
      '"' :: (name.toList.flatMap escapedChar ++ '"' :: ':' :: cs) := by simp [quoted]
  rw [readMembers, whole, skipBlanks_cons (by decide)]
  simp only [Raw.string?_quoted]
  rfl

mutual

theorem readValue_chars (j : Json) (reads : ∀ f ∈ j.floats, (Number.float f).ReadsBack)
    (fuel : Nat) (enough : j.chars.length ≤ fuel) (rest : List Char) (ends : EndsLiteral rest) :
    readValue fuel (j.chars ++ rest) = (j.raw, rest) := by
  obtain ⟨fuel, rfl⟩ : ∃ less, fuel = less + 1 := by
    obtain ⟨c, more, text, -⟩ := chars_head j reads
    rw [text, List.length_cons] at enough
    exact ⟨fuel - 1, by omega⟩
  cases j with
  | null => rfl
  | bool b => cases b <;> rfl
  | number n =>
      obtain ⟨l, literal, value⟩ := number_readsBack reads
      obtain ⟨c, more, text, first⟩ := Raw.literal?_head literal
      have whole := Raw.literal?_append ends literal
      rw [chars, text, List.cons_append, readValue_number first, ← List.cons_append, ← text, whole]
      simp [value, raw]
  | string s =>
      have whole : quoted s ++ rest = '"' :: (s.toList.flatMap escapedChar ++ '"' :: rest) := by
        simp [quoted]
      rw [chars, whole, readValue, skipBlanks_cons (by decide)]
      simp only [Raw.string?_quoted, raw]
  | array items =>
      cases items with
      | nil => rfl
      | cons x xs =>
          rw [chars, List.length_cons] at enough
          obtain ⟨c, more, text, solid, open'⟩ := chars_head x fun f mem =>
            reads f (List.mem_append_left _ mem)
          have items := readItems_chars (x :: xs) reads rfl fuel (by omega) rest
          rw [text, List.cons_append, List.cons_append] at items
          rw [chars, text, List.cons_append, List.cons_append, List.cons_append,
            readValue_array solid open', items]
          rfl
  | object members =>
      cases members with
      | nil => rfl
      | cons m ms =>
          obtain ⟨name, value⟩ := m
          rw [chars, List.length_cons] at enough
          have members := readMembers_chars ((name, value) :: ms) reads rfl fuel (by omega) rest
          let text := quoted name ++ ':' :: (value.chars ++ memberChars ms)
          have whole : readValue (fuel + 1) ((object ((name, value) :: ms)).chars ++ rest) =
              (.object (readMembers fuel (text ++ rest)).1,
                (readMembers fuel (text ++ rest)).2) := rfl
          rw [whole, members]
          rfl

theorem readItems_chars (items : List Json)
    (reads : ∀ f ∈ itemFloats items, (Number.float f).ReadsBack) {text : List Char}
    (written : itemChars items = ',' :: text) (fuel : Nat) (enough : text.length ≤ fuel)
    (rest : List Char) : readItems fuel (text ++ rest) = (rawItems items, rest) := by
  cases items with
  | nil => cases written
  | cons x xs =>
      cases written
      obtain ⟨fuel, rfl⟩ : ∃ less, fuel = less + 1 := by
        obtain ⟨c, more, text, -⟩ := chars_head x fun f mem => reads f (List.mem_append_left _ mem)
        rw [text, List.cons_append, List.length_cons] at enough
        exact ⟨fuel - 1, by omega⟩
      rw [List.length_append] at enough
      have closing : 0 < (itemChars xs).length := by cases xs <;> exact Nat.succ_pos _
      have first := readValue_chars x (fun f mem => reads f (List.mem_append_left _ mem)) fuel
        (by omega) (itemChars xs ++ rest) (endsLiteral_items xs rest)
      rw [readItems_succ, List.append_assoc, first]
      cases xs with
      | nil => rfl
      | cons y ys =>
          have more := readItems_chars (y :: ys)
            (fun f mem => reads f (List.mem_append_right _ mem)) rfl fuel
            (by simp only [itemChars, List.length_cons] at enough; omega) rest
          simp only [itemChars, List.cons_append,
            skipBlanks_cons (show isBlank ',' = false by decide), more]
          rfl

theorem readMembers_chars (members : List (String × Json))
    (reads : ∀ f ∈ memberFloats members, (Number.float f).ReadsBack) {text : List Char}
    (written : memberChars members = ',' :: text) (fuel : Nat) (enough : text.length ≤ fuel)
    (rest : List Char) : readMembers fuel (text ++ rest) = (rawMembers members, rest) := by
  cases members with
  | nil => cases written
  | cons m ms =>
      obtain ⟨name, value⟩ := m
      cases written
      obtain ⟨fuel, rfl⟩ : ∃ less, fuel = less + 1 := by
        simp only [quoted, List.cons_append, List.length_cons] at enough
        exact ⟨fuel - 1, by omega⟩
      simp only [List.length_append, List.length_cons] at enough
      have first := readValue_chars value (fun f mem => reads f (List.mem_append_left _ mem)) fuel
        (by omega) (memberChars ms ++ rest) (endsLiteral_members ms rest)
      rw [List.append_assoc, List.cons_append, List.append_assoc, readMembers_quoted, first]
      cases ms with
      | nil => rfl
      | cons m ms =>
          have more := readMembers_chars (m :: ms)
            (fun f mem => reads f (List.mem_append_right _ mem)) rfl fuel
            (by simp only [memberChars, List.length_cons] at enough ⊢; omega) rest
          simp only [memberChars, List.cons_append,
            skipBlanks_cons (show isBlank ',' = false by decide), more]
          rfl

end

theorem ofText_text (j : Json) (reads : ∀ f ∈ j.floats, (Number.float f).ReadsBack) :
    Raw.ofText j.text = (j.raw, true) := by
  have nothing : EndsLiteral [] := nofun
  have whole := readValue_chars j reads (2 * j.chars.length + 2) (by omega) [] nothing
  rw [List.append_nil] at whole
  rw [Raw.ofText, text, String.toList_ofList, Raw.ofChars, whole]
  rfl

theorem put_absent {name : String} {done : Record} (absent : name ∉ Entries.names done)
    (value : Json) : Entries.put name value done = done ++ [(name, value)] := by
  induction done with
  | nil => rfl
  | cons m ms ih =>
      obtain ⟨first, old⟩ := m
      simp only [Entries.names, List.map_cons, List.mem_cons, not_or] at absent
      simp only [Entries.put, if_neg (Ne.symm absent.1), ih absent.2, List.cons_append]

mutual

theorem value?_raw {room : Nat} (j : Json) (deep : j.nesting ≤ room)
    (distinct : j.isDistinct = true) : j.raw.value? room = some j := by
  cases j with
  | array items =>
      cases room with
      | zero => simp [nesting] at deep
      | succ room =>
          rw [nesting] at deep
          simp [raw, Raw.value?, itemValues?_raw items (Nat.le_of_succ_le_succ deep) distinct]
  | object members =>
      cases room with
      | zero => simp [nesting] at deep
      | succ room =>
          rw [nesting] at deep
          rw [isDistinct, Bool.and_eq_true, decide_eq_true_eq] at distinct
          have values := memberValues?_raw members (Nat.le_of_succ_le_succ deep) distinct.2 []
            distinct.1 (by simp [Entries.names])
          simp [raw, Raw.value?, values]
  | _ => cases room <;> rfl

theorem itemValues?_raw {room : Nat} (items : List Json) (deep : itemNesting items ≤ room)
    (distinct : distinctItems items = true) :
    Raw.itemValues? room (rawItems items) = some items := by
  cases items with
  | nil => rfl
  | cons x xs =>
      rw [itemNesting, Nat.max_le] at deep
      rw [distinctItems, Bool.and_eq_true] at distinct
      simp [rawItems, Raw.itemValues?, value?_raw x deep.1 distinct.1,
        itemValues?_raw xs deep.2 distinct.2]

theorem memberValues?_raw {room : Nat} (members : List (String × Json))
    (deep : memberNesting members ≤ room) (distinct : distinctMembers members = true)
    (done : Record) (names : (members.map Prod.fst).Nodup)
    (apart : ∀ name ∈ members.map Prod.fst, name ∉ Entries.names done) :
    Raw.memberValues? room (rawMembers members) done = some (done ++ members) := by
  cases members with
  | nil => simp [rawMembers, Raw.memberValues?]
  | cons m ms =>
      obtain ⟨name, value⟩ := m
      rw [memberNesting, Nat.max_le] at deep
      rw [distinctMembers, Bool.and_eq_true] at distinct
      rw [List.map_cons, List.nodup_cons] at names
      have later : ∀ other ∈ ms.map Prod.fst, other ∉ Entries.names (done ++ [(name, value)]) := by
        intro other mem
        simp only [Entries.names, List.map_append, List.map_cons, List.map_nil, List.mem_append,
          List.mem_singleton, not_or]
        exact ⟨apart other (.tail _ mem), fun same => names.1 (same ▸ mem)⟩
      have more := memberValues?_raw ms deep.2 distinct.2 (done ++ [(name, value)]) names.2 later
      simp [rawMembers, Raw.memberValues?, value?_raw value deep.1 distinct.1,
        put_absent (apart name (.head _)), more]

end

mutual

/-- The tree of a document has a value just when it is not nested too deep. Names may repeat. -/
theorem isSome_value?_raw {room : Nat} (j : Json) :
    (j.raw.value? room).isSome = true ↔ j.nesting ≤ room := by
  cases j with
  | array items =>
      cases room with
      | zero => simp [raw, Raw.value?, nesting]
      | succ room => simp [raw, Raw.value?, nesting, isSome_itemValues?_raw items]
  | object members =>
      cases room with
      | zero => simp [raw, Raw.value?, nesting]
      | succ room => simp [raw, Raw.value?, nesting, isSome_memberValues?_raw members]
  | _ => cases room <;> simp [raw, Raw.value?, nesting]

theorem isSome_itemValues?_raw {room : Nat} (items : List Json) :
    (Raw.itemValues? room (rawItems items)).isSome = true ↔ itemNesting items ≤ room := by
  cases items with
  | nil => simp [rawItems, Raw.itemValues?, itemNesting]
  | cons x xs =>
      rw [itemNesting, Nat.max_le, ← isSome_value?_raw x, ← isSome_itemValues?_raw xs]
      cases first : x.raw.value? room <;> cases more : Raw.itemValues? room (rawItems xs) <;>
        simp [rawItems, Raw.itemValues?, first, more]

theorem isSome_memberValues?_raw {room : Nat} (members : List (String × Json)) (done : Record) :
    (Raw.memberValues? room (rawMembers members) done).isSome = true ↔
      memberNesting members ≤ room := by
  cases members with
  | nil => simp [rawMembers, Raw.memberValues?, memberNesting]
  | cons m ms =>
      obtain ⟨name, value⟩ := m
      rw [memberNesting, Nat.max_le, ← isSome_value?_raw value]
      cases first : value.raw.value? room with
      | none => simp [rawMembers, Raw.memberValues?, first]
      | some y => simp [rawMembers, Raw.memberValues?, first, isSome_memberValues?_raw ms]

end

theorem isSome_ofText?_text (j : Json) (reads : ∀ f ∈ j.floats, (Number.float f).ReadsBack) :
    (ofText? j.text).isSome = true ↔ j.nesting ≤ nestingLimit := by
  rw [ofText?, ofText_text j reads, isSome_value?_raw]

end Json

end DeclaredScreens
