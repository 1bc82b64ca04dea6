import DeclaredScreens.Template
import Mathlib.Data.String.Basic

/-! Templates in pieces. A template is in one way only a row of placeholders, each as long as it
can be, and of other characters; filling it puts the text of a field for each placeholder, once,
and copies the rest. So the text of a field is not read again, templates may be filled part by part
unless a placeholder lies across the seam, and only the fields with placeholders count. -/

namespace DeclaredScreens.Template

inductive Piece
  | copied (c : Char)
  | placeholder (name : String)

def EndsName (rest : List Char) : Prop := ∀ c ∈ rest.head?, isNameChar c = false

namespace Piece

def chars : Piece → List Char
  | copied c => [c]
  | placeholder name => ':' :: name.toList

/-- May the piece stand before the rest of a template? The name of a placeholder is not empty and
ends where the rest begins, and a colon to copy has no name after it. -/
def FitsBefore (rest : List Char) : Piece → Prop
  | copied c => c = ':' → EndsName rest
  | placeholder name =>
      name ≠ "" ∧ (∀ c ∈ name.toList, isNameChar c = true) ∧ EndsName rest

def filled (record : Option Record) : Piece → List Char
  | copied c => [c]
  | placeholder name =>
      match record.bind (List.lookup name) with
      | none | some .null => []
      | some value => value.displayChars

end Piece

def spelled (pieces : List Piece) : List Char := pieces.flatMap Piece.chars

def filled (record : Option Record) (pieces : List Piece) : List Char :=
  pieces.flatMap (Piece.filled record)

def Maximal : List Piece → Prop
  | [] => True
  | piece :: rest => piece.FitsBefore (spelled rest) ∧ Maximal rest

@[simp] theorem spelled_nil : spelled [] = [] := rfl

@[simp] theorem spelled_cons (piece : Piece) (rest : List Piece) :
    spelled (piece :: rest) = piece.chars ++ spelled rest := rfl

@[simp] theorem spelled_append (ps qs : List Piece) :
    spelled (ps ++ qs) = spelled ps ++ spelled qs := List.flatMap_append

@[simp] theorem filled_nil (record : Option Record) : filled record [] = [] := rfl

@[simp] theorem filled_cons (record : Option Record) (piece : Piece) (rest : List Piece) :
    filled record (piece :: rest) = piece.filled record ++ filled record rest := rfl

@[simp] theorem filled_append (record : Option Record) (ps qs : List Piece) :
    filled record (ps ++ qs) = filled record ps ++ filled record qs := List.flatMap_append

section Names

variable {name rest : List Char}

theorem EndsName.takeWhile_eq (ends : EndsName rest) : rest.takeWhile isNameChar = [] := by
  cases rest with
  | nil => rfl
  | cons c rest => simp [ends c rfl]

theorem EndsName.dropWhile_eq (ends : EndsName rest) : rest.dropWhile isNameChar = rest := by
  cases rest with
  | nil => rfl
  | cons c rest => simp [ends c rfl]

theorem takeWhile_name (named : ∀ c ∈ name, isNameChar c = true) (ends : EndsName rest) :
    (name ++ rest).takeWhile isNameChar = name := by
  rw [List.takeWhile_append_of_pos named, ends.takeWhile_eq, List.append_nil]

theorem dropWhile_name (named : ∀ c ∈ name, isNameChar c = true) (ends : EndsName rest) :
    (name ++ rest).dropWhile isNameChar = rest := by
  rw [List.dropWhile_append_of_pos named, ends.dropWhile_eq]

theorem endsName_dropWhile (rest : List Char) : EndsName (rest.dropWhile isNameChar) := by
  intro c first
  have stopped := List.head?_dropWhile_not isNameChar rest
  rw [Option.mem_def.mp first] at stopped
  exact stopped

theorem endsName_of_takeWhile (bare : rest.takeWhile isNameChar = []) : EndsName rest := by
  have whole := List.takeWhile_append_dropWhile (p := isNameChar) (l := rest)
  rw [bare, List.nil_append] at whole
  exact whole ▸ endsName_dropWhile rest

theorem EndsName.append {more : List Char} (ends : EndsName rest)
    (seam : rest = [] → EndsName more) : EndsName (rest ++ more) := by
  cases rest with
  | nil => exact seam rfl
  | cons c rest => exact ends

end Names

namespace Piece

variable {p q : Piece} {r s : List Char}

@[simp] theorem chars_copied (c : Char) : (copied c).chars = [c] := rfl

@[simp] theorem chars_placeholder (name : String) :
    (placeholder name).chars = ':' :: name.toList := rfl

theorem fieldChars_eq (record : Option Record) (name : String) :
    fieldChars record name.toList = (placeholder name).filled record := by
  simp only [fieldChars, filled, String.ofList_toList]
  cases record.bind (List.lookup name) with
  | none => rfl
  | some value => cases value <;> rfl

theorem fillChars_append (record : Option Record) (fits : p.FitsBefore r) :
    fillChars record (p.chars ++ r) = p.filled record ++ fillChars record r := by
  cases p with
  | copied c =>
      by_cases colon : c = ':'
      · have bare : r.takeWhile isNameChar = [] := (fits colon).takeWhile_eq
        simp [chars, filled, fillChars, colon, bare]
      · simp [chars, filled, fillChars, colon]
  | placeholder name =>
      obtain ⟨some, named, ends⟩ := fits
      rw [← fieldChars_eq, chars, List.cons_append, fillChars]
      have rest := dropWhile_name named ends
      have taken := takeWhile_name named ends
      simp only [ne_eq, not_true_eq_false, if_false, taken, rest]
      split
      · next empty => exact absurd (String.toList_eq_nil_iff.mp empty) some
      · rfl

theorem not_endsName {name : String} (fits : (placeholder name).FitsBefore r) :
    ¬EndsName (name.toList ++ r) := by
  obtain ⟨some, named, -⟩ := fits
  intro ends
  cases letters : name.toList with
  | nil => exact some (String.toList_eq_nil_iff.mp letters)
  | cons c rest =>
      have isName : isNameChar c = true := named c (by simp [letters])
      have noName : isNameChar c = false := ends c (by simp [letters])
      exact absurd isName (by simp [noName])

theorem eq_of_chars_append (fits : p.FitsBefore r) (fits' : q.FitsBefore s)
    (same : p.chars ++ r = q.chars ++ s) : p = q ∧ r = s := by
  -- A colon to copy has no name behind it and a placeholder has one, so the kinds agree.
  cases p with
  | copied c =>
      cases q with
      | copied d => simpa using same
      | placeholder name =>
          obtain ⟨colon, rfl⟩ : c = ':' ∧ r = name.toList ++ s := by simpa using same
          exact (not_endsName fits' (fits colon)).elim
  | placeholder name =>
      cases q with
      | copied d =>
          obtain ⟨colon, rfl⟩ : ':' = d ∧ name.toList ++ r = s := by simpa using same
          exact (not_endsName fits (fits' colon.symm)).elim
      | placeholder other =>
          have rest : name.toList ++ r = other.toList ++ s := by simpa using same
          obtain ⟨-, named, ends⟩ := fits
          obtain ⟨-, named', ends'⟩ := fits'
          have names : name.toList = other.toList := by
            rw [← takeWhile_name named ends, rest, takeWhile_name named' ends']
          refine ⟨by rw [String.toList_inj.mp names], ?_⟩
          rw [← dropWhile_name named ends, rest, dropWhile_name named' ends']

end Piece

/-- A colon and the beginning of a name, or nothing of it yet, come last. -/
def EndsOpen (text : List Char) : Prop :=
  ∃ front name, text = front ++ ':' :: name ∧ ∀ c ∈ name, isNameChar c = true

theorem EndsOpen.append_left {text : List Char} (front : List Char) (ends : EndsOpen text) :
    EndsOpen (front ++ text) := by
  obtain ⟨before, name, rfl, named⟩ := ends
  exact ⟨front ++ before, name, by simp, named⟩

theorem Piece.FitsBefore.append {p : Piece} {r more : List Char} (fits : p.FitsBefore r)
    (seam : EndsOpen (p.chars ++ r) → EndsName more) : p.FitsBefore (r ++ more) := by
  cases p with
  | copied c =>
      exact fun colon => (fits colon).append fun empty => seam ⟨[], [], by simp [colon, empty]⟩
  | placeholder name =>
      obtain ⟨some, named, ends⟩ := fits
      exact ⟨some, named, ends.append fun empty => seam ⟨[], name.toList, by simp [empty], named⟩⟩

section Pieces

variable {pieces ps qs : List Piece}

theorem Maximal.append (first : Maximal ps) (second : Maximal qs)
    (seam : EndsOpen (spelled ps) → EndsName (spelled qs)) : Maximal (ps ++ qs) := by
  induction ps with
  | nil => exact second
  | cons p rest ih =>
      have fits : p.FitsBefore (spelled (rest ++ qs)) := by
        rw [spelled_append]
        exact first.1.append seam
      exact ⟨fits, ih first.2 fun ends => seam (ends.append_left p.chars)⟩

theorem exists_pieces (text : List Char) : ∃ pieces, Maximal pieces ∧ spelled pieces = text := by
  fun_induction fillChars none text with
  | case1 => exact ⟨[], trivial, rfl⟩
  | case2 c rest other ih =>
      obtain ⟨pieces, maximal, rfl⟩ := ih
      exact ⟨.copied c :: pieces, ⟨fun colon => absurd colon other, maximal⟩, rfl⟩
  | case3 c rest colon bare ih =>
      obtain ⟨pieces, maximal, rfl⟩ := ih
      exact ⟨.copied c :: pieces, ⟨fun _ => endsName_of_takeWhile bare, maximal⟩, rfl⟩
  | case4 c rest colon named ih =>
      obtain ⟨pieces, maximal, spells⟩ := ih
      have fits : (Piece.placeholder (String.ofList (rest.takeWhile isNameChar))).FitsBefore
          (spelled pieces) := by
        refine ⟨?_, ?_, spells ▸ endsName_dropWhile rest⟩
        · exact fun empty => named (by simpa using congrArg String.toList empty)
        · simpa using List.all_eq_true.mp (List.all_takeWhile (p := isNameChar) (l := rest))
      refine ⟨_ :: pieces, ⟨fits, maximal⟩, ?_⟩
      simp only [ne_eq, not_not] at colon
      simp [spells, colon, List.takeWhile_append_dropWhile]

theorem eq_of_spelled (maximal : Maximal ps) (maximal' : Maximal qs)
    (same : spelled ps = spelled qs) : ps = qs := by
  induction ps generalizing qs with
  | nil =>
      cases qs with
      | nil => rfl
      | cons q qs => cases q <;> simp at same
  | cons p ps ih =>
      cases qs with
      | nil => cases p <;> simp at same
      | cons q qs =>
          obtain ⟨rfl, rest⟩ := Piece.eq_of_chars_append maximal.1 maximal'.1 same
          rw [ih maximal.2 maximal'.2 rest]

theorem fillChars_spelled (record : Option Record) (maximal : Maximal pieces) :
    fillChars record (spelled pieces) = filled record pieces := by
  induction pieces with
  | nil => simp [fillChars]
  | cons p rest ih =>
      rw [spelled_cons, Piece.fillChars_append record maximal.1, ih maximal.2, filled_cons]

theorem filled_congr {a b : Option Record}
    (agree : ∀ name, .placeholder name ∈ pieces →
      a.bind (List.lookup name) = b.bind (List.lookup name)) :
    filled a pieces = filled b pieces := by
  have alike (p : Piece) (mem : p ∈ pieces) : p.filled a = p.filled b := by
    cases p with
    | copied c => rfl
    | placeholder name => simp only [Piece.filled, agree name mem]
  exact List.flatMap_congr alike

end Pieces

/-- The pieces make up the template, and each placeholder takes what it can. -/
structure Decomposes (template : String) (pieces : List Piece) : Prop where
  maximal : Maximal pieces
  spelled_eq : spelled pieces = template.toList

namespace Decomposes

variable {template more : String} {pieces others : List Piece}

theorem fill_eq (parts : Decomposes template pieces) (record : Option Record) :
    fill template record = String.ofList (filled record pieces) := by
  rw [fill, ← parts.spelled_eq, fillChars_spelled record parts.maximal]

theorem fill_congr {a b : Option Record} (parts : Decomposes template pieces)
    (agree : ∀ name, .placeholder name ∈ pieces →
      a.bind (List.lookup name) = b.bind (List.lookup name)) :
    fill template a = fill template b := by
  rw [parts.fill_eq, parts.fill_eq, filled_congr agree]

theorem append (parts : Decomposes template pieces) (further : Decomposes more others)
    (seam : EndsOpen template.toList → EndsName more.toList) :
    Decomposes (template ++ more) (pieces ++ others) where
  maximal := by
    rw [← parts.spelled_eq, ← further.spelled_eq] at seam
    exact parts.maximal.append further.maximal seam
  spelled_eq := by simp [parts.spelled_eq, further.spelled_eq]

theorem unique (parts : Decomposes template pieces) (parts' : Decomposes template others) :
    pieces = others :=
  eq_of_spelled parts.maximal parts'.maximal (parts.spelled_eq.trans parts'.spelled_eq.symm)

end Decomposes

theorem exists_decomposition (template : String) : ∃ pieces, Decomposes template pieces := by
  obtain ⟨pieces, maximal, spells⟩ := exists_pieces template.toList
  exact ⟨pieces, maximal, spells⟩

theorem fill_congr {a b : Record} (same : ∀ name, a.lookup name = b.lookup name)
    (template : String) : fill template (some a) = fill template (some b) := by
  obtain ⟨pieces, parts⟩ := exists_decomposition template
  exact parts.fill_congr fun name _ => same name

/-- Where the name of a placeholder starts, in bytes: behind the pieces before it and a colon. -/
def nameStart (before : List Piece) : String.Pos.Raw :=
  ⟨(String.ofList (spelled before)).utf8ByteSize + 1⟩

def nameEnd (before : List Piece) (name : String) : String.Pos.Raw :=
  ⟨(nameStart before).byteIdx + name.utf8ByteSize⟩

theorem Decomposes.slice {template name : String} {before after : List Piece}
    (parts : Decomposes template (before ++ .placeholder name :: after)) :
    (nameStart before).IsValid template ∧ (nameEnd before name).IsValid template ∧
      String.Pos.Raw.extract template (nameStart before) (nameEnd before name) = name := by
  have whole : template =
      String.ofList ((spelled before ++ [':']) ++ name.toList ++ spelled after) := by
    rw [← String.ofList_toList (s := template), ← parts.spelled_eq]
    simp
  have start : nameStart before = ⟨String.utf8Len (spelled before ++ [':'])⟩ := by
    have colon : String.utf8Len [':'] = 1 := rfl
    rw [String.utf8Len_append, colon, nameStart, String.utf8ByteSize_ofList]
  have stop : nameEnd before name =
      ⟨String.utf8Len (spelled before ++ [':']) + String.utf8Len name.toList⟩ := by
    simp [nameEnd, start, ← String.utf8ByteSize_ofList]
  refine ⟨?_, ?_, ?_⟩
  · rw [String.Pos.Raw.isValid_iff_exists_append]
    refine ⟨String.ofList (spelled before ++ [':']),
      String.ofList (name.toList ++ spelled after), ?_, ?_⟩
    · rw [whole, List.append_assoc, String.ofList_append]
    · rw [start, ← String.utf8ByteSize_ofList]
      rfl
  · rw [String.Pos.Raw.isValid_iff_exists_append]
    refine ⟨String.ofList (spelled before ++ [':'] ++ name.toList),
      String.ofList (spelled after), ?_, ?_⟩
    · rw [whole, String.ofList_append]
    · rw [stop, ← String.utf8Len_append, ← String.utf8ByteSize_ofList]
      rfl
  · rw [whole, start, stop, String.extract_of_valid, String.ofList_toList]

inductive Found
  | copied (c : Char)
  | cut (start stop : String.Pos.Raw)

namespace Found

def filled (template : String) (record : Option Record) : Found → List Char
  | copied c => [c]
  | cut start stop => fieldChars record (String.Pos.Raw.extract template start stop).toList

def ofPiece (before : List Piece) : Piece → Found
  | .copied c => copied c
  | .placeholder name => cut (nameStart before) (nameEnd before name)

end Found

/-- Filling as one scan over the characters of a template with their offsets in bytes. -/
def scan (offset : Nat) (template : List Char) : List Found :=
  match template with
  | [] => []
  | c :: rest =>
      if c ≠ ':' then .copied c :: scan (offset + c.utf8Size) rest
      else
        let stop := offset + 1 + String.utf8Len (rest.takeWhile isNameChar)
        if stop = offset + 1 then .copied ':' :: scan stop rest
        else .cut ⟨offset + 1⟩ ⟨stop⟩ :: scan stop (rest.dropWhile isNameChar)
termination_by template.length
decreasing_by
  all_goals simp_wf
  have := (List.dropWhile_sublist isNameChar (l := rest)).length_le
  omega

theorem scan_append {p : Piece} {r : List Char} (before : List Piece) (fits : p.FitsBefore r) :
    scan (String.utf8Len (spelled before)) (p.chars ++ r) =
      .ofPiece before p :: scan (String.utf8Len (spelled (before ++ [p]))) r := by
  have colon_size : ':'.utf8Size = 1 := rfl
  cases p with
  | copied c =>
      by_cases colon : c = ':'
      · have bare : r.takeWhile isNameChar = [] := (fits colon).takeWhile_eq
        simp [Piece.chars, Found.ofPiece, scan, colon, bare, String.utf8Len_append, colon_size]
      · simp [Piece.chars, Found.ofPiece, scan, colon, String.utf8Len_append]
  | placeholder name =>
      obtain ⟨some, named, ends⟩ := fits
      have nonempty : name.utf8ByteSize ≠ 0 := by simpa using some
      have length : String.utf8Len name.toList = name.utf8ByteSize := by
        rw [← String.utf8ByteSize_ofList, String.ofList_toList]
      rw [Piece.chars, List.cons_append, scan, takeWhile_name named ends, dropWhile_name named ends]
      simp [length, nonempty, Found.ofPiece, nameStart, nameEnd, Piece.chars, String.utf8Len_append,
        String.utf8ByteSize_ofList, colon_size, Nat.add_assoc, Nat.add_comm 1]

theorem mem_scan_iff {pieces : List Piece} {start stop : String.Pos.Raw} (before : List Piece)
    (maximal : Maximal pieces) :
    .cut start stop ∈ scan (String.utf8Len (spelled before)) (spelled pieces) ↔
      ∃ inner name after, pieces = inner ++ .placeholder name :: after ∧
        start = nameStart (before ++ inner) ∧ stop = nameEnd (before ++ inner) name := by
  -- What was scanned counts by its length alone, so the pieces behind `p` are met with `p` before.
  induction pieces generalizing before with
  | nil => simp [scan]
  | cons p rest ih =>
      rw [spelled_cons, scan_append before maximal.1, List.mem_cons, ih _ maximal.2]
      constructor
      · rintro (here | ⟨inner, name, after, rfl, places⟩)
        · cases p with
          | copied c => cases here
          | placeholder name =>
              cases here
              exact ⟨[], name, rest, rfl, by simp, by simp⟩
        · exact ⟨p :: inner, name, after, rfl, by simpa using places⟩
      · rintro ⟨inner, name, after, split, rfl, rfl⟩
        rcases List.cons_eq_append_iff.mp split with ⟨rfl, here⟩ | ⟨inner, rfl, later⟩
        · cases here
          exact .inl (by simp [Found.ofPiece])
        · exact .inr ⟨inner, name, after, later, by simp, by simp⟩

theorem filled_scan {template : String} {pieces : List Piece} (record : Option Record)
    (before : List Piece) (parts : Decomposes template (before ++ pieces))
    (maximal : Maximal pieces) :
    (scan (String.utf8Len (spelled before)) (spelled pieces)).flatMap
      (Found.filled template record) = filled record pieces := by
  induction pieces generalizing before with
  | nil => simp [scan]
  | cons p rest ih =>
      have here : (Found.ofPiece before p).filled template record = p.filled record := by
        cases p with
        | copied c => rfl
        | placeholder name =>
            rw [Found.ofPiece, Found.filled, parts.slice.2.2, Piece.fieldChars_eq]
      rw [spelled_cons, scan_append before maximal.1, List.flatMap_cons, here,
        ih _ (by simpa using parts) maximal.2, filled_cons]

/-- A template is in one way a row of placeholders that are as long as they can be and of other
characters. Filling it copies the other characters and puts the text of the field for each
placeholder, whatever that text contains. So does one scan, which cuts out the names of just the
placeholders, between characters; and only the fields they name count. A template may be filled in
two parts, unless the first ends in a colon with a name, or none, that the second goes on with. -/
theorem fill_substitutes_each_placeholder_once (template : String) :
    (∃! pieces, Decomposes template pieces) ∧
    (∀ record, fill template record =
      String.ofList ((scan 0 template.toList).flatMap (Found.filled template record))) ∧
    (∀ pieces, Decomposes template pieces →
      (∀ record, fill template record = String.ofList (filled record pieces)) ∧
      (∀ start stop, .cut start stop ∈ scan 0 template.toList ↔
        ∃ before name after, pieces = before ++ .placeholder name :: after ∧
          start = nameStart before ∧ stop = nameEnd before name) ∧
      (∀ before name after, pieces = before ++ .placeholder name :: after →
        ((nameStart before).IsValid template ∧ (nameEnd before name).IsValid template ∧
          String.Pos.Raw.extract template (nameStart before) (nameEnd before name) = name) ∧
        ∀ (fields : Record) (value : Json), fields.lookup name = some value →
          fill template (some fields) = String.ofList (filled (some fields) before) ++
            value.display ++ String.ofList (filled (some fields) after)) ∧
      (∀ a b : Option Record, (∀ name, .placeholder name ∈ pieces →
          a.bind (List.lookup name) = b.bind (List.lookup name)) →
        fill template a = fill template b)) ∧
    (∀ more : String, (EndsOpen template.toList → EndsName more.toList) →
      ∀ record, fill (template ++ more) record = fill template record ++ fill more record) := by
  obtain ⟨pieces, parts⟩ := exists_decomposition template
  refine ⟨⟨pieces, parts, fun others parts' => parts'.unique parts⟩, fun record => ?_,
    fun pieces parts => ?_, fun more seam record => ?_⟩
  · rw [parts.fill_eq, ← parts.spelled_eq]
    exact congrArg String.ofList (filled_scan record [] parts parts.maximal).symm
  · refine ⟨parts.fill_eq, fun start stop => ?_, ?_, fun a b agree => parts.fill_congr agree⟩
    · rw [← parts.spelled_eq]
      exact mem_scan_iff [] parts.maximal
    rintro before name after rfl
    refine ⟨parts.slice, fun fields value found => ?_⟩
    have shown : (Piece.placeholder name).filled (some fields) = value.displayChars := by
      simp [← Piece.fieldChars_eq, fieldChars, found]
    rw [parts.fill_eq, filled_append, filled_cons, shown]
    simp [Json.display, String.append_assoc]
  · obtain ⟨others, further⟩ := exists_decomposition more
    have joined := parts.append further seam
    rw [joined.fill_eq, parts.fill_eq, further.fill_eq, filled_append, String.ofList_append]

theorem field_text_is_not_filled :
    fill ":id/" (some [("id", .string ":id")]) = ":id/" := by
  have parts : Decomposes ":id/" ([] ++ .placeholder "id" :: [.copied '/']) :=
    ⟨⟨⟨by decide, by simp [isNameChar], by simp [EndsName, isNameChar]⟩, nofun, trivial⟩, rfl⟩
  obtain ⟨-, -, fills, -⟩ := fill_substitutes_each_placeholder_once ":id/"
  obtain ⟨-, -, substituted, -⟩ := fills _ parts
  exact (substituted [] "id" [.copied '/'] rfl).2 _ (.string ":id") rfl

end DeclaredScreens.Template
