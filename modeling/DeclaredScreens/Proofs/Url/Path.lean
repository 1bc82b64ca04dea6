import DeclaredScreens.Url.Parse
import Mathlib.Data.List.DropRight

/-! What is read below a folder stays there as long as its double dots do not outnumber the
segments before them. Addresses of files are left out: a drive in them moves the path that is
read below. -/

namespace DeclaredScreens.UrlPath

theorem flatten_splitOnP {α : Type} (p : α → Bool) (xs : List α) :
    (xs.splitOnP p).flatten = xs.filter (fun x => !p x) := by
  induction xs with
  | nil => rfl
  | cons x rest ih =>
      have flatten_modifyHead (parts : List (List α)) (nonempty : parts ≠ []) :
          (parts.modifyHead (List.cons x)).flatten = x :: parts.flatten := by
        cases parts with
        | nil => exact absurd rfl nonempty
        | cons head parts => rfl
      rw [List.splitOnP_cons_eq_if_modifyHead]
      by_cases stop : p x = true
      · simp [stop, ih]
      · simp [stop, flatten_modifyHead _ (List.splitOnP_ne_nil p rest), ih]

section Folder

variable {path place inner : List Char}

theorem folder_isPrefix (path : List Char) : folder path <+: path :=
  List.rdropWhile_prefix _ path

theorem folder_concat (path : List Char) (c : Char) :
    folder (path ++ [c]) = if c = '/' then path ++ [c] else folder path := by
  refine (List.rdropWhile_concat _ path c).trans ?_
  by_cases slash : c = '/' <;> simp [slash, folder, List.rdropWhile]

theorem endsInSlash_concat (path : List Char) (c : Char) :
    endsInSlash (path ++ [c]) = decide (c = '/') := by
  simp [endsInSlash]

theorem folder_eq_self (ends : endsInSlash path = true) : folder path = path := by
  rcases List.eq_nil_or_concat path with rfl | ⟨front, c, rfl⟩
  · rfl
  · rw [List.concat_eq_append, endsInSlash_concat, decide_eq_true_eq] at ends
    rw [List.concat_eq_append, folder_concat, if_pos ends]

theorem endsInSlash_folder (nonempty : folder path ≠ []) : endsInSlash (folder path) = true := by
  induction path using List.reverseRecOn with
  | nil => exact absurd rfl nonempty
  | append_singleton front c ih =>
      rw [folder_concat] at nonempty ⊢
      split at nonempty
      · next slash => rw [if_pos slash, endsInSlash_concat, slash]; rfl
      · next other => rw [if_neg other]; exact ih nonempty

theorem count_folder (path : List Char) : (folder path).count '/' = path.count '/' := by
  induction path using List.reverseRecOn with
  | nil => rfl
  | append_singleton front c ih =>
      rw [folder_concat]
      split
      · rfl
      · next other => simp [ih, other]

theorem folder_append (ends : endsInSlash place = true) (inner : List Char) :
    folder (place ++ inner) = place ++ folder inner := by
  induction inner using List.reverseRecOn with
  | nil => simpa [folder] using folder_eq_self ends
  | append_singleton front c ih =>
      rw [← List.append_assoc, folder_concat, folder_concat]
      split
      · simp
      · exact ih

end Folder

/-- A path that is a folder at least so many levels below a place. -/
def IsBelow (place : List Char) (depth : Nat) (path : List Char) : Prop :=
  endsInSlash path = true ∧ ∃ inner, path = place ++ inner ∧ depth ≤ inner.count '/'

section Below

variable {place path : List Char} {depth : Nat}

theorem IsBelow.refl (ends : endsInSlash place = true) : IsBelow place 0 place :=
  ⟨ends, [], by simp, Nat.zero_le _⟩

theorem IsBelow.place_isPrefix (below : IsBelow place depth path) : place <+: path := by
  obtain ⟨-, inner, rfl, -⟩ := below
  exact List.prefix_append place inner

theorem IsBelow.withSlash (below : IsBelow place depth path) :
    IsBelow place depth (withSlash path) := by
  rw [UrlPath.withSlash, if_pos below.1]
  exact below

theorem IsBelow.down (below : IsBelow place depth path) (segment : List Char) :
    IsBelow place (depth + 1) (path ++ segment ++ ['/']) := by
  obtain ⟨-, inner, rfl, deep⟩ := below
  refine ⟨endsInSlash_concat _ _, inner ++ segment ++ ['/'], by simp, ?_⟩
  simp only [List.count_append, List.count_singleton_self]
  omega

theorem IsBelow.up (ends : endsInSlash place = true) (below : IsBelow place (depth + 1) path) :
    IsBelow place depth (climbed false path) := by
  obtain ⟨slash, inner, rfl, deep⟩ := below
  have notEmpty : inner ≠ [] := by
    rintro rfl
    simp at deep
  obtain ⟨front, rfl⟩ : ∃ front, inner = front ++ ['/'] := by
    rcases List.eq_nil_or_concat inner with rfl | ⟨front, c, rfl⟩
    · exact absurd rfl notEmpty
    · rw [List.concat_eq_append, ← List.append_assoc, endsInSlash_concat,
        decide_eq_true_eq] at slash
      exact ⟨front, by simp [slash]⟩
  simp only [List.count_append, List.count_singleton_self] at deep
  have inside : (place ++ (front ++ ['/'])).dropLast = place ++ front := by
    rw [← List.append_assoc, List.dropLast_concat]
  simp only [climbed, popped, inside, Bool.false_and, Bool.false_eq_true, if_false]
  split
  · rw [folder_append ends]
    refine ⟨?_, folder front, rfl, by rw [count_folder]; omega⟩
    -- Without a slash in front the place itself is left.
    by_cases empty : folder front = []
    · rw [empty, List.append_nil]
      exact ends
    · have last := endsInSlash_folder empty
      simp only [endsInSlash, decide_eq_true_eq] at last ⊢
      rw [List.getLast?_append, last]
      rfl
  · -- Out of a drive no path goes up.
    rw [folder_eq_self slash]
    refine ⟨slash, front ++ ['/'], rfl, ?_⟩
    simp only [List.count_append, List.count_singleton_self]
    omega

end Below

def written (segment : List Char) : List Char := Percent.encode Percent.path (Url.visible segment)

/-- Do the double dots of written segments never outnumber what comes before them, from so many
levels down on? -/
def staysBelow : Nat → List (List Char) → Bool
  | _, [] => true
  | depth, segment :: rest =>
      if isDoubleDot segment then
        match depth with
        | 0 => false
        | depth + 1 => staysBelow depth rest
      else staysBelow (if isSingleDot segment then depth else depth + 1) rest

namespace Walk

theorem foldl_extend (parts : List (List Char)) (w : Walk) :
    parts.foldl (extend false) w =
      { w with segment := w.segment ++ Percent.encode Percent.path parts.flatten } := by
  induction parts generalizing w with
  | nil => simp [Percent.encode]
  | cons part rest ih =>
      have extended : extend false w part =
          { w with segment := w.segment ++ Percent.encode Percent.path part } := by
        cases part with
        | nil => simp [extend, Percent.encode]
        | cons c part => simp [extend]
      rw [List.foldl_cons, extended, ih]
      simp [Percent.encode]

variable {w : Walk} (segment : List Char)

theorem segment_read (file last : Bool) : (w.read file last segment).segment = [] := by
  simp only [read, close]
  split
  · rfl
  · split
    · rfl
    · split <;> rfl

variable (fresh : w.segment = [])

include fresh

theorem read_eq (last : Bool) :
    w.read false last segment = { w with segment := written segment }.close false last := by
  rw [read, foldl_extend, flatten_splitOnP, fresh]
  rfl

theorem endsInSlash_read : endsInSlash (w.read false false segment).before = true := by
  have withSlash_ends (path : List Char) : endsInSlash (withSlash path) = true := by
    rw [withSlash]
    split
    · assumption
    · exact endsInSlash_concat path '/'
  simp only [read_eq segment fresh, close, Bool.false_eq_true, if_false, Bool.false_and]
  split
  · exact withSlash_ends _
  · split
    · exact withSlash_ends _
    · exact endsInSlash_concat _ '/'

theorem endsInSlash_readAll (ends : endsInSlash w.before = true) (segments : List (List Char)) :
    endsInSlash (w.readAll false (segments ++ [[]])).before = true := by
  induction segments generalizing w with
  | nil =>
      simp only [List.nil_append, readAll, read_eq [] fresh, close]
      simpa [written, Percent.encode, Url.visible, isDoubleDot, isSingleDot] using ends
  | cons segment rest ih =>
      have more : rest ++ [[]] ≠ [] := by simp
      obtain ⟨next, others, split⟩ := List.exists_cons_of_ne_nil more
      rw [List.cons_append, split, readAll, ← split]
      · exact ih (segment_read segment _ _) (endsInSlash_read segment fresh)
      · nofun

variable {place : List Char} {depth : Nat} (ends : endsInSlash place = true)
  (below : IsBelow place depth w.before)

include ends below

theorem read_below {rest : List (List Char)}
    (stays : staysBelow depth (written segment :: rest) = true) :
    ∃ depth, IsBelow place depth (w.read false false segment).before ∧
      staysBelow depth rest = true := by
  simp only [staysBelow] at stays
  simp only [read_eq segment fresh, close, Bool.false_eq_true, if_false, Bool.false_and]
  split at stays
  · next double =>
      rw [if_pos double]
      cases depth with
      | zero => cases stays
      | succ depth => exact ⟨depth, (below.up ends).withSlash, stays⟩
  · next single =>
      rw [if_neg single]
      split
      · next dot => exact ⟨depth, below.withSlash, by rwa [if_pos dot] at stays⟩
      · next other => exact ⟨depth + 1, below.down _, by rwa [if_neg other] at stays⟩

theorem read_last_isPrefix (stays : staysBelow depth [written segment] = true) :
    place <+: (w.read false true segment).before := by
  simp only [staysBelow] at stays
  simp only [read_eq segment fresh, close, if_true, Bool.false_and, Bool.false_eq_true, if_false]
  split at stays
  · next double =>
      rw [if_pos double]
      cases depth with
      | zero => cases stays
      | succ depth => exact (below.up ends).place_isPrefix
  · next single =>
      rw [if_neg single]
      split
      · exact below.withSlash.place_isPrefix
      · rw [List.append_assoc]
        exact below.place_isPrefix.trans (List.prefix_append _ _)

theorem readAll_isPrefix {segments : List (List Char)}
    (stays : staysBelow depth (segments.map written) = true) :
    place <+: (w.readAll false segments).before := by
  induction segments generalizing w depth with
  | nil => exact below.place_isPrefix
  | cons segment rest ih =>
      cases rest with
      | nil => exact read_last_isPrefix segment fresh ends below stays
      | cons next others =>
          obtain ⟨depth, below, stays⟩ := read_below segment fresh ends below stays
          exact ih (segment_read segment _ _) below stays

end Walk

def staysInFolder (special : Bool) (text : List Char) : Bool :=
  staysBelow 0 ((text.splitOnP (isSlash special)).map written)

theorem below_isPrefix (special : Bool) {place text : List Char} (ends : endsInSlash place = true)
    (stays : staysInFolder special text = true) :
    place <+: (below special false place text).chars :=
  Walk.readAll_isPrefix rfl ends (.refl ends) stays

/-- A text that names a folder: the folder it is read in, or one below. -/
def IsFolderText (text : List Char) : Prop := text = [] ∨ text.getLast? = some '/'

theorem IsFolderText.suffix {text rest : List Char} (folder : IsFolderText text)
    (suffix : rest <:+ text) : IsFolderText rest := by
  obtain ⟨front, rfl⟩ := suffix
  cases rest with
  | nil => exact .inl rfl
  | cons c rest => simpa [IsFolderText, List.getLast?_append] using folder

theorem endsInSlash_below (special : Bool) {place text : List Char}
    (ends : endsInSlash place = true) (folder : IsFolderText text) :
    endsInSlash (below special false place text).chars = true := by
  rcases List.eq_nil_or_concat text with rfl | ⟨front, c, rfl⟩
  · exact Walk.endsInSlash_readAll rfl ends []
  · have slash : c = '/' := by simpa [IsFolderText] using folder
    have parts : (front ++ ['/']).splitOnP (isSlash special) =
        front.splitOnP (isSlash special) ++ [[]] :=
      List.splitOnP_append_cons front [] (by simp [isSlash])
    rw [List.concat_eq_append, slash, below, walk, parts]
    exact Walk.endsInSlash_readAll rfl ends _

end DeclaredScreens.UrlPath
