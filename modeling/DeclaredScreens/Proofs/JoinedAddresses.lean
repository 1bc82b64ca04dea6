import DeclaredScreens.Template
import Mathlib.Data.String.Basic

/-! Joined addresses. The slashes at the end of a base and at the start of a path come down to the
one slash between them. A middle part is trimmed on both sides, and one of slashes alone vanishes
into the seam, so a row of parts may be joined from either end. -/

namespace DeclaredScreens.Template

def slashes (n : Nat) : List Char := List.replicate n '/'

section Trim

variable {cs : List Char} (n : Nat)

theorem dropLeadingSlashes_append : dropLeadingSlashes (slashes n ++ cs) = dropLeadingSlashes cs :=
  List.dropWhile_append_of_pos fun c mem => by simp [List.eq_of_mem_replicate mem]

theorem dropLeadingSlashes_eq_self (bare : cs.head? ≠ some '/') : dropLeadingSlashes cs = cs := by
  cases cs with
  | nil => rfl
  | cons c rest =>
      have other : c ≠ '/' := by simpa using bare
      exact List.dropWhile_cons_of_neg (by simpa using other)

theorem dropTrailingSlashes_eq (cs : List Char) :
    dropTrailingSlashes cs = (dropLeadingSlashes cs.reverse).reverse := rfl

theorem dropTrailingSlashes_append :
    dropTrailingSlashes (cs ++ slashes n) = dropTrailingSlashes cs := by
  have backwards : (slashes n).reverse = slashes n := List.reverse_replicate
  rw [dropTrailingSlashes_eq, List.reverse_append, backwards, dropLeadingSlashes_append,
    dropTrailingSlashes_eq]

theorem dropTrailingSlashes_eq_self (bare : cs.getLast? ≠ some '/') :
    dropTrailingSlashes cs = cs := by
  rw [List.getLast?_eq_head?_reverse] at bare
  rw [dropTrailingSlashes_eq, dropLeadingSlashes_eq_self bare, List.reverse_reverse]

theorem exists_leading (cs : List Char) :
    ∃ n rest, cs = slashes n ++ rest ∧ rest.head? ≠ some '/' := by
  induction cs with
  | nil => exact ⟨0, [], rfl, nofun⟩
  | cons c cs ih =>
      by_cases slash : c = '/'
      · obtain ⟨n, rest, rfl, bare⟩ := ih
        exact ⟨n + 1, rest, by rw [slash]; rfl, bare⟩
      · exact ⟨0, c :: cs, rfl, by simpa using slash⟩

theorem exists_trailing (cs : List Char) :
    ∃ front n, cs = front ++ slashes n ∧ front.getLast? ≠ some '/' := by
  obtain ⟨n, rest, backwards, bare⟩ := exists_leading cs.reverse
  refine ⟨rest.reverse, n, ?_, by simpa using bare⟩
  rw [← List.reverse_reverse cs, backwards, List.reverse_append]
  congr 1
  exact List.reverse_replicate

end Trim

theorem joinChars_seam {front back : List Char} (m n : Nat) (bare : front.getLast? ≠ some '/')
    (bare' : back.head? ≠ some '/') (base : front ++ slashes m ≠ []) (path : slashes n ++ back ≠ []) :
    joinChars (front ++ slashes m) (slashes n ++ back) = front ++ '/' :: back := by
  rw [joinChars, if_neg (by rwa [List.isEmpty_iff]), if_neg (by rwa [List.isEmpty_iff]),
    dropTrailingSlashes_append, dropTrailingSlashes_eq_self bare, dropLeadingSlashes_append,
    dropLeadingSlashes_eq_self bare']

theorem joinChars_nil_left (path : List Char) : joinChars [] path = path := by
  cases path <;> rfl

theorem joinChars_nil_right (base : List Char) : joinChars base [] = base := rfl

section Middle

variable {front back : List Char} (m k l n : Nat) (endsBare : front.getLast? ≠ some '/')
  (startsBare : back.head? ≠ some '/') (base : front ++ slashes m ≠ [])
  (path : slashes n ++ back ≠ [])

include endsBare startsBare base path

theorem joinChars_slashes_between (middle : slashes k ≠ []) :
    joinChars (joinChars (front ++ slashes m) (slashes k)) (slashes n ++ back) =
      joinChars (front ++ slashes m) (joinChars (slashes k) (slashes n ++ back)) := by
  have first : joinChars (front ++ slashes m) (slashes k) = front ++ slashes 1 := by
    rw [← List.append_nil (slashes k)] at middle ⊢
    exact joinChars_seam m k endsBare nofun base middle
  have second : joinChars (slashes k) (slashes n ++ back) = slashes 1 ++ back :=
    @joinChars_seam [] back k n nofun startsBare middle path
  rw [first, second, joinChars_seam 1 n endsBare startsBare (by simp [slashes]) path,
    joinChars_seam m 1 endsBare startsBare base (by simp [slashes])]

theorem joinChars_core_between {core : List Char} (more : core ≠ [])
    (coreStarts : core.head? ≠ some '/') (coreEnds : core.getLast? ≠ some '/') :
    joinChars (joinChars (front ++ slashes m) (slashes k ++ (core ++ slashes l)))
        (slashes n ++ back) =
      joinChars (front ++ slashes m)
        (joinChars (slashes k ++ (core ++ slashes l)) (slashes n ++ back)) := by
  obtain ⟨c, rest, rfl⟩ := List.exists_cons_of_ne_nil more
  have first : joinChars (front ++ slashes m) (slashes k ++ (c :: rest ++ slashes l)) =
      (front ++ '/' :: c :: rest) ++ slashes l := by
    rw [joinChars_seam m k endsBare (by simpa using coreStarts) base (by simp)]
    simp
  have second : joinChars (slashes k ++ (c :: rest ++ slashes l)) (slashes n ++ back) =
      slashes k ++ (c :: rest ++ '/' :: back) := by
    rw [← List.append_assoc, joinChars_seam l n (by simpa using coreEnds) startsBare (by simp) path]
    simp
  rw [first, second, joinChars_seam l n (by simpa using coreEnds) startsBare (by simp) path,
    joinChars_seam m k endsBare (by simpa using coreStarts) base (by simp)]
  simp

end Middle

theorem joinChars_assoc (as bs cs : List Char) :
    joinChars (joinChars as bs) cs = joinChars as (joinChars bs cs) := by
  by_cases base : as = []
  · rw [base, joinChars_nil_left, joinChars_nil_left]
  by_cases middle : bs = []
  · rw [middle, joinChars_nil_left, joinChars_nil_right]
  by_cases path : cs = []
  · rw [path, joinChars_nil_right, joinChars_nil_right]
  obtain ⟨front, m, rfl, endsBare⟩ := exists_trailing as
  obtain ⟨n, back, rfl, startsBare⟩ := exists_leading cs
  obtain ⟨k, trimmed, rfl, trimmedStarts⟩ := exists_leading bs
  by_cases bare : trimmed = []
  · rw [bare, List.append_nil] at middle ⊢
    exact joinChars_slashes_between m k n endsBare startsBare base path middle
  · obtain ⟨core, l, rfl, coreEnds⟩ := exists_trailing trimmed
    have more : core ≠ [] := by
      rintro rfl
      cases l with
      | zero => exact bare rfl
      | succ l => exact trimmedStarts rfl
    have coreStarts : core.head? ≠ some '/' := by
      rwa [List.head?_append_of_ne_nil _ more] at trimmedStarts
    exact joinChars_core_between m k l n endsBare startsBare base path more coreStarts coreEnds

/-- Joining is associative with the empty text on either side of it, and between two parts that are
not empty it puts one slash in place of all that meet there. -/
theorem join_is_slash_collapsing_monoid :
    (∀ a b c : String, join (join a b) c = join a (join b c)) ∧
    (∀ a : String, join "" a = a ∧ join a "" = a) ∧
    ∀ a b : String, a ≠ "" → b ≠ "" →
      ∃ front back : String, ∃ m n : Nat,
        a = front ++ String.ofList (slashes m) ∧ b = String.ofList (slashes n) ++ back ∧
        (∀ rest, front ≠ rest ++ "/") ∧ (∀ rest, back ≠ "/" ++ rest) ∧
        join a b = front ++ "/" ++ back := by
  refine ⟨fun a b c => ?_, fun a => ⟨?_, ?_⟩, fun a b base path => ?_⟩
  · simp only [join, String.toList_ofList, joinChars_assoc]
  · rw [join, String.toList_empty, joinChars_nil_left, String.ofList_toList]
  · rw [join, String.toList_empty, joinChars_nil_right, String.ofList_toList]
  · obtain ⟨front, m, parts, bare⟩ := exists_trailing a.toList
    obtain ⟨n, back, parts', bare'⟩ := exists_leading b.toList
    have nonempty {s : String} (present : s ≠ "") : s.toList ≠ [] :=
      fun empty => present (String.toList_eq_nil_iff.mp empty)
    refine ⟨String.ofList front, String.ofList back, m, n, ?_, ?_, ?_, ?_, ?_⟩
    · rw [← String.ofList_append, ← parts, String.ofList_toList]
    · rw [← String.ofList_append, ← parts', String.ofList_toList]
    · intro rest same
      have last := congrArg (fun s => s.toList.getLast?) same
      exact bare (by simpa using last)
    · intro rest same
      have first := congrArg (fun s => s.toList.head?) same
      exact bare' (by simpa using first)
    · rw [join, parts, parts', joinChars_seam m n bare bare' (parts ▸ nonempty base)
        (parts' ▸ nonempty path)]
      simp [← String.toList_inj]

theorem api_meets_contacts_in_one_slash :
    ∃ front back : String, ∃ m n : Nat,
      "/api//" = front ++ String.ofList (slashes m) ∧
      "//contacts" = String.ofList (slashes n) ++ back ∧
      (∀ rest, front ≠ rest ++ "/") ∧ (∀ rest, back ≠ "/" ++ rest) ∧
      join "/api//" "//contacts" = front ++ "/" ++ back :=
  join_is_slash_collapsing_monoid.2.2 "/api//" "//contacts" (by decide) (by decide)

end DeclaredScreens.Template
