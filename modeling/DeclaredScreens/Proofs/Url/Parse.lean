import DeclaredScreens.Proofs.Except
import DeclaredScreens.Proofs.Url.Path

/-! How an address of the web is read from its text: what follows its scheme and slashes is cut
from the front part by part, so a text that ends in a slash leaves a path that does, unless a
query or a fragment comes before the slash. -/

namespace DeclaredScreens

namespace Url

open UrlPath (IsFolderText isIgnoredInside isSlash endsInSlash)

section Suffix

variable {special : Bool} {scheme rest cs : List Char}

theorem suffix_of_next? {c : Char} (next : next? cs = some (c, rest)) : rest <:+ cs := by
  unfold next? at next
  split at next
  · cases next
  · next found =>
      cases next
      have stopped : c :: rest <:+ cs := found ▸ List.dropWhile_suffix _
      exact (List.suffix_cons c rest).trans stopped

theorem suffix_of_schemeFrom (named : schemeFrom cs = some (scheme, rest)) : rest <:+ cs := by
  induction cs generalizing scheme with
  | nil => cases named
  | cons c cs ih =>
      unfold schemeFrom at named
      split at named
      · exact (ih named).trans (List.suffix_cons c cs)
      · split at named
        · cases named
          exact List.suffix_cons c rest
        · split at named
          · simp only [Option.map_eq_some_iff, Prod.mk.injEq] at named
            obtain ⟨⟨own, after⟩, found, -, rfl⟩ := named
            exact (ih found).trans (List.suffix_cons c cs)
          · cases named

theorem suffix_of_scheme? (named : scheme? cs = some (scheme, rest)) : rest <:+ cs := by
  unfold scheme? at named
  split at named
  · split at named
    · exact suffix_of_schemeFrom named
    · cases named
  · cases named

theorem cutUserinfo_suffix (special : Bool) (cs : List Char) :
    (cutUserinfo special cs).2 <:+ cs := by
  simp only [cutUserinfo]
  split
  · exact List.drop_suffix _ cs
  · exact List.suffix_refl cs

theorem cutHost_suffix (special inside : Bool) (cs : List Char) :
    (cutHost special inside cs).2 <:+ cs := by
  induction cs generalizing inside with
  | nil => exact List.suffix_refl []
  | cons c cs ih =>
      unfold cutHost
      split
      · exact List.suffix_refl _
      · exact (ih _).trans (List.suffix_cons c cs)

theorem suffix_of_cutPort {port : Option Nat} (cut : cutPort scheme cs = .ok (port, rest)) :
    rest <:+ cs := by
  unfold cutPort at cut
  split at cut
  · next text =>
      obtain ⟨port, -, cut⟩ := ok_of_bind (ok_of_guard cut)
      cases cut
      exact (List.dropWhile_suffix _).trans (List.suffix_cons ':' text)
  · cases cut
    exact List.suffix_refl _

theorem cutAt_absent {stop : Char} (absent : (cutAt stop cs).2 = none) :
    (cutAt stop cs).1 = cs := by
  induction cs with
  | nil => rfl
  | cons c cs ih =>
      unfold cutAt at absent ⊢
      split
      · next same => simp [same] at absent
      · next other =>
          rw [if_neg other] at absent
          exact congrArg (c :: ·) (ih absent)

end Suffix

theorem tail_path {special : Bool} {cs : List Char} (query : (tail special cs).query = none)
    (fragment : (tail special cs).fragment = none) : (tail special cs).path = cs := by
  simp only [tail, Option.map_eq_none_iff] at query fragment ⊢
  rw [cutAt_absent query, cutAt_absent fragment]

theorem isFolderText_trimmed {cs : List Char} (folder : IsFolderText cs) :
    IsFolderText (trimmed cs) := by
  have dropped := folder.suffix (List.dropWhile_suffix isIgnoredAround)
  unfold trimmed
  rcases List.eq_nil_or_concat (cs.dropWhile isIgnoredAround) with empty | ⟨front, c, text⟩
  · simp [empty, IsFolderText]
  · rw [text] at dropped ⊢
    have slash : c = '/' := by simpa [IsFolderText] using dropped
    have counts : isIgnoredAround '/' = false := by decide
    simp [slash, counts, IsFolderText]

theorem endsInSlash_absolutePath {scheme text : List Char} (special : isSpecial scheme = true)
    (notFile : isFile scheme = false) (folder : IsFolderText text) :
    endsInSlash (absolutePath scheme text).1.chars = true := by
  have root : endsInSlash ['/'] = true := rfl
  simp only [absolutePath, special, notFile, Bool.not_true, Bool.and_false, Bool.false_eq_true,
    if_false]
  split
  · next c rest next =>
      split
      · exact UrlPath.endsInSlash_below true root (folder.suffix (suffix_of_next? next))
      · exact UrlPath.endsInSlash_below true root folder
  · exact UrlPath.endsInSlash_below true root (.inl rfl)

theorem withAuthority_ok {scheme cs : List Char} {url : Url}
    (read : withAuthority scheme cs = .ok url) :
    url.scheme = scheme ∧ ∃ rest, rest <:+ cs ∧
      url.path = (absolutePath scheme (tail (isSpecial scheme) rest).path).1 ∧
      url.query = (tail (isSpecial scheme) rest).query ∧
      url.fragment = (tail (isSpecial scheme) rest).fragment ∧ url.host.isSome = true := by
  unfold withAuthority at read
  have rest_suffix {port : Option Nat} {rest : List Char}
      (cut : cutPort scheme
        (cutHost (isSpecial scheme) false (cutUserinfo (isSpecial scheme) cs).2).2 =
          .ok (port, rest)) : rest <:+ cs :=
    (suffix_of_cutPort cut).trans ((cutHost_suffix _ _ _).trans (cutUserinfo_suffix _ cs))
  dsimp only at read
  have read := ok_of_guard (ok_of_guard read)
  split at read
  all_goals
    obtain ⟨host, -, read⟩ := ok_of_bind read
    obtain ⟨⟨port, rest⟩, cut, read⟩ := ok_of_bind read
    have read := ok_of_guard read
    cases read
    exact ⟨rfl, rest, rest_suffix cut, rfl, rfl, rfl, rfl⟩

theorem fileAtHost_scheme {cs : List Char} {url : Url} (read : fileAtHost cs = .ok url) :
    url.scheme = "file".toList := by
  unfold fileAtHost at read
  dsimp only at read
  split at read
  · cases read
    rfl
  · obtain ⟨host, -, read⟩ := ok_of_bind read
    cases host <;> (cases read; rfl)

theorem file_scheme {cs : List Char} {url : Url} (read : file none cs = .ok url) :
    url.scheme = "file".toList := by
  unfold file at read
  split at read
  · split at read
    · split at read
      · split at read
        · exact fileAtHost_scheme read
        · cases read
          rfl
      · cases read
        rfl
    · cases read
      rfl
  · cases read
    rfl

theorem parse_web {text : List Char} {url : Url} (read : parse text = .ok url)
    (special : isSpecial url.scheme = true) (notFile : isFile url.scheme = false) :
    ∃ rest, rest <:+ trimmed text ∧ withAuthority url.scheme rest = .ok url := by
  simp only [parse, parseFrom] at read
  split at read
  · next own rest named =>
      unfold withScheme at read
      split at read
      · have own : url.scheme = "file".toList := file_scheme read
        simp [isFile, own] at notFile
      · split at read
        · have inner : (cutSlashes rest).2 <:+ rest := List.dropWhile_suffix _
          have read : withAuthority own (cutSlashes rest).2 = .ok url := read
          have same : url.scheme = own := (withAuthority_ok read).1
          exact ⟨_, inner.trans (suffix_of_scheme? named), same ▸ read⟩
        · next other =>
            have same : url.scheme = own := by
              split at read
              · exact (withAuthority_ok read).1
              · cases read
                rfl
            exact absurd (same ▸ special) other
  · cases read

theorem endsInSlash_of_parse {text : List Char} {url : Url} (read : parse text = .ok url)
    (special : isSpecial url.scheme = true) (notFile : isFile url.scheme = false)
    (folder : IsFolderText text) (query : url.query = none) (fragment : url.fragment = none) :
    endsInSlash url.path.chars = true := by
  obtain ⟨rest, suffix, read⟩ := parse_web read special notFile
  obtain ⟨-, rest, inner, path, query', fragment', -⟩ := withAuthority_ok read
  rw [special] at path query' fragment'
  rw [tail_path (query' ▸ query) (fragment' ▸ fragment)] at path
  rw [path]
  exact endsInSlash_absolutePath special notFile
    ((isFolderText_trimmed folder).suffix (inner.trans suffix))

end Url

end DeclaredScreens
