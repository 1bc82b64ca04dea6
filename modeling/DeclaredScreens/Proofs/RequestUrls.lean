import DeclaredScreens.Http
import DeclaredScreens.Proofs.Url.Parse

/-! Where the address of a request leads. What is left of a text without its leading slashes may
still be an address of its own, and then it leads away from the origin. If it is none, it leads
to the server of the origin, and below its path unless it starts at the root or its double dots
climb out. -/

namespace DeclaredScreens

namespace Url

open UrlPath (isIgnoredInside isSlash folder)

/-- The same server, asked in the same way by the same user. -/
structure SameServer (u v : Url) : Prop where
  scheme_eq : u.scheme = v.scheme
  username_eq : u.username = v.username
  password_eq : u.password = v.password
  host_eq : u.host = v.host
  port_eq : u.port = v.port

/-- What a text says at an address of the web, if it does not name a server of its own. -/
def relativePart? (scheme text : List Char) : Option (List Char) :=
  let rest := match scheme? (trimmed text) with
    | some (own, rest) => if own = scheme then some rest else none
    | none => some (trimmed text)
  rest.filter fun rest => (cutSlashes rest).1.length < 2

/-- Does a relative text neither start at the root nor climb out? -/
def staysInFolder (part : List Char) : Bool :=
  !(next? part).any (fun (c, _) => isSlash true c) &&
    UrlPath.staysInFolder true (tail true part).path

structure IsWebBase (b : Url) : Prop where
  special : isSpecial b.scheme = true
  notFile : isFile b.scheme = false
  rooted : b.isBase = true

variable {b c : Url} {text part : List Char}

theorem join_relative (web : IsWebBase b) (relative : relativePart? b.scheme text = some part) :
    b.join text = relativeTo b part := by
  obtain ⟨special, notFile, rooted⟩ := web
  simp only [relativePart?, Option.filter_eq_some_iff, decide_eq_true_eq] at relative
  obtain ⟨names, few⟩ := relative
  simp only [join, parseFrom]
  cases named : scheme? (trimmed text) with
  | some pair =>
      obtain ⟨own, rest⟩ := pair
      simp only [named] at names
      split at names
      · next same =>
          cases names
          simp [withScheme, same, notFile, special, few, Option.filter_some]
      · cases names
  | none =>
      simp only [named, Option.some.injEq] at names
      subst names
      simp only [rooted, notFile, Bool.not_true, Bool.false_eq_true, if_false]
      split
      · next rest fragment => simp [relativeTo, fragment]
      · rfl

theorem next?_of_slashes {cs : List Char} (some : (cutSlashes cs).1 ≠ []) :
    ∃ d rest, next? cs = .some (d, rest) ∧ isSlash true d = true := by
  induction cs with
  | nil => exact absurd rfl some
  | cons d rest ih =>
      by_cases ignored : isIgnoredInside d = true
      · have same : (cutSlashes (d :: rest)).1 = (cutSlashes rest).1 := by
          simp [cutSlashes, ignored, visible]
        simpa [next?, ignored] using ih (same ▸ some)
      · by_cases slash : isSlash true d = true
        · exact ⟨d, rest, by simp [next?, ignored], slash⟩
        · simp [cutSlashes, ignored, slash, visible] at some

theorem join_absolute (web : IsWebBase b) (web' : IsWebBase c) (same : c.scheme = b.scheme)
    (absolute : relativePart? b.scheme text = none) : c.join text = b.join text := by
  simp only [relativePart?, Option.filter_eq_none_iff, decide_eq_true_eq, not_lt] at absolute
  simp only [join, parseFrom]
  cases named : scheme? (trimmed text) with
  | some pair =>
      obtain ⟨own, rest⟩ := pair
      simp only [named] at absolute
      have away : ¬(b.scheme = own ∧ (cutSlashes rest).1.length < 2) := by
        rintro ⟨rfl, few⟩
        have many := absolute rest (by simp)
        omega
      simp only [withScheme, Option.filter_some, web.notFile, same, Bool.and_eq_true,
        decide_eq_true_eq, away, if_false, Bool.false_eq_true]
  | none =>
      simp only [named] at absolute
      have many := absolute _ rfl
      have slashed : (cutSlashes (trimmed text)).1 ≠ [] := List.ne_nil_of_length_pos (by omega)
      obtain ⟨d, rest, starts, slash⟩ := next?_of_slashes slashed
      have noMark : d ≠ '?' ∧ d ≠ '#' := by
        constructor <;> (rintro rfl; cases slash)
      simp [starts, noMark, web.rooted, web'.rooted, web.notFile, relativeTo, slash, many,
        same]

theorem relativeTo_ok (special : isSpecial b.scheme = true) (few : (cutSlashes part).1.length < 2) :
    ∃ url, b.relativeTo part = .ok url ∧ SameServer url b ∧
      (staysInFolder part = true → folder b.path.chars <+: url.path.chars) := by
  simp only [relativeTo, special]
  split
  · exact ⟨_, rfl, ⟨rfl, rfl, rfl, rfl, rfl⟩, fun _ => UrlPath.folder_isPrefix _⟩
  · exact ⟨_, rfl, ⟨rfl, rfl, rfl, rfl, rfl⟩, fun _ => UrlPath.folder_isPrefix _⟩
  · exact ⟨_, rfl, ⟨rfl, rfl, rfl, rfl, rfl⟩, fun _ => UrlPath.folder_isPrefix _⟩
  · next d rest _ _ starts =>
      split
      · next slash =>
          rw [if_neg (by omega)]
          refine ⟨_, rfl, ⟨rfl, rfl, rfl, rfl, rfl⟩, fun stays => ?_⟩
          simp [staysInFolder, starts, slash] at stays
      · refine ⟨_, rfl, ⟨rfl, rfl, rfl, rfl, rfl⟩, fun stays => ?_⟩
        simp only [staysInFolder, Bool.and_eq_true] at stays
        by_cases empty : folder b.path.chars = []
        · rw [empty]
          exact List.nil_prefix
        · have place : (folder b.path.chars).isEmpty = false := by simp [empty]
          simp only [UrlPath.popped, Bool.false_and, Bool.false_eq_true, if_false, place]
          exact UrlPath.below_isPrefix true (UrlPath.endsInSlash_folder empty) stays.2

end Url

namespace Origin

open UrlPath (IsFolderText folder)

variable {originText text : String} {origin : Origin} {url : Url}

theorem parse_of_ofText (accepted : ofText originText = .ok origin) :
    ∃ slashed, IsFolderText slashed ∧ Url.parse slashed = .ok origin.url := by
  simp only [ofText] at accepted
  split at accepted
  · next url read =>
      cases accepted
      refine ⟨_, .inr ?_, read⟩
      split
      · assumption
      · simp
  · cases accepted

theorem withAuthority_of_ofText (accepted : ofText originText = .ok origin)
    (special : Url.isSpecial origin.url.scheme = true)
    (notFile : Url.isFile origin.url.scheme = false) :
    ∃ rest, Url.withAuthority origin.url.scheme rest = .ok origin.url := by
  obtain ⟨slashed, -, read⟩ := parse_of_ofText accepted
  obtain ⟨rest, -, read⟩ := Url.parse_web read special notFile
  exact ⟨rest, read⟩

theorem isWebBase_of_ofText (accepted : ofText originText = .ok origin)
    (web : origin.url.scheme = "http".toList ∨ origin.url.scheme = "https".toList) :
    origin.url.IsWebBase := by
  have special : Url.isSpecial origin.url.scheme = true := by
    rcases web with h | h <;> rw [h] <;> rfl
  have notFile : Url.isFile origin.url.scheme = false := by
    rcases web with h | h <;> rw [h] <;> rfl
  obtain ⟨rest, read⟩ := withAuthority_of_ofText accepted special notFile
  obtain ⟨-, rest, -, path, -⟩ := Url.withAuthority_ok read
  refine ⟨special, notFile, ?_⟩
  rw [Url.isBase, path]
  simp [Url.absolutePath, special]

theorem endsInSlash_path (accepted : ofText originText = .ok origin)
    (web : origin.url.IsWebBase) (query : origin.url.query = none)
    (fragment : origin.url.fragment = none) :
    UrlPath.endsInSlash origin.url.path.chars = true := by
  obtain ⟨slashed, isFolder, read⟩ := parse_of_ofText accepted
  exact Url.endsInSlash_of_parse read web.special web.notFile isFolder query fragment

theorem folder_path (accepted : ofText originText = .ok origin)
    (web : origin.url.IsWebBase) (query : origin.url.query = none)
    (fragment : origin.url.fragment = none) :
    folder origin.url.path.chars = origin.url.path.chars :=
  UrlPath.folder_eq_self (endsInSlash_path accepted web query fragment)

theorem requestUrl_eq (relative : ∀ absolute, Url.parse text.toList ≠ .ok absolute) :
    origin.requestUrl text =
      (origin.url.join (text.toList.dropWhile (· = '/'))).mapError (.invalidUrl text) := by
  unfold requestUrl
  split
  · next absolute read => exact absurd read (relative absolute)
  · cases origin.url.join (text.toList.dropWhile (· = '/')) <;> rfl

/-- An address that is no whole one is read at the origin without its leading slashes. What is
left may name a server itself, and then the origin does not count. Otherwise the request goes to
the server of the origin; below its folder, unless it starts at the root or climbs out. -/
theorem requests_stay_under_origin_unless_absolute
    (accepted : ofText originText = .ok origin)
    (web : origin.url.scheme = "http".toList ∨ origin.url.scheme = "https".toList)
    (relative : ∀ absolute, Url.parse text.toList ≠ .ok absolute)
    (requested : origin.requestUrl text = .ok url) :
    let part? := Url.relativePart? origin.url.scheme (text.toList.dropWhile (· = '/'))
    (∀ part, part? = some part → url.SameServer origin.url ∧
      (Url.staysInFolder part = true → folder origin.url.path.chars <+: url.path.chars)) ∧
    (part? = none → ∀ otherText other, ofText otherText = .ok other →
      other.url.scheme = origin.url.scheme → other.requestUrl text = .ok url) ∧
    (origin.url.query = none → origin.url.fragment = none →
      folder origin.url.path.chars = origin.url.path.chars) := by
  have base : origin.url.IsWebBase := isWebBase_of_ofText accepted web
  refine ⟨fun part found => ?_, fun absolute otherText other accepted' same => ?_,
    folder_path accepted base⟩
  · have few : (Url.cutSlashes part).1.length < 2 := by
      simp only [Url.relativePart?, Option.filter_eq_some_iff, decide_eq_true_eq] at found
      exact found.2
    obtain ⟨joined, read, server, path⟩ := Url.relativeTo_ok base.special few
    rw [requestUrl_eq relative, Url.join_relative base found, read] at requested
    cases requested
    exact ⟨server, path⟩
  · have base' : other.url.IsWebBase := isWebBase_of_ofText accepted' (same ▸ web)
    rw [requestUrl_eq relative, Url.join_absolute base base' same absolute,
      ← requestUrl_eq relative]
    exact requested

theorem contact_request_stays_under_app :
    ∃ origin url, ofText "http://localhost:8080/app" = .ok origin ∧
      origin.requestUrl "/api/contacts/5" = .ok url ∧ url.SameServer origin.url ∧
      origin.url.path.chars <+: url.path.chars := by
  have accepted : ofText "http://localhost:8080/app" = .ok ⟨⟨"http".toList, [], [],
    some (.name "localhost".toList), some 8080, .rooted "/app/".toList, none, none⟩⟩ := rfl
  have unread : Url.parse "/api/contacts/5".toList = .error .relativeWithoutBase := rfl
  have relative (absolute : Url) : Url.parse "/api/contacts/5".toList ≠ .ok absolute := by
    rw [unread]
    nofun
  obtain ⟨stays, -, place⟩ := requests_stay_under_origin_unless_absolute accepted (.inl rfl)
    relative rfl
  obtain ⟨server, path⟩ := stays "api/contacts/5".toList rfl
  exact ⟨_, _, accepted, rfl, server, place rfl rfl ▸ path rfl⟩

/-- Behind a slash, an address of its own is not noticed before the slash is gone. -/
theorem slashed_address_leaves_origin :
    ¬∀ (originText text : String) (origin : Origin) (url : Url),
      ofText originText = .ok origin →
      (origin.url.scheme = "http".toList ∨ origin.url.scheme = "https".toList) →
      (∀ absolute, Url.parse text.toList ≠ .ok absolute) → origin.requestUrl text = .ok url →
      url.scheme = origin.url.scheme ∧ url.host = origin.url.host ∧ url.port = origin.url.port ∧
        origin.url.path.chars <+: url.path.chars := by
  intro stays
  have unread : Url.parse "/http://other.example/x".toList = .error .relativeWithoutBase := rfl
  have relative (absolute : Url) : Url.parse "/http://other.example/x".toList ≠ .ok absolute := by
    rw [unread]
    nofun
  obtain ⟨-, host, -⟩ := stays "http://localhost:8080/app" "/http://other.example/x" _ _ rfl
    (.inl rfl) relative rfl
  revert host
  decide

end Origin

end DeclaredScreens
