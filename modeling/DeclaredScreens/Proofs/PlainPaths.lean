import DeclaredScreens.Proofs.RequestUrls

/-! Plain paths: letters, digits, hyphens, underscores and tildes, with slashes between them. Such
a text says nothing but a path. It names no scheme, no query and no fragment, its segments are
written as they stand, and no segment is a dot. So it is appended as it stands to the address that
it is read at. -/

namespace DeclaredScreens

namespace Percent

theorem encode_eq_self {set : Char → Bool} {cs : List Char} (unset : ∀ c ∈ cs, set c = false) :
    encode set cs = cs := by
  induction cs with
  | nil => rfl
  | cons c cs ih =>
      obtain ⟨first, later⟩ := List.forall_mem_cons.mp unset
      rw [encode, List.flatMap_cons, first]
      exact congrArg (c :: ·) (ih later)

end Percent

namespace UrlPath

def isPlainChar (c : Char) : Bool := c.isAlphanum || c = '-' || c = '_' || c = '~'

/-- Segments of plain characters with slashes between them; any segment may be empty. -/
def IsPlain (cs : List Char) : Prop := ∀ c ∈ cs, (isPlainChar c || c = '/') = true

instance (cs : List Char) : Decidable (IsPlain cs) :=
  decidable_of_iff (cs.all (fun c => isPlainChar c || c = '/') = true) List.all_eq_true

section PlainChar

variable {c : Char}

theorem toNat_of_isPlainChar (plain : isPlainChar c = true) : 45 ≤ c.toNat ∧ c.toNat ≤ 126 := by
  simp only [isPlainChar, Bool.or_eq_true, decide_eq_true_eq] at plain
  rcases plain with ((alphanumeric | rfl) | rfl) | rfl
  · rcases Bool.or_eq_true_iff.mp alphanumeric with letter | digit
    · rcases Bool.or_eq_true_iff.mp letter with upper | lower
      · obtain ⟨least, most⟩ := of_decide_eq_true upper
        have least : 65 ≤ c.toNat := UInt32.le_iff_toNat_le.mp least
        have most : c.toNat ≤ 90 := UInt32.le_iff_toNat_le.mp most
        omega
      · obtain ⟨least, most⟩ := Bool.and_eq_true_iff.mp lower
        have least : 97 ≤ c.toNat := UInt32.le_iff_toNat_le.mp (of_decide_eq_true least)
        have most : c.toNat ≤ 122 := UInt32.le_iff_toNat_le.mp (of_decide_eq_true most)
        omega
    · have range : 48 ≤ c.toNat ∧ c.toNat ≤ 57 := Char.isDigit_iff_toNat.mp digit
      omega
  all_goals decide

theorem ne_of_isPlainChar {d : Char} (plain : isPlainChar c = true)
    (other : isPlainChar d = false) : c ≠ d := by
  rintro rfl
  rw [plain] at other
  cases other

theorem isIgnoredInside_of_isPlainChar (plain : isPlainChar c = true) :
    isIgnoredInside c = false := by
  simp only [isIgnoredInside, Bool.or_eq_false_iff, decide_eq_false_iff_not]
  and_intros
  all_goals exact ne_of_isPlainChar plain (by decide)

theorem isSlash_of_isPlainChar (plain : isPlainChar c = true) (special : Bool) :
    isSlash special c = false := by
  simp only [isSlash, Bool.or_eq_false_iff, Bool.and_eq_false_imp, decide_eq_false_iff_not]
  exact ⟨ne_of_isPlainChar plain (by decide), fun _ => ne_of_isPlainChar plain (by decide)⟩

theorem percentPath_of_isPlainChar (plain : isPlainChar c = true) : Percent.path c = false := by
  have range := toNat_of_isPlainChar plain
  simp only [Percent.path, Percent.fragment, Percent.controls, Bool.or_eq_false_iff,
    decide_eq_false_iff_not]
  and_intros
  · omega
  · omega
  all_goals exact ne_of_isPlainChar plain (by decide)

theorem toLower_ne_of_isPlainChar {d : Char} (plain : isPlainChar c = true)
    (other : isPlainChar d = false) (low : d.toNat < 97) : c.toLower ≠ d := by
  unfold Char.toLower
  split
  · next upper =>
      obtain ⟨least, most⟩ := upper
      have raised : (c.val + ('a'.val - 'A'.val)).toNat = c.val.toNat + 32 := by
        rw [UInt32.toNat_add]
        simp [UInt32.le_iff_toNat_le] at least most ⊢
        omega
      have least : 65 ≤ c.val.toNat := UInt32.le_iff_toNat_le.mp least
      rintro rfl
      rw [Char.toNat, raised] at low
      omega
  · exact ne_of_isPlainChar plain other

theorem isPlainChar_of_bare {rest : List Char} (plain : IsPlain (c :: rest))
    (bare : (c :: rest).head? ≠ some '/') : isPlainChar c = true := by
  have other : c ≠ '/' := by simpa using bare
  simpa [other] using plain c List.mem_cons_self

end PlainChar

section Segment

variable {segment : List Char} (plain : ∀ c ∈ segment, isPlainChar c = true)

include plain

theorem written_of_plain : written segment = segment := by
  have counts : Url.visible segment = segment := List.filter_eq_self.mpr fun c mem => by
    rw [isIgnoredInside_of_isPlainChar (plain c mem), Bool.not_false]
  rw [written, counts, Percent.encode_eq_self fun c mem => percentPath_of_isPlainChar (plain c mem)]

/-- No plain segment is a dot or two, encoded or not. -/
theorem notDots_of_plain : isDoubleDot segment = false ∧ isSingleDot segment = false := by
  cases segment with
  | nil => exact ⟨rfl, rfl⟩
  | cons c rest =>
      have lower {d : Char} := toLower_ne_of_isPlainChar (d := d) (plain c List.mem_cons_self)
      have noDot : c.toLower ≠ '.' := lower rfl (by decide)
      have noPercent : c.toLower ≠ '%' := lower rfl (by decide)
      constructor
      · simp [isDoubleDot, ← String.toList_inj, noDot, noPercent]
      · simp [isSingleDot, ← String.toList_inj, noDot, noPercent]

theorem Walk.read_plain {w : Walk} (fresh : w.segment = []) (last : Bool) :
    w.read false last segment =
      { w with before := w.before ++ segment ++ if last then [] else ['/'] } := by
  rw [read_eq segment fresh, written_of_plain plain, close]
  simp only [notDots_of_plain plain, Bool.false_and, Bool.false_eq_true, if_false, fresh]

end Segment

theorem Walk.readAll_plain {w : Walk} (fresh : w.segment = []) {segments : List (List Char)}
    (plain : ∀ segment ∈ segments, ∀ c ∈ segment, isPlainChar c = true) :
    (w.readAll false segments).before = w.before ++ ['/'].intercalate segments := by
  induction segments generalizing w with
  | nil => simp [readAll]
  | cons segment rest ih =>
      obtain ⟨first, later⟩ := List.forall_mem_cons.mp plain
      cases rest with
      | nil => simp [readAll, read_plain first fresh]
      | cons next others =>
          rw [readAll, read_plain first fresh, List.intercalate_cons_cons]
          · refine (ih ?_ later).trans ?_
            · exact fresh
            · simp
          · exact List.cons_ne_nil next others

theorem splitOnP_of_plain {cs : List Char} (plain : IsPlain cs) :
    cs.splitOnP (isSlash true) = cs.splitOn '/' := by
  unfold List.splitOn
  induction cs with
  | nil => rfl
  | cons c cs ih =>
      obtain ⟨first, later⟩ := List.forall_mem_cons.mp plain
      have noBackslash : c ≠ '\\' := by
        rintro rfl
        cases first
      rw [List.splitOnP_cons_eq_if_modifyHead, List.splitOnP_cons_eq_if_modifyHead, ih later]
      simp [isSlash, noBackslash]

theorem below_plain {place cs : List Char} (plain : IsPlain cs) :
    below true false place cs = .rooted (place ++ cs) := by
  have segments (segment : List Char) (part : segment ∈ cs.splitOnP (isSlash true)) (c : Char)
      (mem : c ∈ segment) : isPlainChar c = true := by
    have kept : c ∈ cs.filter (fun c => !isSlash true c) := by
      rw [← flatten_splitOnP]
      exact List.mem_flatten_of_mem part mem
    obtain ⟨inside, noSlash⟩ := List.mem_filter.mp kept
    have other : c ≠ '/' := by
      rintro rfl
      cases noSlash
    simpa [other] using plain c inside
  rw [below, trimmed, walk, Walk.readAll_plain rfl segments, splitOnP_of_plain plain,
    List.intercalate_splitOn]
  rfl

end UrlPath

namespace Url

open UrlPath (IsPlain endsInSlash isIgnoredInside isPlainChar isSlash)

section Scan

variable {cs : List Char} {c : Char}

theorem next?_cons (counts : isIgnoredInside c = false) : next? (c :: cs) = some (c, cs) := by
  simp [next?, counts]

theorem cutSlashes_cons (counts : isIgnoredInside c = false) (other : isSlash true c = false) :
    cutSlashes (c :: cs) = ([], c :: cs) := by
  simp [cutSlashes, counts, other, visible]

theorem schemeFrom_of_no_colon (absent : ':' ∉ cs) : schemeFrom cs = none := by
  induction cs with
  | nil => rfl
  | cons c cs ih =>
      simp only [List.mem_cons, not_or] at absent
      simp [schemeFrom, ih absent.2, Ne.symm absent.1]

theorem scheme?_of_no_colon (absent : ':' ∉ cs) : scheme? cs = none := by
  unfold scheme?
  split
  · simp [schemeFrom_of_no_colon absent]
  · rfl

theorem cutAt_of_notMem {stop : Char} (absent : stop ∉ cs) : cutAt stop cs = (cs, none) := by
  induction cs with
  | nil => rfl
  | cons c cs ih =>
      simp only [List.mem_cons, not_or] at absent
      simp [cutAt, ih absent.2, Ne.symm absent.1]

theorem tail_of_no_marks (special : Bool) (noQuery : '?' ∉ cs) (noFragment : '#' ∉ cs) :
    tail special cs = ⟨cs, none, none⟩ := by
  simp [tail, cutAt_of_notMem noQuery, cutAt_of_notMem noFragment]

theorem trimmed_eq_self (counts : ∀ c ∈ cs, isIgnoredAround c = false) : trimmed cs = cs := by
  have keeps {cs : List Char} (counts : ∀ c ∈ cs, isIgnoredAround c = false) :
      cs.dropWhile isIgnoredAround = cs := by
    cases cs with
    | nil => rfl
    | cons c cs => exact List.dropWhile_cons_of_neg (by simp [counts c List.mem_cons_self])
  rw [trimmed, keeps counts, keeps (by simpa using counts), List.reverse_reverse]

end Scan

section Plain

variable {cs : List Char} (plain : IsPlain cs)

include plain

theorem notMem_of_plain {c : Char} (other : (isPlainChar c || c = '/') = false) : c ∉ cs :=
  fun mem => absurd (plain c mem) (by simp [other])

theorem trimmed_of_plain : trimmed cs = cs :=
  trimmed_eq_self fun c mem => by
    rcases Bool.or_eq_true_iff.mp (plain c mem) with plain | slash
    · have range := UrlPath.toNat_of_isPlainChar plain
      simp only [isIgnoredAround, decide_eq_false_iff_not]
      omega
    · rw [of_decide_eq_true slash]
      rfl

theorem parse_plain : parse cs = .error .relativeWithoutBase := by
  simp [parse, parseFrom, trimmed_of_plain plain,
    scheme?_of_no_colon (notMem_of_plain plain (c := ':') rfl)]

theorem relativePart?_plain (bare : cs.head? ≠ some '/') (scheme : List Char) :
    relativePart? scheme cs = some cs := by
  have noScheme := scheme?_of_no_colon (notMem_of_plain plain (c := ':') rfl)
  have noSlashes : (cutSlashes cs).1 = [] := by
    cases cs with
    | nil => rfl
    | cons c rest =>
        have first := UrlPath.isPlainChar_of_bare plain bare
        rw [cutSlashes_cons (UrlPath.isIgnoredInside_of_isPlainChar first)
          (UrlPath.isSlash_of_isPlainChar first true)]
  simp [relativePart?, trimmed_of_plain plain, noScheme, noSlashes]

end Plain

/-- An address that ends with its path, and the path with a slash. -/
structure IsFolder (u : Url) (place : List Char) : Prop where
  path_eq : u.path = .rooted place
  ends : endsInSlash place = true
  query_eq : u.query = none
  fragment_eq : u.fragment = none

def withRest (u : Url) (place rest : List Char) : Url := { u with path := .rooted (place ++ rest) }

section Folder

variable {u : Url} {place rest : List Char} (folder : u.IsFolder place)

include folder

theorem IsFolder.relativeTo_plain (special : isSpecial u.scheme = true) (plain : IsPlain rest)
    (bare : rest.head? ≠ some '/') : u.relativeTo rest = .ok (u.withRest place rest) := by
  obtain ⟨path, ends, query, fragment⟩ := folder
  cases rest with
  | nil =>
      rw [withRest, List.append_nil, ← path]
      simp [relativeTo, next?, ← fragment]
  | cons c rest =>
      have first := UrlPath.isPlainChar_of_bare plain bare
      have starts : next? (c :: rest) = some (c, rest) :=
        next?_cons (UrlPath.isIgnoredInside_of_isPlainChar first)
      have noMark : c ≠ '?' ∧ c ≠ '#' :=
        ⟨UrlPath.ne_of_isPlainChar first rfl, UrlPath.ne_of_isPlainChar first rfl⟩
      have alone : tail true (c :: rest) = ⟨c :: rest, none, none⟩ :=
        tail_of_no_marks true (notMem_of_plain plain rfl) (notMem_of_plain plain rfl)
      have there : UrlPath.folder u.path.chars = place := by
        rw [path]
        exact UrlPath.folder_eq_self ends
      have nonempty : place ≠ [] := by
        rintro rfl
        cases ends
      simp [relativeTo, special, starts, noMark, UrlPath.isSlash_of_isPlainChar first, alone, there,
        nonempty, UrlPath.popped, UrlPath.below_plain plain, withRest, query, fragment]

theorem IsFolder.chars_eq : u.chars = u.scheme ++ ':' :: u.authorityChars ++ place := by
  simp [chars, suffixChars, UrlPath.chars, folder.path_eq, folder.query_eq, folder.fragment_eq]

theorem IsFolder.endsInSlash_chars : endsInSlash u.chars = true := by
  have last := folder.ends
  simp only [endsInSlash, decide_eq_true_eq] at last ⊢
  rw [folder.chars_eq, List.getLast?_append, last]
  rfl

theorem IsFolder.text_withRest (hosted : u.host.isSome = true) (rest : List Char) :
    (u.withRest place rest).text = u.text ++ String.ofList rest := by
  obtain ⟨host, named⟩ := Option.isSome_iff_exists.mp hosted
  have authority : (u.withRest place rest).authorityChars = u.authorityChars := by
    simp only [withRest, authorityChars, named, credentialChars]
  have noSuffix : (u.withRest place rest).suffixChars = [] := by
    simp [withRest, suffixChars, folder.query_eq, folder.fragment_eq]
  rw [text, text, ← String.ofList_append, folder.chars_eq, chars, authority, noSuffix]
  simp [withRest, UrlPath.chars]

end Folder

end Url

namespace Origin

open UrlPath (IsPlain endsInSlash)

variable {originText text : String} {origin : Origin} {place : List Char}

theorem hosted_of_ofText (accepted : ofText originText = .ok origin)
    (web : origin.url.IsWebBase) : origin.url.host.isSome = true := by
  obtain ⟨rest, read⟩ := withAuthority_of_ofText accepted web.special web.notFile
  obtain ⟨-, rest, -, -, -, -, hosted⟩ := Url.withAuthority_ok read
  exact hosted

theorem exists_isFolder (accepted : ofText originText = .ok origin) (web : origin.url.IsWebBase)
    (query : origin.url.query = none) (fragment : origin.url.fragment = none) :
    ∃ place, origin.url.IsFolder place := by
  have ends := endsInSlash_path accepted web query fragment
  have rooted := web.rooted
  unfold Url.isBase at rooted
  split at rooted
  · cases rooted
  · next place path =>
      rw [path] at ends
      exact ⟨place, path, ends, query, fragment⟩

def unrooted (text : String) : List Char := text.toList.dropWhile (· = '/')

theorem head?_unrooted (text : String) : (unrooted text).head? ≠ some '/' := fun slash => by
  have stopped := List.head?_dropWhile_not (fun c : Char => decide (c = '/')) text.toList
  rw [← unrooted, slash] at stopped
  cases stopped

theorem requestUrl_plain (web : origin.url.IsWebBase) (folder : origin.url.IsFolder place)
    (plain : IsPlain text.toList) :
    origin.requestUrl text = .ok (origin.url.withRest place (unrooted text)) := by
  have relative (absolute : Url) : Url.parse text.toList ≠ .ok absolute := by
    rw [Url.parse_plain plain]
    nofun
  have rest : IsPlain (unrooted text) := fun c mem => plain c (List.dropWhile_subset _ mem)
  have bare := head?_unrooted text
  rw [requestUrl_eq relative, ← unrooted,
    Url.join_relative web (Url.relativePart?_plain rest bare _),
    folder.relativeTo_plain web.special rest bare]
  rfl

/-- A plain path is appended as it stands to an origin of the web, but for its leading slashes. So
it does not matter how many they are, and two paths that differ in more than them lead to addresses
that differ. -/
theorem plain_paths_are_appended (accepted : ofText originText = .ok origin)
    (web : origin.url.scheme = "http".toList ∨ origin.url.scheme = "https".toList)
    (query : origin.url.query = none) (fragment : origin.url.fragment = none) :
    endsInSlash origin.url.chars = true ∧
    (∀ text : String, IsPlain text.toList → ∃ url, origin.requestUrl text = .ok url ∧
      url.text = origin.url.text ++ String.ofList (unrooted text)) ∧
    ∀ text other : String, IsPlain text.toList → IsPlain other.toList →
      (unrooted text = unrooted other → origin.requestUrl text = origin.requestUrl other) ∧
      (unrooted text ≠ unrooted other →
        (origin.requestUrl text).map Url.text ≠ (origin.requestUrl other).map Url.text) := by
  have base := isWebBase_of_ofText accepted web
  obtain ⟨place, folder⟩ := exists_isFolder accepted base query fragment
  have requested {text : String} (plain : IsPlain text.toList) := requestUrl_plain base folder plain
  have appended := folder.text_withRest (hosted_of_ofText accepted base)
  refine ⟨folder.endsInSlash_chars, fun text plain => ⟨_, requested plain, appended _⟩,
    fun text other plain plain' => ?_⟩
  rw [requested plain, requested plain']
  refine ⟨fun same => by rw [same], fun different equal => different ?_⟩
  have written := Except.ok.inj equal
  rw [appended, appended, String.append_right_inj, String.ofList_inj] at written
  exact written

theorem contacts_are_appended_to_app :
    ∃ origin url, ofText "http://ann:pw@localhost:8080/app" = .ok origin ∧
      origin.requestUrl "//api//contacts/5" = .ok url ∧
      url.text = "http://ann:pw@localhost:8080/app/api//contacts/5" ∧
      origin.requestUrl "api//contacts/5" = .ok url := by
  have accepted : ofText "http://ann:pw@localhost:8080/app" = .ok ⟨⟨"http".toList, "ann".toList,
    "pw".toList, some (.name "localhost".toList), some 8080, .rooted "/app/".toList, none,
    none⟩⟩ := rfl
  obtain ⟨-, appended, same⟩ := plain_paths_are_appended accepted (.inl rfl) rfl rfl
  have plain : IsPlain "//api//contacts/5".toList := by decide
  obtain ⟨url, requested, written⟩ := appended "//api//contacts/5" plain
  obtain ⟨alike, -⟩ := same "//api//contacts/5" "api//contacts/5" plain (by decide)
  exact ⟨_, url, accepted, requested, written, (alike rfl).symm.trans requested⟩

end Origin

end DeclaredScreens
