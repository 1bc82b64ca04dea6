import DeclaredScreens.Proofs.Except
import DeclaredScreens.Proofs.HttpReplies
import DeclaredScreens.Proofs.Json.Written

/-! One fetch is one exchange at most, unless a reply redirects it. Nothing is sent if the address
or the method is bad, and of the two faults the address is told; what is sent first has the method
in upper case, and the written body if there is one. A reply that is accepted says nothing, or a
document, or neither, and never two of them: a blank body is no document, although more counts as
blank in it than between the parts of a document. -/

namespace DeclaredScreens

namespace Raw

/-- The characters of a blank body: a form feed is one of them, though no document holds it between
its parts. -/
def isBodyBlank (c : Char) : Bool := isBlank c || c = '\x0c'

variable {cs : List Char}

theorem skipBlanks_blank (blank : ∀ c ∈ cs, isBodyBlank c = true) :
    skipBlanks cs = [] ∨ ∃ rest, skipBlanks cs = '\x0c' :: rest := by
  induction cs with
  | nil => exact .inl rfl
  | cons c cs ih =>
      obtain ⟨first, later⟩ := List.forall_mem_cons.mp blank
      by_cases skipped : isBlank c = true
      · have same : skipBlanks (c :: cs) = skipBlanks cs := List.dropWhile_cons_of_pos skipped
        rw [same]
        exact ih later
      · have feed : c = '\x0c' := by simpa [isBodyBlank, skipped] using first
        subst feed
        exact .inr ⟨cs, List.dropWhile_cons_of_neg skipped⟩

theorem readValue_blank (blank : ∀ c ∈ cs, isBodyBlank c = true) (fuel : Nat) :
    (readValue fuel cs).1 = broken := by
  cases fuel with
  | zero => rfl
  | succ fuel =>
      rcases skipBlanks_blank blank with ended | ⟨rest, feed⟩
      · have unread : literal? [] = none := rfl
        simp [readValue, ended, unread]
      · have unread : literal? ('\x0c' :: rest) = none := rfl
        simp [readValue, feed, unread]

end Raw

theorem Json.ofText?_blank {text : String}
    (blank : ∀ c ∈ text.toList, Raw.isBodyBlank c = true) : Json.ofText? text = none := by
  have unread := Raw.readValue_blank blank (2 * text.toList.length + 2)
  simp only [Json.ofText?, Raw.ofText, Raw.ofChars, unread]
  split
  · next value found =>
      rw [← (Prod.mk.inj found).1]
      rfl
  · rfl

namespace HttpReply

def pointing (status : Nat) (reason : String) (location : Option String) : HttpReply :=
  ⟨status, reason, [], location⟩

def page (body : String) : HttpReply :=
  ⟨200, "OK", body.toList.flatMap String.utf8EncodeChar, none⟩

theorem document?_page (body : String) : (page body).document? = Json.ofText? body := by
  have bytes : (body.toList.flatMap String.utf8EncodeChar).toByteArray = body.toByteArray :=
    String.utf8Encode_toList
  have read : String.fromUTF8? body.toByteArray = some body := dif_pos body.isValidUTF8
  simp only [document?, page, bytes, read, Option.bind_some]

theorem isAsciiBlank_iff (b : UInt8) :
    isAsciiBlank b = true ↔ b.toNat ∈ [32, 9, 10, 12, 13] := by
  simp [isAsciiBlank, ← UInt8.toNat_inj, or_assoc]

theorem isBodyBlank_iff (c : Char) :
    Raw.isBodyBlank c = true ↔ c.toNat ∈ [32, 9, 10, 12, 13] := by
  simp [Raw.isBodyBlank, Raw.isBlank, ← Char.toNat_inj]
  omega

theorem utf8EncodeChar_lead {c : Char} (beyond : 127 < c.toNat) :
    ∃ lead rest, 192 ≤ lead ∧ lead < 256 ∧
      String.utf8EncodeChar c = UInt8.ofNat lead :: rest := by
  have beyond : ¬c.val.toNat ≤ 127 := Nat.not_le.mpr beyond
  unfold String.utf8EncodeChar
  simp only [beyond, if_false]
  split
  · exact ⟨_, _, by omega, by omega, rfl⟩
  · split
    · exact ⟨_, _, by omega, by omega, rfl⟩
    · exact ⟨_, _, by omega, by omega, rfl⟩

theorem isBodyBlank_of_bytes {c : Char}
    (blank : ∀ b ∈ String.utf8EncodeChar c, isAsciiBlank b = true) :
    Raw.isBodyBlank c = true := by
  have first {n : Nat} {rest : List UInt8} (small : n < 256)
      (bytes : String.utf8EncodeChar c = UInt8.ofNat n :: rest) : n ∈ [32, 9, 10, 12, 13] := by
    have lead : isAsciiBlank (UInt8.ofNat n) = true := blank _ (bytes ▸ List.mem_cons_self)
    rwa [isAsciiBlank_iff, UInt8.toNat_ofNat_of_lt' small] at lead
  rw [isBodyBlank_iff]
  by_cases ascii : c.toNat ≤ 127
  · have bytes : String.utf8EncodeChar c = [UInt8.ofNat c.toNat] := by
      unfold String.utf8EncodeChar
      exact if_pos ascii
    exact first (by omega) bytes
  · obtain ⟨lead, rest, low, high, bytes⟩ := utf8EncodeChar_lead (Nat.not_le.mp ascii)
    have blank := first high bytes
    simp only [List.mem_cons, List.not_mem_nil, or_false] at blank
    omega

theorem document?_blank {r : HttpReply} (blank : r.body.all isAsciiBlank = true) :
    r.document? = none := by
  cases read : String.fromUTF8? r.body.toByteArray with
  | none => simp [document?, read]
  | some text =>
      have bytes : text.toList.flatMap String.utf8EncodeChar = r.body := by
        unfold String.fromUTF8? at read
        split at read
        · cases read
          exact List.toByteArray_inj.mp String.utf8Encode_toList
        · cases read
      have unread : Json.ofText? text = none := Json.ofText?_blank fun c mem =>
        isBodyBlank_of_bytes fun b inside =>
          List.all_eq_true.mp blank b (bytes ▸ List.mem_flatMap_of_mem mem inside)
      simp [document?, read, unread]

/-- What the body of a reply comes to: nothing, or one document, or neither. -/
structure Conveys (r : HttpReply) (result : Except FetchError Response) : Prop where
  nothing_iff : result = .ok .empty ↔ r.body.all isAsciiBlank = true
  document_iff (data : Json) : result = .ok (.ofData data) ↔ r.document? = some data
  undecodable_iff : result = .error .undecodable ↔ r.Garbled

theorem conveys_response (r : HttpReply) : r.Conveys (response r.body) := by
  cases blank : r.body.all isAsciiBlank with
  | true =>
      have undocumented := document?_blank blank
      rw [response_of_blank blank]
      refine ⟨?_, ?_, ?_⟩
      · simp [blank]
      · simp [undocumented, Response.empty, Response.ofData]
      · simp [Garbled, blank]
  | false =>
      cases document : r.document? with
      | some data =>
          rw [response_of_document blank document]
          refine ⟨?_, ?_, ?_⟩
          · simp [blank, Response.empty, Response.ofData]
          · simp [document, Response.ofData]
          · simp [Garbled, document]
      | none =>
          have garbled : r.Garbled := ⟨blank, document⟩
          rw [response_of_garbled garbled]
          refine ⟨?_, ?_, ?_⟩
          · simp [blank]
          · simp [document]
          · simp [garbled]

end HttpReply

namespace HttpRequest

def IsMethod (method : String) : Prop :=
  method ≠ "" ∧ ∀ c ∈ method.toList, isTokenChar c = true

instance (method : String) : Decidable (IsMethod method) :=
  decidable_of_iff (method ≠ "" ∧ method.toList.all isTokenChar = true)
    (and_congr_right fun _ => List.all_eq_true)

theorem method?_eq (method : String) :
    method? method = if IsMethod method.toUpper then some method.toUpper else none := by
  have upper : method.toList.map Char.toUpper = method.toUpper.toList := String.toList_map.symm
  have usable_iff : (!method.toUpper.toList.isEmpty && method.toUpper.toList.all isTokenChar) =
      true ↔ IsMethod method.toUpper := by
    simp [IsMethod]
  simp only [method?, upper, usable_iff, String.ofList_toList]

structure IsSendable (r : HttpRequest) : Prop where
  web : String.ofList r.url.scheme ∈ ["http", "https"]
  short : r.url.chars.length ≤ maxUrlLength
  named : r.url.host.any (fun host => host.chars.all isHostChar) = true

variable {r : HttpRequest}

theorem isAddressable_iff {url : Url} :
    isAddressable url = true ↔ url.chars.length ≤ maxUrlLength ∧
      url.host.any (fun host => host.chars.all isHostChar) = true := by
  simp only [isAddressable, Bool.and_eq_true, decide_eq_true_eq]

theorem checked_eq_ok_iff {sent : HttpRequest} :
    r.checked = .ok sent ↔ r.IsSendable ∧ sent = r := by
  unfold checked
  split
  · next other => exact ⟨nofun, fun ⟨sendable, _⟩ => absurd sendable.web other⟩
  · next web =>
      split
      · next fits =>
          obtain ⟨short, named⟩ := isAddressable_iff.mp fits
          have sendable : r.IsSendable := ⟨not_not.mp web, short, named⟩
          simp [sendable, eq_comm]
      · next unfit =>
          refine ⟨nofun, fun ⟨sendable, _⟩ => ?_⟩
          exact absurd (isAddressable_iff.mpr ⟨sendable.short, sendable.named⟩) unfit

end HttpRequest

namespace Origin

open HttpReply (page pointing)
open HttpRequest (IsMethod)

variable {origin : Origin} {network : Network} {text : String} {request : Request} {url : Url}

theorem requestUrl_error {e : FetchError} (failed : origin.requestUrl text = .error e) :
    ∃ cause, e = .invalidUrl text cause := by
  unfold requestUrl at failed
  split at failed
  · cases failed
  · split at failed
    · cases failed
    · cases failed
      exact ⟨_, rfl⟩

def requestTo (url : Url) (request : Request) : HttpRequest :=
  ⟨request.method.toUpper, if url.namesCredentials then url.withoutCredentials else url,
    request.body.map Json.text⟩

theorem prepare_unresolved {e : FetchError} (failed : origin.requestUrl text = .error e) :
    origin.prepare text request = .error e := by
  simp only [prepare, failed]

theorem prepare_resolved (resolved : origin.requestUrl text = .ok url) :
    origin.prepare text request =
      if IsMethod request.method.toUpper then
        (requestTo url request).checked.mapError .transport
      else .error (.invalidMethod request.method) := by
  simp only [prepare, resolved, HttpRequest.method?_eq]
  by_cases usable : IsMethod request.method.toUpper
  · simp only [usable, if_true, requestTo]
  · simp only [usable, if_false]

theorem prepare_eq_ok_iff {sent : HttpRequest} :
    origin.prepare text request = .ok sent ↔
      ∃ url, origin.requestUrl text = .ok url ∧ IsMethod request.method.toUpper ∧
        (requestTo url request).IsSendable ∧ sent = requestTo url request := by
  cases resolved : origin.requestUrl text with
  | error e => simp [prepare_unresolved resolved]
  | ok url =>
      rw [prepare_resolved resolved]
      by_cases usable : IsMethod request.method.toUpper
      · rw [if_pos usable, mapError_eq_ok_iff, HttpRequest.checked_eq_ok_iff]
        simp [usable]
      · simp [usable]

theorem head?_fetch_resolved {sent : HttpRequest} (resolved : origin.requestUrl text = .ok url)
    (usable : IsMethod request.method.toUpper) :
    (origin.fetch network text request).1.head? = some sent ↔
      (requestTo url request).IsSendable ∧ sent = requestTo url request := by
  rw [head?_fetch, prepare_resolved resolved, if_pos usable, mapError_eq_ok_iff,
    HttpRequest.checked_eq_ok_iff]

theorem fetched_of_reply {n : Nat} {sent : HttpRequest} {reply : HttpReply}
    (found : (origin.fetch network text request).1[n]? = some sent)
    (replied : network n sent = .ok reply) (unfollowed : sent.redirected? reply = none) :
    (origin.fetch network text request).1.length = n + 1 ∧
      (origin.fetch network text request).2 = reply.read sent.url := by
  cases prepared : origin.prepare text request with
  | error e => simp [fetch_unprepared prepared] at found
  | ok own =>
      refine (delivers_fetch prepared).settles found ?_
      rw [replied, HttpRequest.progress_of_unfollowed unfollowed]

/-- A server that points whoever posts something to the page of the first contact, where it replies
with null. -/
def pointingServer : Network := fun _ sent =>
  .ok (if sent.method = "POST" then pointing 303 "See Other" (some "/api/contacts/1")
    else page "null")

def nested : Nat → Json
  | 0 => .array []
  | depth + 1 => .array [nested depth]

theorem nesting_nested (depth : Nat) : (nested depth).nesting = depth + 1 := by
  induction depth with
  | zero => rfl
  | succ depth ih => simp [nested, Json.nesting, Json.itemNesting, ih]

theorem floats_nested (depth : Nat) : (nested depth).floats = [] := by
  induction depth with
  | zero => rfl
  | succ depth ih => simp [nested, Json.floats, Json.itemFloats, ih]

theorem garbled_nested {depth : Nat} (deep : Json.nestingLimit ≤ depth) :
    (page (nested depth).text).Garbled := by
  have bracket : (String.utf8EncodeChar '[').all HttpReply.isAsciiBlank = false := by decide +kernel
  have written : (page (nested depth).text).body.all HttpReply.isAsciiBlank = false := by
    cases depth <;> simp [page, Json.text, nested, Json.chars, bracket]
  have read_iff := Json.isSome_ofText?_text (nested depth) (by simp [floats_nested])
  have unread : Json.ofText? (nested depth).text = none := by
    rw [← Option.not_isSome_iff_eq_none, read_iff, nesting_nested]
    exact Nat.not_succ_le_self _ ∘ (Nat.le_trans · deep)
  exact ⟨written, (HttpReply.document?_page _).trans unread⟩

theorem fetch_page {sent : HttpRequest} (prepared : origin.prepare text request = .ok sent)
    (body : String) : origin.fetch (fun _ _ => .ok (page body)) text request =
      ([sent], HttpReply.response (page body).body) := by
  have unfollowed : sent.redirected? (page body) = none :=
    HttpRequest.redirected?_eq_none (show 200 ∉ HttpRequest.redirections by decide)
  have accepted : ¬(page body).Refuses := by simp [page, HttpReply.Refuses]
  rw [fetch_unfollowed prepared rfl unfollowed, HttpReply.read_of_accepted accepted]

theorem fetch_nested {depth : Nat} (deep : Json.nestingLimit ≤ depth) :
    (localhost.fetch (fun _ _ => .ok (page (nested depth).text)) "/api/contacts"
      ⟨"GET", none⟩).2 = .error .undecodable := by
  have prepared : localhost.prepare "/api/contacts" ⟨"GET", none⟩ =
      .ok ⟨"GET", { localhost.url with path := .rooted "/api/contacts".toList }, none⟩ := rfl
  rw [fetch_page prepared]
  exact HttpReply.response_of_garbled (garbled_nested deep)

end Origin

end DeclaredScreens
