import DeclaredScreens.Proofs.ExecutionEffects
import DeclaredScreens.Proofs.Failures
import DeclaredScreens.Proofs.Redirects

/-! What replies over HTTP come to. Only a status from 400 to 599 refuses a request; behind any
other status the body decides. A blank body is an empty response and a document is its data, so a
redirection that is not followed, or a page that was not modified, completes an execution as well
as a page that was found. -/

namespace DeclaredScreens

namespace HttpReply

variable {url : Url} {r : HttpReply}

def Refuses (r : HttpReply) : Prop := 400 ≤ r.status ∧ r.status < 600

def document? (r : HttpReply) : Option Json :=
  (String.fromUTF8? r.body.toByteArray).bind Json.ofText?

/-- A body that says something, but is no document. -/
def Garbled (r : HttpReply) : Prop := r.body.all isAsciiBlank = false ∧ r.document? = none

theorem read_of_refuses (refuses : r.Refuses) :
    r.read url = .error (.transport (.refused url r.status r.reason)) := if_pos refuses

theorem Refuses.unfollowed {sent : HttpRequest} (refuses : r.Refuses) :
    sent.redirected? r = none := by
  refine HttpRequest.redirected?_eq_none fun redirects => ?_
  simp only [HttpRequest.redirections, List.mem_cons, List.not_mem_nil, or_false] at redirects
  have low : 400 ≤ r.status := refuses.1
  omega

theorem read_of_accepted (accepted : ¬r.Refuses) : r.read url = response r.body := if_neg accepted

theorem response_of_garbled (garbled : r.Garbled) : response r.body = .error .undecodable := by
  obtain ⟨written, unread⟩ := garbled
  rw [response, written, ← document?, unread]
  rfl

theorem response_of_blank (blank : r.body.all isAsciiBlank = true) :
    response r.body = .ok .empty := if_pos blank

theorem response_of_document {data : Json} (written : r.body.all isAsciiBlank = false)
    (document : r.document? = some data) : response r.body = .ok (.ofData data) := by
  rw [response, written, ← document?, document]
  rfl

theorem response_error_iff : (∃ e, response r.body = .error e) ↔ r.Garbled := by
  constructor
  · rintro ⟨e, failed⟩
    cases blank : r.body.all isAsciiBlank with
    | true => cases failed.symm.trans (response_of_blank blank)
    | false =>
        cases document : r.document? with
        | none => exact ⟨blank, document⟩
        | some data => cases failed.symm.trans (response_of_document blank document)
  · exact fun garbled => ⟨_, response_of_garbled garbled⟩

theorem read_error_iff : (∃ e, r.read url = .error e) ↔ r.Refuses ∨ r.Garbled := by
  by_cases refuses : r.Refuses
  · simp [read_of_refuses refuses, refuses]
  · simp only [read_of_accepted refuses, response_error_iff, refuses, false_or]

end HttpReply

namespace Origin

variable {origin : Origin} {network : Network} {text : String} {request : Request}

def answer (origin : Origin) (network : Network) (text : String) (request : Request) : Reply :=
  Session.replyOf (origin.fetch network text request).2

theorem answer_of_error {e : FetchError}
    (failed : (origin.fetch network text request).2 = .error e) :
    origin.answer network text request = .rejected e.chain := by
  simp only [answer, failed, Session.replyOf]

theorem answer_of_ok {response : Response}
    (fetched : (origin.fetch network text request).2 = .ok response) :
    origin.answer network text request = .response response := by
  simp only [answer, fetched, Session.replyOf]

def localhost : Origin :=
  ⟨⟨"http".toList, [], [], some (.name "localhost".toList), some 8080, .rooted "/".toList, none,
    none⟩⟩

end Origin

namespace Screen

variable (host : Host) {s : Screen}

structure Fails (purpose : Purpose) (causes : List String) (before : Screen) (after : Stepped) :
    Prop where
  result_eq : after.result = purpose.told (.failed (.remote causes))
  undisturbed : before.Undisturbed after
  requests_eq : after.requests = []
  toasts_eq : after.toasts =
    host.toasts .error ((Purpose.notification purpose).bind (·.error))

theorem fails_reply {n : Nat} {call : Call} {causes : List String}
    (waiting : s.calls.lookup n = some call) :
    Fails host call.purpose causes s (s.step host (.reply n (.rejected causes))) := by
  have told : (s.step host (.reply n (.rejected causes))).result =
      call.purpose.told (.failed (.remote causes)) := by
    simp only [Screen.step, reply, waiting, answered_rejected]
  have failed : (s.step host (.reply n (.rejected causes))).result.failure? =
      some (.remote causes) := by
    rw [told, Purpose.told_failure?]
    rfl
  obtain ⟨undisturbed, requests, toasts⟩ := undisturbed_of_failure host failed
  refine ⟨told, undisturbed, requests, ?_⟩
  simpa [notification, waiting, Failure.toasts, Failure.remote] using toasts

/-- Whatever is asked for, a fetch that a server replies to without redirecting it fails just when
its request cannot be prepared, when the status of the reply is one from 400 to 599, or when its
body says something that is no document. An execution that waits for a fetch that fails fails too,
with the drawer and the cached lists as they were and no toast but its error. Otherwise it
completes, whatever the status was. -/
theorem execution_over_http_fails_iff (origin : Origin) (text : String) (request : Request)
    (reply : HttpReply) :
    let network : Network := fun _ _ => .ok reply
    let fetched := (origin.fetch network text request).2
    ((∀ sent, origin.prepare text request = .ok sent → sent.redirected? reply = none) →
      ((∃ e, fetched = .error e) ↔
        (∃ e, origin.prepare text request = .error e) ∨ reply.Refuses ∨ reply.Garbled)) ∧
    (reply.Refuses → ∀ sent, origin.prepare text request = .ok sent →
      fetched = .error (.transport (.refused sent.url reply.status reply.reason))) ∧
    ∀ (host : Host) (s : Screen) (n : Nat) (purpose : Purpose), purpose.isExecution = true →
      s.calls.lookup n = some ⟨text, request, purpose⟩ →
      let after := s.step host (.reply n (origin.answer network text request))
      (∀ e, fetched = .error e → Fails host purpose e.chain s after) ∧
      ∀ response, fetched = .ok response →
        Completes host s.baseUrl purpose response s after := by
  intro network fetched
  have received {sent : HttpRequest} (prepared : origin.prepare text request = .ok sent)
      (unfollowed : sent.redirected? reply = none) : fetched = reply.read sent.url :=
    congrArg Prod.snd (Origin.fetch_unfollowed prepared rfl unfollowed)
  refine ⟨fun unfollowed => ?_, fun refuses sent prepared => ?_,
    fun host s n purpose execution waiting => ?_⟩
  · cases prepared : origin.prepare text request with
    | error e =>
        have failed : fetched = .error e := congrArg Prod.snd (Origin.fetch_unprepared prepared)
        simp [failed]
    | ok sent =>
        rw [received prepared (unfollowed sent prepared), HttpReply.read_error_iff]
        simp
  · rw [received prepared refuses.unfollowed, HttpReply.read_of_refuses refuses]
  · refine ⟨fun e failed => ?_, fun response succeeded => ?_⟩
    · rw [Origin.answer_of_error failed]
      exact fails_reply host waiting
    · rw [Origin.answer_of_ok succeeded]
      exact completes_reply host waiting execution

def saveRequest : Request := ⟨"PUT", some (.object (Record.contact "1" "Anna"))⟩

theorem saving_waits :
    (run .plain (ofSchema .contacts) (listed ++ [saving])).calls.lookup 1 =
      some ⟨"/api/contacts/1", saveRequest,
        .execution (some ⟨some "Saved", some "Could not save"⟩)⟩ := by
  have url : Endpoint.url ⟨"PUT", ":id"⟩ "/api/contacts" (some (Record.contact "1" "Ann")) =
      "/api/contacts/1" := by decide +kernel
  rw [← url]
  rfl

def answeredSave (origin : Origin) (reply : HttpReply) : Stepped :=
  (run .plain (ofSchema .contacts) (listed ++ [saving])).step .plain
    (.reply 1 (origin.answer (fun _ _ => .ok reply) "/api/contacts/1" saveRequest))

theorem save_of_missing_contact_fails :
    Origin.ofText "http://localhost:8080" = .ok .localhost ∧
      (answeredSave .localhost ⟨404, "Not Found", [], none⟩).toasts = [⟨.error, "Could not save"⟩] ∧
      (answeredSave .localhost ⟨404, "Not Found", [], none⟩).screen.drawer =
        .opened "edit" (some (Record.contact "1" "Ann")) := by
  obtain ⟨refused, -, ending⟩ := execution_over_http_fails_iff .localhost "/api/contacts/1"
    saveRequest ⟨404, "Not Found", [], none⟩
  obtain ⟨e, failed⟩ := (refused fun sent _ => HttpRequest.redirected?_eq_none (by decide)).mpr
    (.inr (.inl ⟨by decide, by decide⟩))
  obtain ⟨fails, -⟩ := ending .plain _ 1 _ rfl saving_waits
  exact ⟨rfl, (fails e failed).toasts_eq, (fails e failed).undisturbed.drawer_eq⟩

/-- A page that was not modified is taken for the saved contact: the save completes, with its toast,
and the cached list is gone. -/
theorem unmodified_reply_completes_save :
    Origin.ofText "http://localhost:8080" = .ok .localhost ∧
      (Origin.localhost.fetch (fun _ _ => .ok ⟨304, "Not Modified", [], none⟩) "/api/contacts/1"
        saveRequest).2 = .ok .empty ∧
      (answeredSave .localhost ⟨304, "Not Modified", [], none⟩).toasts = [⟨.success, "Saved"⟩] ∧
      (answeredSave .localhost ⟨304, "Not Modified", [], none⟩).screen.cache.get? "/api/contacts" =
        none := by
  have prepared : Origin.localhost.prepare "/api/contacts/1" saveRequest =
      .ok ⟨"PUT", { Origin.localhost.url with path := .rooted "/api/contacts/1".toList },
        some (Json.object (Record.contact "1" "Anna")).text⟩ := rfl
  have fetched : (Origin.localhost.fetch (fun _ _ => .ok ⟨304, "Not Modified", [], none⟩)
      "/api/contacts/1" saveRequest).2 = .ok .empty := by
    rw [Origin.fetch_unfollowed prepared rfl (HttpRequest.redirected?_eq_none (by decide))]
    rfl
  have completed : Completes .plain _ _ .empty _ _ := completes_reply .plain saving_waits rfl
  refine ⟨rfl, fetched, ?_⟩
  rw [answeredSave, Origin.answer_of_ok fetched]
  exact ⟨completed.toasts_eq, completed.dropped _ (.inl rfl)⟩

end Screen

end DeclaredScreens
