import DeclaredScreens.CommandLine.Commands
import DeclaredScreens.Proofs.PlayedRuns

/-! Where a request goes from redirect to redirect. A delivery ends with the first answer that
leads nowhere, or when there were too many that do; every request but the first is the one that the
reply to the request before it leads to. On the command line a call is delivered in the same way,
and the run goes on with what came of it. -/

namespace DeclaredScreens

def HttpReply.Redirects (r : HttpReply) : Prop :=
  r.status ∈ HttpRequest.redirections ∧ r.location ≠ none

namespace HttpRequest

variable {sent next : HttpRequest} {reply : HttpReply} {answer : HttpAnswer}

theorem redirects_of_redirected? (leads : sent.redirected? reply = some next) :
    reply.Redirects := by
  unfold redirected? at leads
  split at leads
  · next redirecting =>
      refine ⟨redirecting, fun pointless => ?_⟩
      simp [pointless] at leads
  · cases leads

theorem redirected?_eq_none (here : reply.status ∉ redirections) :
    sent.redirected? reply = none := if_neg here

theorem progress_of_unfollowed (unfollowed : sent.redirected? reply = none) :
    sent.progress (.ok reply) = .settled (reply.read sent.url) := by
  simp only [progress, unfollowed]

theorem checked_eq_ok (accepted : sent.checked = .ok next) : next = sent := by
  unfold checked at accepted
  split at accepted
  · cases accepted
  · split at accepted <;> cases accepted
    rfl

theorem progress_of_redirected (redirected : sent.redirected? reply = some next) :
    sent.progress (.ok reply) = .onward next ∨
      ∃ e, sent.progress (.ok reply) = .settled (.error (.transport e)) := by
  simp only [progress, redirected]
  cases accepted : next.checked with
  | ok other =>
      obtain rfl := checked_eq_ok accepted
      exact .inl rfl
  | error e => exact .inr ⟨e, rfl⟩

theorem reply_of_onward (leads : sent.progress answer = .onward next) :
    ∃ reply, answer = .ok reply ∧ reply.Redirects ∧ sent.redirected? reply = some next := by
  unfold progress at leads
  split at leads
  · cases leads
  · next reply =>
      split at leads
      · cases leads
      · next target redirected =>
          split at leads
          · next accepted =>
              cases leads
              obtain rfl := checked_eq_ok accepted
              exact ⟨reply, rfl, redirects_of_redirected? redirected, redirected⟩
          · cases leads

end HttpRequest

namespace Network

/-- What a delivery sends and comes to, when so many redirects may be followed. -/
inductive Delivers : Network → Nat → HttpRequest →
    List HttpRequest × Except FetchError Response → Prop
  | settled {network : Network} {sent : HttpRequest} (hops : Nat)
      {result : Except FetchError Response}
      (settles : sent.progress (network 0 sent) = .settled result) :
      Delivers network hops sent ([sent], result)
  | exhausted {network : Network} {sent next : HttpRequest}
      (leads : sent.progress (network 0 sent) = .onward next) :
      Delivers network 0 sent ([sent], .error (.transport (.tooManyRedirects sent.url)))
  | onward {network : Network} {hops : Nat} {sent next : HttpRequest}
      {delivered : List HttpRequest × Except FetchError Response}
      (leads : sent.progress (network 0 sent) = .onward next)
      (later : Delivers (network.after 1) hops next delivered) :
      Delivers network (hops + 1) sent (sent :: delivered.1, delivered.2)

theorem deliver_settled {network : Network} {hops : Nat} {sent : HttpRequest}
    {result : Except FetchError Response}
    (settles : sent.progress (network 0 sent) = .settled result) :
    network.deliver hops sent = ([sent], result) := by
  cases hops <;> simp only [deliver, HttpRequest.unfollowed, settles]

theorem delivers_deliver (network : Network) (hops : Nat) (sent : HttpRequest) :
    Delivers network hops sent (network.deliver hops sent) := by
  induction hops generalizing network sent with
  | zero =>
      rw [deliver, HttpRequest.unfollowed]
      split
      · next settles => exact .settled 0 settles
      · next leads => exact .exhausted leads
  | succ hops ih =>
      rw [deliver]
      split
      · next settles => exact .settled (hops + 1) settles
      · next leads => exact .onward leads (ih (network.after 1) _)

/-- Is every request but the first the one that the reply to the request before it leads to? -/
def LeadsThrough (network : Network) (requests : List HttpRequest) : Prop :=
  ∀ n next, requests[n + 1]? = some next → ∃ sent reply, requests[n]? = some sent ∧
    network n sent = .ok reply ∧ reply.Redirects ∧ sent.redirected? reply = some next

namespace Delivers

variable {network : Network} {hops : Nat} {sent : HttpRequest}
  {delivered : List HttpRequest × Except FetchError Response}

theorem head?_eq (delivers : Delivers network hops sent delivered) :
    delivered.1.head? = some sent := by
  cases delivers <;> rfl

theorem length_le (delivers : Delivers network hops sent delivered) :
    delivered.1.length ≤ hops + 1 := by
  induction delivers with
  | settled hops settles => exact Nat.le_add_left 1 hops
  | exhausted leads => exact Nat.le_refl 1
  | onward leads later ih => exact Nat.succ_le_succ ih

theorem leadsThrough (delivers : Delivers network hops sent delivered) :
    network.LeadsThrough delivered.1 := by
  induction delivers with
  | settled hops settles => exact nofun
  | exhausted leads => exact nofun
  | @onward network hops sent next delivered leads later ih =>
      rintro (_ | n) request found
      · obtain ⟨reply, answered, redirects, redirected⟩ := HttpRequest.reply_of_onward leads
        rw [List.getElem?_cons_succ, ← List.head?_eq_getElem?, later.head?_eq] at found
        cases found
        exact ⟨sent, reply, rfl, answered, redirects, redirected⟩
      · exact ih n request found

theorem settles (delivers : Delivers network hops sent delivered) {n : Nat} {request : HttpRequest}
    {result : Except FetchError Response} (found : delivered.1[n]? = some request)
    (settles : request.progress (network n request) = .settled result) :
    delivered.1.length = n + 1 ∧ delivered.2 = result := by
  -- One answer settles a request or leads it on, so the request that settles is the last.
  induction delivers generalizing n with
  | settled hops made =>
      cases n <;> cases found
      exact ⟨rfl, HttpRequest.Progress.settled.inj (made.symm.trans settles)⟩
  | exhausted leads =>
      cases n <;> cases found
      cases leads.symm.trans settles
  | onward leads later ih =>
      cases n with
      | zero =>
          cases found
          cases leads.symm.trans settles
      | succ n =>
          obtain ⟨length, result⟩ := ih found settles
          exact ⟨congrArg (· + 1) length, result⟩

theorem onward_or_exhausted (delivers : Delivers network hops sent delivered) {n : Nat}
    {request next : HttpRequest} (found : delivered.1[n]? = some request)
    (leads : request.progress (network n request) = .onward next) :
    delivered.1[n + 1]? = some next ∨ delivered.1.length = n + 1 ∧
      delivered.2 = .error (.transport (.tooManyRedirects request.url)) := by
  induction delivers generalizing n with
  | settled hops settles =>
      cases n <;> cases found
      cases settles.symm.trans leads
  | exhausted onward =>
      cases n <;> cases found
      exact .inr ⟨rfl, rfl⟩
  | onward onward later ih =>
      cases n with
      | zero =>
          cases found
          cases onward.symm.trans leads
          refine .inl ?_
          rw [List.getElem?_cons_succ, ← List.head?_eq_getElem?, later.head?_eq]
      | succ n => exact (ih found leads).imp id (.imp_left (congrArg (· + 1)))

/-- A reply that redirects a request is followed, or the delivery fails with it. -/
theorem follows_or_fails (delivers : Delivers network hops sent delivered) {n : Nat}
    {request next : HttpRequest} {reply : HttpReply} (found : delivered.1[n]? = some request)
    (replied : network n request = .ok reply) (redirected : request.redirected? reply = some next) :
    delivered.1[n + 1]? = some next ∨
      delivered.1.length = n + 1 ∧ ∃ e, delivered.2 = .error (.transport e) := by
  rcases HttpRequest.progress_of_redirected redirected with leads | ⟨e, settled⟩
  · exact (delivers.onward_or_exhausted found (replied ▸ leads)).imp id (.imp_right fun e => ⟨_, e⟩)
  · exact .inr ((delivers.settles found (replied ▸ settled)).imp id fun failed => ⟨e, failed⟩)

end Delivers

theorem LeadsThrough.length_le_one {network : Network} {requests : List HttpRequest}
    (leads : network.LeadsThrough requests)
    (unredirected : ∀ sent reply, network 0 sent = .ok reply → ¬reply.Redirects) :
    requests.length ≤ 1 := by
  refine Nat.not_lt.mp fun more => ?_
  obtain ⟨sent, reply, -, replied, redirects, -⟩ := leads 0 _ (List.getElem?_eq_getElem more)
  exact unredirected sent reply replied redirects

end Network

namespace Origin

variable {origin : Origin} {network : Network} {text : String} {request : Request}

theorem fetch_unprepared {e : FetchError} (unprepared : origin.prepare text request = .error e) :
    origin.fetch network text request = ([], .error e) := by
  simp only [fetch, unprepared]

theorem fetch_prepared {sent : HttpRequest} (prepared : origin.prepare text request = .ok sent) :
    origin.fetch network text request = network.deliver Network.maxRedirects sent := by
  simp only [fetch, prepared]

theorem fetch_unfollowed {sent : HttpRequest} {reply : HttpReply}
    (prepared : origin.prepare text request = .ok sent) (replied : network 0 sent = .ok reply)
    (unfollowed : sent.redirected? reply = none) :
    origin.fetch network text request = ([sent], reply.read sent.url) := by
  refine (fetch_prepared prepared).trans (Network.deliver_settled ?_)
  rw [replied, HttpRequest.progress_of_unfollowed unfollowed]

theorem delivers_fetch {sent : HttpRequest} (prepared : origin.prepare text request = .ok sent) :
    network.Delivers Network.maxRedirects sent (origin.fetch network text request) :=
  fetch_prepared prepared ▸ network.delivers_deliver Network.maxRedirects sent

theorem head?_fetch {sent : HttpRequest} :
    (origin.fetch network text request).1.head? = some sent ↔
      origin.prepare text request = .ok sent := by
  cases prepared : origin.prepare text request with
  | error e => simp [fetch_unprepared prepared]
  | ok own => simp [(delivers_fetch prepared).head?_eq]

theorem length_fetch_le (origin : Origin) (network : Network) (text : String) (request : Request) :
    (origin.fetch network text request).1.length ≤ Network.maxRedirects + 1 := by
  cases prepared : origin.prepare text request with
  | error e => simp [fetch_unprepared prepared]
  | ok sent => exact (delivers_fetch prepared).length_le

theorem fetch_leadsThrough (origin : Origin) (network : Network) (text : String)
    (request : Request) : network.LeadsThrough (origin.fetch network text request).1 := by
  cases prepared : origin.prepare text request with
  | error e => simp [fetch_unprepared prepared, Network.LeadsThrough]
  | ok sent => exact (delivers_fetch prepared).leadsThrough

end Origin

namespace Session

open Run

variable {network : Network} {input : String} {next : Reply → Run}

theorem play_deliver {hops : Nat} {sent : HttpRequest}
    {delivered : List HttpRequest × Except FetchError Response}
    (delivers : network.Delivers hops sent delivered) :
    let report := play input (network.after delivered.1.length) (next (replyOf delivered.2))
    play input network (deliver next hops sent) =
      { report with requests := delivered.1 ++ report.requests } := by
  induction delivers with
  | settled hops settles =>
      cases hops <;> simp only [deliver, play, HttpRequest.unfollowed, settles] <;> rfl
  | exhausted leads => simp only [deliver, play, HttpRequest.unfollowed, leads]; rfl
  | onward leads later ih => simp only [deliver, play, leads, ih]; rfl

theorem shown_deliver {hops : Nat} {sent : HttpRequest}
    {delivered : List HttpRequest × Except FetchError Response}
    (delivers : network.Delivers hops sent delivered) :
    shown input network (deliver next hops sent) =
      shown input (network.after delivered.1.length) (next (replyOf delivered.2)) := by
  induction delivers with
  | settled hops settles =>
      cases hops <;> simp only [deliver, shown, HttpRequest.unfollowed, settles] <;> rfl
  | exhausted leads => simp only [deliver, shown, HttpRequest.unfollowed, leads]; rfl
  | onward leads later ih => simp only [deliver, shown, leads, ih]; rfl

variable (session : Session) (call : Call)

/-- On the command line a call is one fetch, and its reply is what the run goes on with. -/
theorem play_exchange :
    let fetched := session.origin.fetch network call.url call.request
    let report := play input (network.after fetched.1.length) (next (replyOf fetched.2))
    play input network (session.exchange call next) =
      { report with requests := fetched.1 ++ report.requests } := by
  cases prepared : session.origin.prepare call.url call.request with
  | error e => simp only [exchange, prepared, Origin.fetch_unprepared prepared]; rfl
  | ok sent =>
      simp only [exchange, prepared]
      exact play_deliver (Origin.delivers_fetch prepared)

theorem shown_exchange :
    let fetched := session.origin.fetch network call.url call.request
    shown input network (session.exchange call next) =
      shown input (network.after fetched.1.length) (next (replyOf fetched.2)) := by
  cases prepared : session.origin.prepare call.url call.request with
  | error e => simp only [exchange, prepared, Origin.fetch_unprepared prepared]; rfl
  | ok sent =>
      simp only [exchange, prepared]
      exact shown_deliver (Origin.delivers_fetch prepared)

end Session

end DeclaredScreens
