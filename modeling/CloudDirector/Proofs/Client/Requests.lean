import CloudDirector.Client.Exchange
import CloudDirector.Proofs.Payload.Walks

/-!
# The requests of one call

A call sends a request of its own, and one more for each reply that leads on: a reply of success in
the second dialect whose body can be read and whose headers point at a task.  Asking for that task
is a call again, so that its reply may lead on as well.  The requests of a call form a trail through
the replies, which `trail_call` gives by induction on what arrives; how long it is depends on the
server alone.
-/

namespace CloudDirector

namespace Client

variable {c : Client} {request : CallRequest} {arrivals left : List Arrival} {p : Prepared}
  {reply : Reply} {href : String} {sent : List SentRequest}

/-! ## Requests that are ready to be sent -/

/-- A request is ready to be sent when its address is read and belongs to a dialect, what is
expected is known, and its headers and body can be made. -/
lemma prepare_eq_ok_iff :
    c.prepare request = .ok p ↔ ∃ url headers body,
      readAddress request.address = .ok url ∧ Dialect.ofUrl url = .ok p.dialect ∧
      c.expectedTarget request.expects = .ok p.target ∧
      c.contents request p.dialect (url.appendPairs request.query) = .ok (headers, body) ∧
      p.request =
        { method := request.method, url := url.appendPairs request.query, headers, body } := by
  constructor
  · intro h
    obtain ⟨url, hurl, h⟩ := Result.bind_eq_ok.1 h
    obtain ⟨dialect, hdialect, h⟩ := Result.bind_eq_ok.1 h
    obtain ⟨target, htarget, h⟩ := Result.bind_eq_ok.1 h
    obtain ⟨⟨headers, body⟩, hcontents, h⟩ := Result.bind_eq_ok.1 h
    cases h
    exact ⟨url, headers, body, hurl, hdialect, htarget, hcontents, rfl⟩
  · rintro ⟨url, headers, body, hurl, hdialect, htarget, hcontents, hrequest⟩
    obtain ⟨dialect, target, sent⟩ := p
    obtain rfl : sent = _ := hrequest
    refine Result.bind_eq_ok.2 ⟨url, hurl, Result.bind_eq_ok.2 ⟨dialect, hdialect, ?_⟩⟩
    exact Result.bind_eq_ok.2 ⟨target, htarget, Result.bind_eq_ok.2 ⟨_, hcontents, rfl⟩⟩

/-! ## One reply -/

/-- The reply leads on to a task: its body can be read, and it points at the task. -/
def LeadsOn (c : Client) (p : Prepared) (reply : Reply) (href : String) : Prop :=
  (∃ output, (c.output reply p.target).1 = .ok output) ∧ taskAddress? p.dialect reply = some href

lemma taskAddress?_eq_some_iff {dialect : Dialect} :
    taskAddress? dialect reply = some href ↔
      dialect = .cloudApi ∧ reply.isSuccess = true ∧
        reply.headers.text? "location" = some href := by
  cases dialect with
  | api => simp [taskAddress?]
  | cloudApi => cases hsuccess : reply.isSuccess <;> simp [taskAddress?, hsuccess]

lemma call_of_refused {r : Report} (h : c.prepare request = .error r) :
    c.call arrivals request = { result := .error r, left := arrivals } := by
  cases arrivals <;> rw [call, h]

lemma call_of_unanswered (h : c.prepare request = .ok p)
    (hnone : ∀ reply left, arrivals ≠ .reply reply :: left) :
    (c.call arrivals request).sent = [p.request] := by
  cases arrivals with
  | nil => rw [call, h]; rfl
  | cons arrival left =>
    cases arrival with
    | failure reason => rw [call, h]; rfl
    | reply reply => exact absurd rfl (hnone reply left)

lemma sent_of_unread {r : Report} (h : c.prepare request = .ok p)
    (hout : (c.output reply p.target).1 = .error r) :
    (c.call (.reply reply :: left) request).sent = [p.request] := by
  have hpair : c.output reply p.target = (.error r, (c.output reply p.target).2) :=
    Prod.ext hout rfl
  rw [call, h]
  simp only
  rw [hpair]
  simp only [Result.passing]

/-- A reply that is read and does not lead on makes the envelope. -/
lemma call_of_read (left : List Arrival) {o : Output} (h : c.prepare request = .ok p)
    (hout : (c.output reply p.target).1 = .ok o) (hnone : taskAddress? p.dialect reply = none) :
    (c.call (.reply reply :: left) request).result = .ok {
        status := reply.status
        headers := reply.headers
        links := (c.links p.dialect reply.headers o).1
        task := match p.dialect with
          | .api => (c.bodyTask o).1
          | .cloudApi => none
        output := o } ∧
      (c.call (.reply reply :: left) request).sent = [p.request] ∧
      (c.call (.reply reply :: left) request).left = left := by
  have hpair : c.output reply p.target = (.ok o, (c.output reply p.target).2) := Prod.ext hout rfl
  rw [call, h]
  simp only
  rw [hpair]
  simp only [Result.passing, hnone]
  cases p.dialect <;> simp

/-- A reply that leads on is followed by the requests of asking for the task. -/
lemma sent_of_leadsOn (h : c.prepare request = .ok p) (hleads : c.LeadsOn p reply href) :
    (c.call (.reply reply :: left) request).sent =
      p.request :: (c.call left (taskRequest href)).sent := by
  obtain ⟨⟨o, hout⟩, hhref⟩ := hleads
  have hpair : c.output reply p.target = (.ok o, (c.output reply p.target).2) := Prod.ext hout rfl
  rw [call, h]
  simp only
  rw [hpair]
  simp only [Result.passing, hhref]
  split <;> rfl

/-- Without a reply that leads on, a call sends its own request only. -/
lemma sent_of_not_leadsOn (h : c.prepare request = .ok p)
    (hends : ∀ reply left href, arrivals = .reply reply :: left → ¬ c.LeadsOn p reply href) :
    (c.call arrivals request).sent = [p.request] := by
  by_cases hreply : ∃ reply left, arrivals = .reply reply :: left
  · obtain ⟨reply, left, rfl⟩ := hreply
    cases hout : (c.output reply p.target).1 with
    | error r => exact sent_of_unread h hout
    | ok o =>
      cases hhref : taskAddress? p.dialect reply with
      | none => exact (call_of_read left h hout hhref).2.1
      | some href => exact absurd ⟨⟨o, hout⟩, hhref⟩ (hends reply left href rfl)
  · exact call_of_unanswered h fun reply left heq => hreply ⟨reply, left, heq⟩

/-! ## The trail of a call -/

/-- The requests that a call sends through the arrivals: none if it is refused, its own one, and
after a reply that leads on those of asking for the task. -/
inductive Trail (c : Client) : List Arrival → CallRequest → List SentRequest → Prop
  | refused {arrivals : List Arrival} {request : CallRequest} {r : Report}
      (h : c.prepare request = .error r) : Trail c arrivals request []
  | last {arrivals : List Arrival} {request : CallRequest} {p : Prepared}
      (h : c.prepare request = .ok p)
      (ends : ∀ reply left href, arrivals = .reply reply :: left → ¬ c.LeadsOn p reply href) :
      Trail c arrivals request [p.request]
  | next {reply : Reply} {left : List Arrival} {request : CallRequest} {p : Prepared}
      {href : String} {sent : List SentRequest} (h : c.prepare request = .ok p)
      (leads : c.LeadsOn p reply href) (rest : Trail c left (taskRequest href) sent) :
      Trail c (.reply reply :: left) request (p.request :: sent)

/-- The requests of a call form a trail. -/
lemma trail_call (c : Client) (arrivals : List Arrival) (request : CallRequest) :
    c.Trail arrivals request (c.call arrivals request).sent := by
  induction arrivals generalizing request with
  | nil =>
    cases h : c.prepare request with
    | error r =>
      rw [call_of_refused h]
      exact .refused h
    | ok p =>
      have hends : ∀ reply left href, ([] : List Arrival) = .reply reply :: left →
          ¬ c.LeadsOn p reply href := by
        rintro _ _ _ ⟨⟩
      rw [sent_of_not_leadsOn h hends]
      exact .last h hends
  | cons arrival left ih =>
    cases h : c.prepare request with
    | error r =>
      rw [call_of_refused h]
      exact .refused h
    | ok p =>
      by_cases hleads : ∃ reply href, arrival = .reply reply ∧ c.LeadsOn p reply href
      · obtain ⟨reply, href, rfl, hleads⟩ := hleads
        rw [sent_of_leadsOn h hleads]
        exact .next h hleads (ih _)
      · have hends : ∀ reply left' href, arrival :: left = .reply reply :: left' →
            ¬ c.LeadsOn p reply href := by
          rintro reply _ href ⟨⟩ hon
          exact hleads ⟨reply, href, rfl, hon⟩
        rw [sent_of_not_leadsOn h hends]
        exact .last h hends

/-- Each request but the last one has been answered. -/
lemma Trail.length_le (h : c.Trail arrivals request sent) : sent.length ≤ arrivals.length + 1 := by
  induction h with
  | refused => exact Nat.zero_le _
  | last => exact Nat.le_add_left _ _
  | next _ _ _ ih => exact Nat.succ_le_succ ih

/-- The requests that may be sent where only one task is asked for: none, the one of the call, and
after a reply of success in the second dialect with an address of a task a `GET` for that task. -/
inductive FollowsOnce (c : Client) : List Arrival → CallRequest → List SentRequest → Prop
  | nothing {arrivals : List Arrival} {request : CallRequest} : FollowsOnce c arrivals request []
  | alone {arrivals : List Arrival} {request : CallRequest} {p : Prepared}
      (h : c.prepare request = .ok p) : FollowsOnce c arrivals request [p.request]
  | once {reply : Reply} {left : List Arrival} {request : CallRequest} {p q : Prepared}
      {href : String} (h : c.prepare request = .ok p) (dialect : p.dialect = .cloudApi)
      (success : reply.isSuccess = true) (location : reply.headers.text? "location" = some href)
      (h' : c.prepare (taskRequest href) = .ok q) (method : q.request.method = .get)
      (address : readAddress href = .ok q.request.url) :
      FollowsOnce c (.reply reply :: left) request [p.request, q.request]

/-- The first two replies both lead on, the second one to a request that can be sent. -/
inductive LeadsOnTwice (c : Client) : List Arrival → CallRequest → Prop
  | mk {first second : Reply} {left : List Arrival} {request : CallRequest} {p q r : Prepared}
      {href href' : String} (h : c.prepare request = .ok p) (leads : c.LeadsOn p first href)
      (h' : c.prepare (taskRequest href) = .ok q) (leads' : c.LeadsOn q second href')
      (h'' : c.prepare (taskRequest href') = .ok r) :
      LeadsOnTwice c (.reply first :: .reply second :: left) request

lemma FollowsOnce.length_le (h : c.FollowsOnce arrivals request sent) : sent.length ≤ 2 := by
  cases h <;> simp

lemma LeadsOn.unique {href' : String} (h : c.LeadsOn p reply href)
    (h' : c.LeadsOn p reply href') : href = href' := Option.some.inj (h.2.symm.trans h'.2)

/-- The one request after a reply that leads on asks for the task. -/
lemma FollowsOnce.of_leadsOn {q : Prepared} (h : c.prepare request = .ok p)
    (hleads : c.LeadsOn p reply href) (hq : c.prepare (taskRequest href) = .ok q) :
    c.FollowsOnce (.reply reply :: left) request [p.request, q.request] := by
  obtain ⟨hdialect, hsuccess, hlocation⟩ := taskAddress?_eq_some_iff.1 hleads.2
  obtain ⟨url, headers, body, hurl, -, -, -, hrequest⟩ := prepare_eq_ok_iff.1 hq
  have hmethod : q.request.method = .get := by rw [hrequest]; rfl
  have haddress : readAddress href = .ok q.request.url := by rw [hrequest]; exact hurl
  exact .once h hdialect hsuccess hlocation hq hmethod haddress

/-- A trail asks for one task, unless two replies in a row lead on. -/
lemma Trail.followsOnce_iff (h : c.Trail arrivals request sent) :
    c.FollowsOnce arrivals request sent ↔ ¬ c.LeadsOnTwice arrivals request := by
  cases h with
  | refused h =>
    refine iff_of_true .nothing ?_
    rintro ⟨h', -⟩
    rw [h] at h'
    cases h'
  | last h ends =>
    refine iff_of_true (.alone h) ?_
    rintro ⟨h', leads, -⟩
    obtain rfl := Except.ok.inj (h.symm.trans h')
    exact ends _ _ _ rfl leads
  | @next reply left request p href sent h leads rest =>
    cases rest with
    | refused hq =>
      refine iff_of_true (.alone h) ?_
      rintro ⟨h', leads', hq', -⟩
      obtain rfl := Except.ok.inj (h.symm.trans h')
      obtain rfl := leads.unique leads'
      rw [hq] at hq'
      cases hq'
    | last hq ends =>
      refine iff_of_true (.of_leadsOn h leads hq) ?_
      rintro ⟨h', leads', hq', leads'', -⟩
      obtain rfl := Except.ok.inj (h.symm.trans h')
      obtain rfl := leads.unique leads'
      obtain rfl := Except.ok.inj (hq.symm.trans hq')
      exact ends _ _ _ rfl leads''
    | @next reply' left' _ q href' sent' hq leads' rest' =>
      -- a third request is sent exactly if asking for the second task is not refused
      cases rest' with
      | refused hr =>
        refine iff_of_true (.of_leadsOn h leads hq) ?_
        rintro ⟨h', hon, hq', hon', hr'⟩
        obtain rfl := Except.ok.inj (h.symm.trans h')
        obtain rfl := leads.unique hon
        obtain rfl := Except.ok.inj (hq.symm.trans hq')
        obtain rfl := leads'.unique hon'
        rw [hr] at hr'
        cases hr'
      | last hr _ =>
        refine iff_of_false (fun honce => absurd honce.length_le (by simp)) ?_
        exact not_not_intro (.mk h leads hq leads' hr)
      | next hr _ _ =>
        refine iff_of_false (fun honce => absurd honce.length_le (by simp)) ?_
        exact not_not_intro (.mk h leads hq leads' hr)

/-- The requests of a call form a trail through the arrivals, at most one longer than these.  There
is at most one request besides that of the call itself, unless the reply to asking for the task
leads on as well. -/
theorem sent_call (c : Client) (arrivals : List Arrival) (request : CallRequest) :
    c.Trail arrivals request (c.call arrivals request).sent ∧
    (c.call arrivals request).sent.length ≤ arrivals.length + 1 ∧
    (c.FollowsOnce arrivals request (c.call arrivals request).sent ↔
      ¬ c.LeadsOnTwice arrivals request) := by
  have htrail := trail_call c arrivals request
  exact ⟨htrail, htrail.length_le, htrail.followsOnce_iff⟩

/-! ### A task that points at another one -/

/-- A client of the built-in types. -/
def builtin : Client := { registry := Builtin.registry }

namespace Relay

/-- The address of a task. -/
def address (task : String) : String := "https://h/cloudapi/task/" ++ task

/-- The body of a task. -/
def body (task : String) : List UInt8 :=
  ("\x7b\"href\":\"" ++ address task ++ "\"\x7d").toUTF8.toList

/-- A request of the second dialect. -/
def posted : CallRequest := { method := .post, address := "https://h/cloudapi/orgs" }

/-- What arrives: an accepted request that points at a task, the task, which points at another one,
and that one. -/
def replies : List Arrival := [
  .reply { status := 202, headers := [("location", address "1")] },
  .reply { headers := [("location", address "2")], body := body "1" },
  .reply { body := body "2" }]

/-- The call sends three requests. -/
theorem not_followsOnce_relay :
    ((builtin.call replies posted).sent.map fun r => (r.method, r.url.render)) =
        [(.post, "https://h/cloudapi/orgs"), (.get, address "1"),
          (.get, address "2")] ∧
      ¬ builtin.FollowsOnce replies posted (builtin.call replies posted).sent := by
  have hsent : ((builtin.call replies posted).sent.map fun r => (r.method, r.url.render)) =
      [(.post, "https://h/cloudapi/orgs"), (.get, address "1"),
        (.get, address "2")] := by
    decide +kernel
  refine ⟨hsent, fun honce => ?_⟩
  have hlength := congrArg List.length hsent
  rw [List.length_map] at hlength
  have hle := honce.length_le
  rw [hlength] at hle
  exact absurd hle (by decide)

end Relay

end Client

end CloudDirector
