import Mathlib
import SchemaDrift.Diff.Engine
import SchemaDrift.Proofs.Intercept.Wire

/-!
# An interceptor is heeded entirely or not at all

What comes of asking an interceptor is one of three things: it answers, it fails, or the whole
comparison is cancelled.  An answer takes effect as a whole; a failure leaves nothing behind.

* `Interceptor.Answers`, `Interceptor.Fails`, `Interceptor.Cancels` — the three.
* `Interceptor.intercept_of_answers`, `Interceptor.intercept_of_fails`,
  `Interceptor.intercept_of_cancels` — what holds after each of them.
* `Interceptor.error_status_keeps_changes` — the statuses that an answer of a service must not
  have.
* `DiffResult.Heeds` — a result in which an answer took effect.
* `heeded_entirely_or_not_at_all` — comparisons with an interceptor.
-/

namespace SchemaDrift

variable {seconds : Double} {changes : List Change}

namespace Interceptor

/-! ## What comes of asking -/

/-- The comparison is cancelled while the interceptor is asked. -/
inductive Cancels (seconds : Double) (changes : List Change) : Interceptor → Prop where
  | function {answer : List Change → Option Reply} (htime : seconds.isPositive = true)
      (h : answer changes = none) : Cancels seconds changes (.function answer)

/-- The interceptor answers about the changes, in time and in good order. -/
inductive Answers (seconds : Double) (changes : List Change) : Interceptor → Response → Prop where
  | function {answer : List Change → Option Reply} {response : Response}
      (htime : seconds.isPositive = true) (h : answer changes = some (.response response)) :
      Answers seconds changes (.function answer) response
  | service {endpoint : String} {send : Request → Delivery} {address : Address}
      {payloads : List Payload} {status : Nat} {body : ByteArray} {response : Response}
      (htime : seconds.isPositive = true) (haddress : Address.ofText? endpoint = some address)
      (habsolute : address.isAbsolute = true)
      (hchanges : Payload.ofChanges changes = .ok payloads)
      (h : send { body := Payload.request payloads } = .answered status body)
      (hstatus : ¬ (400 ≤ status ∧ status ≤ 599)) (hbody : response.SentAs body) :
      Answers seconds changes (.service endpoint send) response

/-- Something goes wrong with asking the interceptor about the changes. -/
inductive Fails (seconds : Double) (changes : List Change) : Interceptor → Prop where
  /-- There is no time to ask in. -/
  | noTime {interceptor : Interceptor} (h : seconds.isPositive = false) :
      Fails seconds changes interceptor
  /-- A function gives up, or is late. -/
  | raised {answer : List Change → Option Reply} {reply : Reply} (h : answer changes = some reply)
      (hreply : ∀ response, reply ≠ .response response) : Fails seconds changes (.function answer)
  /-- A change has parts that cannot be sent. -/
  | unsendable {endpoint : String} {send : Request → Delivery} {change : Change}
      (h : change ∈ changes) (hparts : ∀ payload : Payload, ¬ payload.Conveys change) :
      Fails seconds changes (.service endpoint send)
  /-- The endpoint is no address. -/
  | unaddressed {endpoint : String} {send : Request → Delivery}
      (h : Address.ofText? endpoint = none) : Fails seconds changes (.service endpoint send)
  /-- The endpoint does not say enough to send a request to. -/
  | relative {endpoint : String} {send : Request → Delivery} {address : Address}
      (h : Address.ofText? endpoint = some address) (habsolute : address.isAbsolute = false) :
      Fails seconds changes (.service endpoint send)
  /-- The request does not reach the service, or no answer comes back. -/
  | undelivered {endpoint : String} {send : Request → Delivery} {payloads : List Payload}
      {reason : String} (hchanges : Payload.ofChanges changes = .ok payloads)
      (h : send { body := Payload.request payloads } = .failed reason) :
      Fails seconds changes (.service endpoint send)
  /-- The time is up before the answer is there. -/
  | late {endpoint : String} {send : Request → Delivery} {payloads : List Payload}
      (hchanges : Payload.ofChanges changes = .ok payloads)
      (h : send { body := Payload.request payloads } = .late) :
      Fails seconds changes (.service endpoint send)
  /-- The status of the answer is one for errors. -/
  | refused {endpoint : String} {send : Request → Delivery} {payloads : List Payload}
      {status : Nat} {body : ByteArray} (hchanges : Payload.ofChanges changes = .ok payloads)
      (h : send { body := Payload.request payloads } = .answered status body)
      (hstatus : 400 ≤ status ∧ status ≤ 599) : Fails seconds changes (.service endpoint send)
  /-- The body of the answer is none. -/
  | unreadable {endpoint : String} {send : Request → Delivery} {payloads : List Payload}
      {status : Nat} {body : ByteArray} (hchanges : Payload.ofChanges changes = .ok payloads)
      (h : send { body := Payload.request payloads } = .answered status body)
      (hbody : Response.Unreadable body) : Fails seconds changes (.service endpoint send)

/-! ## Services -/

theorem ask_service {endpoint : String} {send : Request → Delivery} {address : Address}
    {payloads : List Payload} (haddress : Address.ofText? endpoint = some address)
    (hchanges : Payload.ofChanges changes = .ok payloads) :
    ((service endpoint send).ask changes).reply =
      some ((send { body := Payload.request payloads }).reply address) := by
  simp only [ask, hchanges, haddress]

/-- What cannot be sent, or has nowhere to be sent to, is not answered. -/
theorem ask_service_unsent {endpoint : String} {send : Request → Delivery}
    (h : (∀ payloads, Payload.ofChanges changes ≠ .ok payloads) ∨
      Address.ofText? endpoint = none) :
    ∃ reply, ((service endpoint send).ask changes).reply = some reply ∧
      ∀ response, reply ≠ .response response := by
  cases hchanges : Payload.ofChanges changes with
  | error faults => exact ⟨.malformed faults, by simp only [ask, hchanges], nofun⟩
  | ok payloads =>
    obtain h | h := h
    · exact absurd hchanges (h payloads)
    · exact ⟨.broken, by simp only [ask, hchanges, h], nofun⟩

end Interceptor

theorem Reply.ofAnswer_eq_response_iff {status : Nat} {body : ByteArray} {response : Response} :
    Reply.ofAnswer status body = .response response ↔
      ¬ (400 ≤ status ∧ status ≤ 599) ∧ response.SentAs body := by
  rw [← Response.ofBytes_eq_ok_iff, Reply.ofAnswer]
  by_cases hstatus : 400 ≤ status ∧ status ≤ 599
  · simp [hstatus]
  · rw [if_neg (by simpa using hstatus)]
    cases Response.ofBytes body <;> simp [hstatus]

/-- Only an answer from an address that says enough, with a status that is none for errors and
a body that is one, is an answer. -/
theorem Delivery.reply_eq_response_iff {address : Address} {delivery : Delivery}
    {response : Response} :
    delivery.reply address = .response response ↔
      ∃ status body, delivery = .answered status body ∧ address.isAbsolute = true ∧
        ¬ (400 ≤ status ∧ status ≤ 599) ∧ response.SentAs body := by
  cases delivery with
  | answered status body =>
    rw [Delivery.reply]
    split
    · rename_i h
      simp [Reply.ofAnswer_eq_response_iff, h]
    · rename_i h
      simp [h]
  | failed reason => simp [Delivery.reply]
  | late => simp [Delivery.reply]

/-- Statuses make no difference but whether they are for errors. -/
theorem Delivery.reply_answered_congr (address : Address) {status other : Nat} (body : ByteArray)
    (hstatus : ¬ (400 ≤ status ∧ status ≤ 599)) (hother : ¬ (400 ≤ other ∧ other ≤ 599)) :
    (Delivery.answered status body).reply address =
      (Delivery.answered other body).reply address := by
  have hanswer : Reply.ofAnswer status body = Reply.ofAnswer other body := by
    rw [Reply.ofAnswer, Reply.ofAnswer, if_neg (by simpa using hstatus),
      if_neg (by simpa using hother)]
  rw [Delivery.reply, Delivery.reply, hanswer]

namespace Interceptor

/-! ## What holds after asking -/

theorem intercept_of_reply {interceptor : Interceptor} {reply : Reply}
    (htime : seconds.isPositive = true) (h : (interceptor.ask changes).reply = some reply) :
    interceptor.intercept seconds changes = some (reply.settle seconds changes) := by
  rw [intercept, askWithin, if_pos htime, h]
  rfl

/-- A reply that is no answer leaves nothing behind but an entry in the log. -/
theorem settle_of_ne_response (seconds : Double) (changes : List Change) {reply : Reply}
    (h : ∀ response, reply ≠ .response response) :
    ∃ reason, reply.settle seconds changes = .keep changes reason := by
  cases reply with
  | response answer => exact absurd rfl (h answer)
  | _ => exact ⟨_, rfl⟩

theorem intercept_of_cancels {interceptor : Interceptor}
    (h : interceptor.Cancels seconds changes) : interceptor.intercept seconds changes = none := by
  cases h with
  | function htime hnone => simp [intercept, askWithin, htime, ask, hnone]

theorem intercept_of_answers {interceptor : Interceptor} {response : Response}
    (h : interceptor.Answers seconds changes response) :
    interceptor.intercept seconds changes = some (.apply changes response) := by
  change _ = some ((Reply.response response).settle seconds changes)
  cases h with
  | function htime hanswer => exact intercept_of_reply htime hanswer
  | service htime haddress habsolute hchanges hsend hstatus hbody =>
    refine intercept_of_reply htime ((ask_service haddress hchanges).trans ?_)
    exact congrArg some (Delivery.reply_eq_response_iff.2 ⟨_, _, hsend, habsolute, hstatus, hbody⟩)

/-- Whatever goes wrong, some reply is there, and it is no answer. -/
theorem exists_reply_of_fails {interceptor : Interceptor} (h : interceptor.Fails seconds changes)
    (htime : seconds.isPositive = true) :
    ∃ reply, (interceptor.ask changes).reply = some reply ∧
      ∀ response, reply ≠ .response response := by
  have hservice : ∀ {endpoint : String} {send : Request → Delivery} {payloads : List Payload},
      Payload.ofChanges changes = .ok payloads →
      (∀ status body, send { body := Payload.request payloads } = .answered status body →
        (400 ≤ status ∧ status ≤ 599) ∨ Response.Unreadable body) →
      ∃ reply, ((service endpoint send).ask changes).reply = some reply ∧
        ∀ response, reply ≠ .response response := by
    intro endpoint send payloads hchanges hbad
    cases haddress : Address.ofText? endpoint with
    | none => exact ask_service_unsent (.inr haddress)
    | some address =>
      refine ⟨_, ask_service haddress hchanges, fun response hresponse => ?_⟩
      obtain ⟨status, body, hsend, -, hstatus, hbody⟩ := Delivery.reply_eq_response_iff.1 hresponse
      obtain hrefused | hunreadable := hbad status body hsend
      · exact hstatus hrefused
      · exact Response.unreadable_iff.1 hunreadable response hbody
  cases h with
  | noTime hnone => rw [htime] at hnone; exact nomatch hnone
  | raised hanswer hreply => exact ⟨_, hanswer, hreply⟩
  | unsendable hmem hparts =>
    refine ask_service_unsent (.inl fun payloads hchanges => ?_)
    obtain ⟨payload, hpayload⟩ :=
      exists_forall₂_iff.1 ⟨payloads, Payload.ofChanges_eq_ok_iff.1 hchanges⟩ _ hmem
    exact hparts payload hpayload
  | unaddressed hnone => exact ask_service_unsent (.inr hnone)
  | @relative endpoint send address haddress habsolute =>
    cases hchanges : Payload.ofChanges changes with
    | error faults =>
      exact ask_service_unsent (.inl fun payloads h => by rw [hchanges] at h; exact nomatch h)
    | ok payloads =>
      refine ⟨_, ask_service haddress hchanges, fun response hresponse => ?_⟩
      obtain ⟨status, body, -, htrue, -⟩ := Delivery.reply_eq_response_iff.1 hresponse
      rw [habsolute] at htrue
      exact nomatch htrue
  | undelivered hchanges hsend => exact hservice hchanges fun _ _ h => nomatch hsend.symm.trans h
  | late hchanges hsend => exact hservice hchanges fun _ _ h => nomatch hsend.symm.trans h
  | refused hchanges hsend hstatus =>
    refine hservice hchanges fun status body h => .inl ?_
    obtain ⟨rfl, -⟩ := Delivery.answered.inj (hsend.symm.trans h)
    exact hstatus
  | unreadable hchanges hsend hbody =>
    refine hservice hchanges fun status body h => .inr ?_
    obtain ⟨-, rfl⟩ := Delivery.answered.inj (hsend.symm.trans h)
    exact hbody

theorem intercept_of_fails {interceptor : Interceptor} (h : interceptor.Fails seconds changes) :
    ∃ reason, interceptor.intercept seconds changes = some (.keep changes reason) := by
  cases htime : seconds.isPositive with
  | false => exact ⟨_, by rw [intercept, askWithin, htime]; rfl⟩
  | true =>
    obtain ⟨reply, hreply, hnone⟩ := exists_reply_of_fails h htime
    obtain ⟨reason, hreason⟩ := settle_of_ne_response seconds changes hnone
    exact ⟨reason, by rw [intercept_of_reply htime hreply, hreason]⟩

/-- Asking comes to one of the three. -/
theorem cancels_or_fails_or_answers (interceptor : Interceptor) (seconds : Double)
    (changes : List Change) :
    interceptor.Cancels seconds changes ∨ interceptor.Fails seconds changes ∨
      ∃ response, interceptor.Answers seconds changes response := by
  cases htime : seconds.isPositive with
  | false => exact .inr (.inl (.noTime htime))
  | true =>
    cases interceptor with
    | function answer =>
      cases hanswer : answer changes with
      | none => exact .inl (.function htime hanswer)
      | some reply =>
        by_cases hreply : ∃ response, reply = .response response
        · obtain ⟨response, rfl⟩ := hreply
          exact .inr (.inr ⟨response, .function htime hanswer⟩)
        · exact .inr (.inl (.raised hanswer fun response h => hreply ⟨response, h⟩))
    | service endpoint send =>
      refine .inr ?_
      by_cases hsendable : ∃ payloads, Payload.ofChanges changes = .ok payloads
      · obtain ⟨payloads, hchanges⟩ := hsendable
        cases haddress : Address.ofText? endpoint with
        | none => exact .inl (.unaddressed haddress)
        | some address =>
          cases habsolute : address.isAbsolute with
          | false => exact .inl (.relative haddress habsolute)
          | true =>
            cases hsend : send { body := Payload.request payloads } with
            | failed reason => exact .inl (.undelivered hchanges hsend)
            | late => exact .inl (.late hchanges hsend)
            | answered status body =>
              by_cases hstatus : 400 ≤ status ∧ status ≤ 599
              · exact .inl (.refused hchanges hsend hstatus)
              · by_cases hbody : ∃ response : Response, response.SentAs body
                · obtain ⟨response, hbody⟩ := hbody
                  exact .inr ⟨response,
                    .service htime haddress habsolute hchanges hsend hstatus hbody⟩
                · refine .inl (.unreadable hchanges hsend (Response.unreadable_iff.2 ?_))
                  exact fun response h => hbody ⟨response, h⟩
      · have hmissing : ¬ ∀ change ∈ changes, ∃ payload : Payload, payload.Conveys change := by
          intro hall
          obtain ⟨payloads, h⟩ := exists_forall₂_iff.2 hall
          exact hsendable ⟨payloads, Payload.ofChanges_eq_ok_iff.2 h⟩
        push Not at hmissing
        obtain ⟨change, hmem, hparts⟩ := hmissing
        exact .inl (.unsendable hmem hparts)

/-! ## Statuses -/

theorem ask_service_congr {endpoint : String} {send other : Request → Delivery}
    (h : ∀ request address, (send request).reply address = (other request).reply address) :
    (service endpoint send).ask changes = (service endpoint other).ask changes := by
  simp only [ask, h]

/-- **A status for errors keeps the changes.**  Whatever stands in the body, a service whose
status is between 400 and 599 is not heeded.  With any other status, be it one for success or
not, the body is heeded as with the status 200. -/
theorem error_status_keeps_changes (endpoint : String) (seconds : Double) (changes : List Change)
    (status : Nat) (body : Request → ByteArray) :
    (400 ≤ status ∧ status ≤ 599 →
      ∃ outcome, (service endpoint fun request => .answered status (body request)).intercept
          seconds changes = some outcome ∧
        outcome.applied = false ∧ outcome.changes = changes ∧ outcome.conclusion = none) ∧
    (¬ (400 ≤ status ∧ status ≤ 599) →
      (service endpoint fun request => .answered status (body request)).intercept seconds changes =
        (service endpoint fun request => .answered 200 (body request)).intercept seconds
          changes) := by
  constructor
  · intro hstatus
    obtain h | h | ⟨response, h⟩ := cancels_or_fails_or_answers
      (service endpoint fun request => .answered status (body request)) seconds changes
    · exact nomatch h
    · obtain ⟨reason, hreason⟩ := intercept_of_fails h
      exact ⟨_, hreason, rfl, rfl, rfl⟩
    · cases h with
      | service _ _ _ _ hsend hnot _ =>
        obtain ⟨rfl, -⟩ := Delivery.answered.inj hsend
        exact absurd hstatus hnot
  · intro hstatus
    have hask : (service endpoint fun request => .answered status (body request)).ask changes =
        (service endpoint fun request => .answered 200 (body request)).ask changes :=
      ask_service_congr fun request address =>
        Delivery.reply_answered_congr address (body request) hstatus (by omega)
    rw [intercept, askWithin, hask]
    rfl

theorem hook_isAbsolute : (Address.ofText? "http://hook").any Address.isAbsolute = true := by
  decide +kernel

/-- A service that answers every request alike. -/
def constant (status : Nat) (body : String) : Interceptor :=
  .service "http://hook" fun _ => .answered status body.toUTF8

theorem constant_answers {status : Nat} {body : String} {json : Json} {payloads : List Payload}
    {response : Response} (htime : seconds.isPositive = true)
    (hchanges : Payload.ofChanges changes = .ok payloads)
    (hstatus : ¬ (400 ≤ status ∧ status ≤ 599)) (hjson : Json.read? .wire body = some json)
    (hresponse : response.WrittenAs json) :
    (constant status body).Answers seconds changes response := by
  obtain ⟨address, haddress, habsolute⟩ := (Option.any_eq_true _ _).1 hook_isAbsolute
  exact .service htime haddress habsolute hchanges rfl hstatus (hresponse.sentAs hjson)

/-- A change that breaks clients. -/
def fieldRemoved : Change where
  rule := .known .fieldRemoved
  level := .known .breaking
  message := .text "Field 'b' was removed from 'A'"
  path := .text "A.b"

/-- A redirection is neither a success nor an error; it takes the breaking change away. -/
theorem redirect_erases_changes :
    ∃ outcome, (constant 302 "\x7b\"changes\": []\x7d").intercept (.ofInt 10) [fieldRemoved] =
        some outcome ∧ outcome.applied = true ∧ outcome.changes = [] := by
  have hjson : Json.read? .wire "\x7b\"changes\": []\x7d" =
      some (.object [("changes", .array [])]) := by cbv
  have hanswers : (constant 302 "\x7b\"changes\": []\x7d").Answers (.ofInt 10) [fieldRemoved]
      { changes := some [] } :=
    constant_answers (by decide) rfl (by decide) hjson ⟨⟨_, rfl⟩, .replaced .nil, rfl⟩
  exact ⟨_, intercept_of_answers hanswers, rfl, rfl⟩

end Interceptor

/-! ## Comparisons -/

namespace Policy

/-- The same comparison without an interceptor. -/
def unasked (policy : Policy) : Policy := { policy with interceptor := none }

/-- The comparison is cancelled while its interceptor is asked. -/
def IsCancelled (policy : Policy) (changes : List Change) : Prop :=
  ∃ interceptor, policy.interceptor = some interceptor ∧
    interceptor.Cancels policy.seconds changes

/-- The interceptor of the comparison answers about the changes. -/
def Hears (policy : Policy) (changes : List Change) (response : Response) : Prop :=
  ∃ interceptor, policy.interceptor = some interceptor ∧
    interceptor.Answers policy.seconds changes response

/-- No answer comes to the comparison: asking its interceptor fails, or it has none. -/
def HearsNothing (policy : Policy) (changes : List Change) : Prop :=
  ∀ interceptor, policy.interceptor = some interceptor →
    interceptor.Fails policy.seconds changes

theorem isCancelled_or_hearsNothing_or_hears (policy : Policy) (changes : List Change) :
    policy.IsCancelled changes ∨ policy.HearsNothing changes ∨
      ∃ response, policy.Hears changes response := by
  cases hpolicy : policy.interceptor with
  | none =>
    refine .inr (.inl fun interceptor h => ?_)
    rw [hpolicy] at h
    exact nomatch h
  | some interceptor =>
    obtain h | h | ⟨response, h⟩ :=
      interceptor.cancels_or_fails_or_answers policy.seconds changes
    · exact .inl ⟨interceptor, hpolicy, h⟩
    · refine .inr (.inl fun other hother => ?_)
      rw [hpolicy] at hother
      exact Option.some.inj hother ▸ h
    · exact .inr (.inr ⟨response, interceptor, hpolicy, h⟩)

theorem outcome_of_isCancelled {policy : Policy} (h : policy.IsCancelled changes) :
    policy.outcome changes = none := by
  obtain ⟨interceptor, hpolicy, hcancels⟩ := h
  rw [outcome, hpolicy]
  exact Interceptor.intercept_of_cancels hcancels

theorem outcome_of_hears {policy : Policy} {response : Response}
    (h : policy.Hears changes response) :
    policy.outcome changes = some (.apply changes response) := by
  obtain ⟨interceptor, hpolicy, hanswers⟩ := h
  rw [outcome, hpolicy]
  exact Interceptor.intercept_of_answers hanswers

/-- Where nothing is heard, nothing but the log tells that anything was asked. -/
theorem outcome_of_hearsNothing {policy : Policy} (h : policy.HearsNothing changes) :
    ∃ log, policy.outcome changes = some { changes, log } := by
  cases hpolicy : policy.interceptor with
  | none => exact ⟨[], by rw [outcome, hpolicy]⟩
  | some interceptor =>
    obtain ⟨reason, hreason⟩ := Interceptor.intercept_of_fails (h interceptor hpolicy)
    exact ⟨_, by rw [outcome, hpolicy]; exact hreason⟩

/-- What holds in the end are the changes as they were, or what was answered. -/
theorem outcome_cases {policy : Policy} {changes : List Change} {outcome : Outcome}
    (h : policy.outcome changes = some outcome) :
    (∃ log, outcome = { changes, log }) ∨
      ∃ response, policy.Hears changes response ∧ outcome = .apply changes response := by
  obtain hcancelled | hnothing | ⟨response, hheard⟩ :=
    policy.isCancelled_or_hearsNothing_or_hears changes
  · exact nomatch (outcome_of_isCancelled hcancelled).symm.trans h
  · obtain ⟨log, hlog⟩ := outcome_of_hearsNothing hnothing
    exact .inl ⟨log, Option.some.inj (h.symm.trans hlog)⟩
  · exact .inr ⟨response, hheard,
      Option.some.inj (h.symm.trans (outcome_of_hears hheard))⟩

/-- A result does not depend on the log, nor on who was asked in vain. -/
theorem result_settle_unasked (policy : Policy) (sources : Sources) (label : Datum)
    (changes : List Change) (log : List LogEntry) :
    (policy.settle sources label { changes, log }).result =
      (policy.unasked.settle sources label { changes }).result :=
  rfl

end Policy

/-- The result has an answer about the changes in it, and all of it: the changes are those of
the answer, one for each of its items in order, or else what they were; the verdict is that of
the answer, or else the one on those changes; and the numbers and notes are theirs. -/
structure DiffResult.Heeds (result : DiffResult) (response : Response) (changes : List Change)
    (strict : Bool) (sources : Sources) (label : Datum) : Prop where
  intercepted : result.intercepted = true
  kept : response.changes = none → result.changes = changes
  replaced : ∀ payloads, response.changes = some payloads →
    List.Forall₂ Payload.StandsFor payloads result.changes
  overridden : ∀ conclusion, response.conclusion = some conclusion → result.conclusion = conclusion
  concluded : response.conclusion = none → result.conclusion = conclude strict result.changes
  stats : result.stats = .ofChanges result.changes
  notes : result.notes = result.changes.map (Note.ofChange sources label)

theorem Policy.settle_apply_heeds (policy : Policy) (sources : Sources) (label : Datum)
    (changes : List Change) (response : Response) :
    (policy.settle sources label (.apply changes response)).result.Heeds response changes
      policy.failOnDangerous sources label where
  intercepted := rfl
  kept h := by simp [settle, Outcome.apply, DiffResult.ofChanges, h]
  replaced payloads h := by
    simp only [settle, Outcome.apply, DiffResult.ofChanges, h, List.forall₂_map_right_iff]
    exact List.forall₂_same.2 fun payload _ => payload.standsFor_toChange
  overridden conclusion h := by simp [settle, Outcome.apply, DiffResult.ofChanges, h]
  concluded h := by simp [settle, Outcome.apply, DiffResult.ofChanges, h]
  stats := rfl
  notes := rfl

/-- **An interceptor is heeded entirely or not at all.**  A comparison comes to a result unless
it is cancelled.  If anything goes wrong with asking the interceptor, the result is the one
without an interceptor; if it answers, the answer takes effect as a whole; and one of the three
is the case. -/
theorem heeded_entirely_or_not_at_all (policy : Policy) (sources : Sources) (snapshot : Snapshot)
    (label : Datum) :
    (policy.diff sources snapshot label = none ↔ policy.IsCancelled snapshot.changes) ∧
    (policy.HearsNothing snapshot.changes →
      ∃ comparison plain, policy.diff sources snapshot label = some comparison ∧
        policy.unasked.diff sources snapshot label = some plain ∧
        comparison.result = plain.result ∧ comparison.result.intercepted = false) ∧
    (∀ response, policy.Hears snapshot.changes response →
      ∃ comparison, policy.diff sources snapshot label = some comparison ∧
        comparison.result.Heeds response snapshot.changes policy.failOnDangerous sources label) ∧
    (policy.IsCancelled snapshot.changes ∨ policy.HearsNothing snapshot.changes ∨
      ∃ response, policy.Hears snapshot.changes response) := by
  have hthree := policy.isCancelled_or_hearsNothing_or_hears snapshot.changes
  refine ⟨⟨fun hnone => ?_, fun h => ?_⟩, fun h => ?_, fun response h => ?_, hthree⟩
  · rw [Policy.diff, Option.map_eq_none_iff] at hnone
    obtain h | h | ⟨response, h⟩ := hthree
    · exact h
    · obtain ⟨log, hlog⟩ := Policy.outcome_of_hearsNothing h
      exact nomatch hnone.symm.trans hlog
    · exact nomatch hnone.symm.trans (Policy.outcome_of_hears h)
  · rw [Policy.diff, Policy.outcome_of_isCancelled h]
    rfl
  · obtain ⟨log, hlog⟩ := Policy.outcome_of_hearsNothing h
    exact ⟨_, _, by rw [Policy.diff, hlog]; rfl, rfl,
      policy.result_settle_unasked sources label snapshot.changes log, rfl⟩
  · exact ⟨_, by rw [Policy.diff, Policy.outcome_of_hears h]; rfl,
      policy.settle_apply_heeds sources label snapshot.changes response⟩

/-- A version with a scalar, and the next one without it. -/
def dateDropped : Snapshot :=
  .ofTypeMaps (.ofDefinitions [⟨some "Date", none, .scalar none⟩]) (.ofDefinitions [])

/-- A service takes all changes away, but sets a verdict that is none. -/
def misworded : Policy where
  interceptor := some (.constant 200 "\x7b\"changes\": [], \"conclusion\": \"maybe\"\x7d")

theorem misworded_unheeded :
    misworded.HearsNothing dateDropped.changes ∧
      ∃ comparison plain, misworded.diff ⟨none, none⟩ dateDropped .nothing = some comparison ∧
        misworded.unasked.diff ⟨none, none⟩ dateDropped .nothing = some plain ∧
        comparison.result = plain.result ∧ comparison.result.intercepted = false := by
  have hjson : Json.read? .wire "\x7b\"changes\": [], \"conclusion\": \"maybe\"\x7d" =
      some (.object [("changes", .array []), ("conclusion", .text "maybe")]) := by cbv
  have hgiven : (Json.object [("changes", .array []), ("conclusion", .text "maybe")]).given
      "conclusion" = .text "maybe" := rfl
  have hunheard : misworded.HearsNothing dateDropped.changes := by
    rintro interceptor hsome
    obtain rfl := Option.some.inj hsome
    refine .unreadable rfl rfl ?_
    refine .misfit (fromUTF8?_toUTF8 _) hjson (.badConclusion ?_ fun conclusion => ?_)
    · rw [hgiven]
      simp
    · rw [hgiven]
      cases conclusion <;> simp [Conclusion.word]
  exact ⟨hunheard,
    (heeded_entirely_or_not_at_all misworded ⟨none, none⟩ dateDropped .nothing).2.1 hunheard⟩

end SchemaDrift
