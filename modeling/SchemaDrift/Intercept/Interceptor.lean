import SchemaDrift.Address
import SchemaDrift.Intercept.Payload
import SchemaDrift.Keyed
import SchemaDrift.Text.Quoted

/-!
# Interceptors

An interceptor is asked about the changes before the verdict.  It may replace
them, set the verdict, or both; if it fails in any way, nothing changes.

* `Interceptor` — a service behind an endpoint, or a function of the changes.
* `Interceptor.remote` — a service behind an endpoint of a network.
* `Reply`, `Attempt` — what comes of asking.
* `Outcome` — what holds after it.
* `Interceptor.intercept` — asking, and settling what came of it.
-/

namespace SchemaDrift

/-! ## Log -/

/-- How much a log entry matters. -/
inductive Severity where
  | info
  | warning
  deriving DecidableEq, Repr, Inhabited

/-- The word for a severity. -/
def Severity.word : Severity → String
  | .info => "INFO"
  | .warning => "WARNING"

/-- A line of the log. -/
structure LogEntry where
  severity : Severity
  text : String
  deriving DecidableEq, Repr, Inhabited

/-- Something worth knowing. -/
def LogEntry.info (text : String) : LogEntry := ⟨.info, text⟩

/-- Something that went wrong. -/
def LogEntry.warning (text : String) : LogEntry := ⟨.warning, text⟩

/-! ## Asking -/

/-- A request to a service. -/
structure Request where
  method : String := "POST"
  contentType : String := "application/json"
  body : String
  deriving DecidableEq, Repr, Inhabited

/-- What comes of sending a request. -/
inductive Delivery where
  | answered (status : Nat) (body : ByteArray)
  /-- No answer, for the given reason. -/
  | failed (reason : String)
  /-- No answer before the time was up. -/
  | late

/-- What comes of asking an interceptor. -/
inductive Reply where
  | response (response : Response)
  /-- No answer in time. -/
  | late
  /-- The request was not delivered. -/
  | undelivered (reason : String)
  /-- The interceptor refuses. -/
  | refused (message : String)
  /-- A request or an answer with so many faults. -/
  | malformed (faults : Nat)
  /-- An answer that cannot be used. -/
  | unusable (reason : String)
  /-- Any other failure. -/
  | broken
  deriving DecidableEq, Repr, Inhabited

/-- What comes of asking, and the request that was sent for it. -/
structure Attempt where
  request : Option Request := none
  /-- The reply; there is none if the whole comparison was cancelled. -/
  reply : Option Reply
  deriving DecidableEq, Repr, Inhabited

/-- What may be asked about changes. -/
inductive Interceptor where
  /-- A service behind an endpoint. -/
  | service (endpoint : String) (send : Request → Delivery)
  /-- A function of the changes; it gives no reply if it cancels all. -/
  | function (answer : List Change → Option Reply)

/-- A service to which requests are sent over a network, unless its address forbids
that. -/
def Interceptor.remote (endpoint : String) (send : Request → Delivery) : Interceptor :=
  .service endpoint fun request =>
    match (Address.ofText? endpoint).bind Address.obstacle? with
    | some reason => .failed reason
    | none => send request

/-- The reply that an answer of a service is.  A status between 400 and 599 is a
refusal. -/
def Reply.ofAnswer (status : Nat) (body : ByteArray) : Reply :=
  if 400 ≤ status && status ≤ 599 then
    .refused ("Interceptor returned HTTP " ++ toString status)
  else
    match Response.ofBytes body with
    | .ok answer => .response answer
    | .error faults => .malformed faults

/-- The reply that a delivery to an address comes to.  An answer from an address that
does not say enough cannot be used. -/
def Delivery.reply (address : Address) : Delivery → Reply
  | .answered status body =>
      if address.isAbsolute then .ofAnswer status body
      else .unusable ("unknown url type: " ++ Text.quoted address.reference)
  | .failed reason => .undelivered reason
  | .late => .late

namespace Interceptor

/-- Asks about changes with all the time in the world. -/
def ask (interceptor : Interceptor) (changes : List Change) : Attempt :=
  match interceptor with
  | function answer => { reply := answer changes }
  | service endpoint send =>
    match Payload.ofChanges changes with
    | .error faults => { reply := some (.malformed faults) }
    | .ok payloads =>
      match Address.ofText? endpoint with
      | some address =>
        let request : Request := { body := Payload.request payloads }
        { request := some request, reply := some ((send request).reply address) }
      | none => { reply := some .broken }

/-- Asks about changes within so many seconds.  Without any time nothing is
asked. -/
def askWithin (interceptor : Interceptor) (seconds : Double) (changes : List Change) :
    Attempt :=
  if seconds.isPositive then interceptor.ask changes else { reply := some .late }

end Interceptor

/-! ## Settling -/

/-- What holds after an interceptor was asked. -/
structure Outcome where
  changes : List Change
  conclusion : Option Conclusion := none
  applied : Bool := false
  log : List LogEntry := []
  deriving DecidableEq, Repr, Inhabited

/-- Nothing changes, and the log says why. -/
def Outcome.keep (changes : List Change) (reason : String) : Outcome :=
  { changes, log := [.warning reason] }

/-- An answer takes effect. -/
def Outcome.apply (changes : List Change) (response : Response) : Outcome where
  changes :=
    match response.changes with
    | none => changes
    | some payloads => payloads.map Payload.toChange
  conclusion := response.conclusion
  applied := true
  log :=
    (response.changes.toList.map fun payloads =>
      .info ("Interceptor replaced " ++ toString changes.length ++ " changes with "
        ++ toString payloads.length))
    ++ (response.conclusion.toList.map fun conclusion =>
      .info ("Interceptor set conclusion to " ++ conclusion.word))

/-- What holds after a reply. -/
def Reply.settle (reply : Reply) (seconds : Double) (changes : List Change) : Outcome :=
  match reply with
  | .response answer => .apply changes answer
  | .late =>
      .keep changes ("Interceptor timed out after " ++ seconds.oneDecimal
        ++ "s, keeping original changes")
  | .undelivered reason =>
      .keep changes ("Interceptor request failed, keeping original changes: " ++ reason)
  | .refused message => .keep changes (message ++ ", keeping original changes")
  | .malformed faults =>
      .keep changes ("Interceptor response is invalid, keeping original changes: "
        ++ toString faults ++ " error(s)")
  | .unusable reason =>
      .keep changes ("Interceptor response could not be read, keeping original changes: "
        ++ reason)
  | .broken => .keep changes "Interceptor failed, keeping original changes"

/-- Asks about changes within so many seconds and settles the reply; there is no
outcome if all was cancelled. -/
def Interceptor.intercept (interceptor : Interceptor) (seconds : Double)
    (changes : List Change) : Option Outcome :=
  (interceptor.askWithin seconds changes).reply.map fun reply =>
    reply.settle seconds changes

/-! ## Functions of the changes -/

/-- The answer that gives all changes back, with some levels replaced. -/
def echoReply (levels : Keyed String String) (changes : List Change) : Reply :=
  match Payload.ofChanges changes with
  | .error faults => .malformed faults
  | .ok payloads =>
      .response { changes := some (payloads.map fun payload =>
        { payload with level := (levels.get? payload.level).getD payload.level }) }

end SchemaDrift
