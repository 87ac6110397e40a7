import SchemaDrift.Change.Basic
import SchemaDrift.Diff.Verdict
import SchemaDrift.Json.Reader
import SchemaDrift.Json.Writer

/-!
# Changes on the wire

The form in which changes go to an interceptor and come back.  What comes in is
checked as a whole: every fault is counted, and with any fault nothing is taken.  The
checks are those of pydantic, of which release 2.5 or later is required.

* `Payload` — a change on the wire.
* `Payload.ofChange`, `Payload.toChange` — from and to changes.
* `Payload.request` — the body of a request.
* `Response.ofText` — what a body says in return.
-/

namespace SchemaDrift

/-- A value, or the number of faults found in its place. -/
abbrev Checked (α : Type) := Except Nat α

/-- Values each checked by itself; their faults add up. -/
def Checked.all {α β : Type} (check : α → Checked β) : List α → Checked (List β)
  | [] => .ok []
  | item :: rest =>
    match check item, Checked.all check rest with
    | .ok value, .ok values => .ok (value :: values)
    | .ok _, .error faults => .error faults
    | .error faults, .ok _ => .error faults
    | .error first, .error others => .error (first + others)

/-- The number of faults in a value that is checked. -/
def Checked.faults {α : Type} : Checked α → Nat
  | .ok _ => 0
  | .error faults => faults

/-- A change on the wire. -/
structure Payload where
  ruleId : String
  level : String
  reason : Option String
  message : String
  path : String
  deriving DecidableEq, Repr, Inhabited

/-- Parts put together if all of them are sound. -/
def Payload.ofParts (ruleId level : Checked String) (reason : Checked (Option String))
    (message path : Checked String) : Checked Payload :=
  match ruleId, level, reason, message, path with
  | .ok ruleId, .ok level, .ok reason, .ok message, .ok path =>
      .ok { ruleId, level, reason, message, path }
  | ruleId, level, reason, message, path =>
      .error (ruleId.faults + level.faults + reason.faults + message.faults + path.faults)

/-! ## From and to changes -/

/-- A text that has to be there. -/
def Datum.needed : Datum → Checked String
  | .text content => .ok content
  | _ => .error 1

/-- A text that may be missing. -/
def Datum.optional : Datum → Checked (Option String)
  | .text content => .ok (some content)
  | .nothing => .ok none
  | .number _ => .error 1

/-- A change on the wire.  Its texts have to be texts. -/
def Payload.ofChange (change : Change) : Checked Payload :=
  Payload.ofParts (.ok change.ruleText) (.ok change.levelText) change.reason.optional
    change.message.needed change.path.needed

/-- A change from the wire.  Rules and levels of the closed sets are recognised;
other words stay as they are. -/
def Payload.toChange (payload : Payload) : Change where
  rule := .ofText Rule.ofId? payload.ruleId
  level := .ofText Level.ofId? payload.level
  message := .text payload.message
  path := .text payload.path
  reason := .ofOption payload.reason

/-- Changes on the wire up to the first that cannot be sent. -/
def Payload.ofChanges : List Change → Checked (List Payload)
  | [] => .ok []
  | change :: rest => do
      let first ← Payload.ofChange change
      return first :: (← Payload.ofChanges rest)

/-! ## Requests -/

/-- A change on the wire as JSON. -/
def Payload.toJson (payload : Payload) : Json :=
  .object [
    ("ruleId", .text payload.ruleId),
    ("criticalityLevel", .text payload.level),
    ("criticalityReason", .ofOption payload.reason),
    ("message", .text payload.message),
    ("path", .text payload.path)]

/-- The body of a request about changes. -/
def Payload.request (payloads : List Payload) : String :=
  Json.write .wire (.object [("changes", .array (payloads.map Payload.toJson))])

/-! ## Responses -/

/-- A member that has to be a text, under either of its names; the first name
counts where both are there. -/
def neededText (json : Json) (name other : String) : Checked String :=
  match (json.get? name).or (json.get? other) with
  | some (.text value) => .ok value
  | _ => .error 1

/-- A member that is a text, null or missing, under either of its names. -/
def optionalText (json : Json) (name other : String) : Checked (Option String) :=
  match (json.get? name).or (json.get? other) with
  | some (.text value) => .ok (some value)
  | some .null => .ok none
  | none => .ok none
  | _ => .error 1

/-- A change on the wire from JSON. -/
def Payload.ofJson (json : Json) : Checked Payload :=
  match json with
  | .object _ =>
      Payload.ofParts (neededText json "ruleId" "rule_id")
        (neededText json "criticalityLevel" "criticality_level")
        (optionalText json "criticalityReason" "criticality_reason")
        (neededText json "message" "message") (neededText json "path" "path")
  | _ => .error 1

/-- What an interceptor answers. -/
structure Response where
  /-- The changes in place of the ones sent, if they are replaced. -/
  changes : Option (List Payload) := none
  /-- The verdict in place of the one on the changes, if it is set. -/
  conclusion : Option Conclusion := none
  deriving DecidableEq, Repr, Inhabited

namespace Response

/-- The changes of an answer. -/
def changesOf (json : Json) : Checked (Option (List Payload)) :=
  match json.get? "changes" with
  | none => .ok none
  | some .null => .ok none
  | some (.array items) => (Checked.all Payload.ofJson items).map some
  | some _ => .error 1

/-- The verdict of an answer. -/
def conclusionOf (json : Json) : Checked (Option Conclusion) :=
  match json.get? "conclusion" with
  | none => .ok none
  | some .null => .ok none
  | some (.text word) =>
    match Conclusion.ofWord? word with
    | some conclusion => .ok (some conclusion)
    | none => .error 1
  | some _ => .error 1

/-- An answer from JSON. -/
def ofJson (json : Json) : Checked Response :=
  match json with
  | .object _ =>
    match changesOf json, conclusionOf json with
    | .ok changes, .ok conclusion => .ok { changes, conclusion }
    | changes, conclusion => .error (changes.faults + conclusion.faults)
  | _ => .error 1

/-- An answer from the text of a body. -/
def ofText (body : String) : Checked Response :=
  match Json.read? .wire body with
  | none => .error 1
  | some json => ofJson json

/-- An answer from the bytes of a body, which have to be UTF-8. -/
def ofBytes (body : ByteArray) : Checked Response :=
  match String.fromUTF8? body with
  | none => .error 1
  | some text => ofText text

end Response

end SchemaDrift
