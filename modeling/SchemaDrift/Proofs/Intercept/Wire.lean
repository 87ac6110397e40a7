import Mathlib.Data.List.Forall2
import SchemaDrift.Intercept.Payload

/-!
# What stands on the wire

What a change on the wire, an item of an answer and an answer say, apart from how they are
read; and that they are read as that and as nothing else.

* `Payload.Conveys`, `Payload.StandsFor` — the changes whose words a payload has, and the one
  of them that it is read as.
* `Payload.WrittenAs`, `Response.WrittenAs` — the values that are items and answers.
* `Response.SentAs` — the bodies that are answers.
* `Json.Misfit`, `Response.Unreadable` — all that keeps a value or a body from being an answer.
* `Response.ofBytes_eq_ok_iff`, `Response.unreadable_iff` — reading tells the two apart.
-/

namespace SchemaDrift

/-! ## Several checks -/

theorem Checked.all_eq_ok_iff {α β : Type} {check : α → Checked β} {items : List α}
    {values : List β} :
    Checked.all check items = .ok values ↔
      List.Forall₂ (fun item value => check item = .ok value) items values := by
  induction items generalizing values with
  | nil => cases values <;> simp [Checked.all]
  | cons item rest ih =>
    rw [List.forall₂_cons_left_iff, Checked.all]
    constructor
    · intro h
      split at h <;> simp only [reduceCtorEq, Except.ok.injEq] at h
      rename_i value others hvalue hothers
      exact ⟨value, others, hvalue, ih.1 hothers, h.symm⟩
    · rintro ⟨value, others, hvalue, hothers, rfl⟩
      simp only [hvalue, ih.2 hothers]

theorem exists_forall₂_iff {α β : Type} {related : α → β → Prop} {items : List α} :
    (∃ values, List.Forall₂ related items values) ↔
      ∀ item ∈ items, ∃ value, related item value := by
  induction items with
  | nil => simp
  | cons item rest ih =>
    rw [List.forall_mem_cons, ← ih]
    constructor
    · rintro ⟨_, _ | ⟨hvalue, hvalues⟩⟩
      exact ⟨⟨_, hvalue⟩, _, hvalues⟩
    · rintro ⟨⟨value, hvalue⟩, values, hvalues⟩
      exact ⟨value :: values, .cons hvalue hvalues⟩

theorem Payload.ofParts_eq_ok_iff {ruleId level message path : Checked String}
    {reason : Checked (Option String)} {payload : Payload} :
    Payload.ofParts ruleId level reason message path = .ok payload ↔
      ruleId = .ok payload.ruleId ∧ level = .ok payload.level ∧ reason = .ok payload.reason ∧
        message = .ok payload.message ∧ path = .ok payload.path := by
  constructor
  · intro h
    unfold Payload.ofParts at h
    split at h
    · cases h
      exact ⟨rfl, rfl, rfl, rfl, rfl⟩
    · exact nomatch h
  · rintro ⟨rfl, rfl, rfl, rfl, rfl⟩
    rfl

/-! ## Changes and payloads -/

/-- The payload has the words of the change. -/
structure Payload.Conveys (payload : Payload) (change : Change) : Prop where
  rule : change.ruleText = payload.ruleId
  level : change.levelText = payload.level
  message : change.message = .text payload.message
  path : change.path = .text payload.path
  reason : change.reason = .ofOption payload.reason

/-- A word for a member of the closed set is that member. -/
def Label.Recognised {α : Type} (id : α → String) (label : Label α) : Prop :=
  ∀ value, label.text id = id value → label = .known value

/-- The change is the one that the payload is read as: it has the words of the payload, and
those of a rule or level are one. -/
structure Payload.StandsFor (payload : Payload) (change : Change) : Prop
    extends payload.Conveys change where
  ruleRecognised : change.rule.Recognised Rule.id
  levelRecognised : change.level.Recognised Level.id

theorem Rule.ofId?_id (rule : Rule) : Rule.ofId? rule.id = some rule := by
  cases rule <;> decide

theorem Rule.id_injective : Function.Injective Rule.id := by
  intro first second h
  exact Option.some.inj ((Rule.ofId?_id first).symm.trans ((congrArg Rule.ofId? h).trans
    (Rule.ofId?_id second)))

theorem Level.id_injective : Function.Injective Level.id := by
  intro first second h
  exact Option.some.inj ((Level.ofId?_id first).symm.trans ((congrArg Level.ofId? h).trans
    (Level.ofId?_id second)))

theorem Label.text_ofText {α : Type} {id : α → String} {ofId? : String → Option α}
    (h : ∀ {text value}, ofId? text = some value → id value = text) (text : String) :
    (Label.ofText ofId? text).text id = text := by
  unfold Label.ofText
  split
  · rename_i value hvalue
    exact h hvalue
  · rfl

theorem Label.recognised_ofText {α : Type} {id : α → String} {ofId? : String → Option α}
    (hid : ∀ value, ofId? (id value) = some value)
    (h : ∀ {text value}, ofId? text = some value → id value = text) (text : String) :
    (Label.ofText ofId? text).Recognised id := by
  intro value hvalue
  rw [Label.text_ofText h] at hvalue
  rw [hvalue, Label.ofText, hid]

theorem Label.recognised_known {α : Type} {id : α → String} (h : Function.Injective id)
    (value : α) : (Label.known value).Recognised id :=
  fun _ hid => congrArg Label.known (h hid)

theorem Rule.id_of_ofId? {text : String} {rule : Rule} (h : Rule.ofId? text = some rule) :
    rule.id = text := by
  simpa using List.find?_some h

theorem Level.id_of_ofId? {text : String} {level : Level} (h : Level.ofId? text = some level) :
    level.id = text := by
  simpa using List.find?_some h

theorem Payload.standsFor_toChange (payload : Payload) : payload.StandsFor payload.toChange where
  rule := Label.text_ofText Rule.id_of_ofId? payload.ruleId
  level := Label.text_ofText Level.id_of_ofId? payload.level
  message := rfl
  path := rfl
  reason := rfl
  ruleRecognised := Label.recognised_ofText Rule.ofId?_id Rule.id_of_ofId? payload.ruleId
  levelRecognised := Label.recognised_ofText Level.ofId?_id Level.id_of_ofId? payload.level

/-- Whatever has the words of a change, and only that, is sent for it. -/
theorem Payload.ofChange_eq_ok_iff {change : Change} {payload : Payload} :
    Payload.ofChange change = .ok payload ↔ payload.Conveys change := by
  have hneeded : ∀ {datum : Datum} {text : String},
      datum.needed = .ok text ↔ datum = .text text := by
    intro datum text
    cases datum <;> simp [Datum.needed]
  have hoptional : ∀ {datum : Datum} {text : Option String},
      datum.optional = .ok text ↔ datum = .ofOption text := by
    intro datum text
    cases datum <;> cases text <;> simp [Datum.optional, Datum.ofOption]
  rw [Payload.ofChange, Payload.ofParts_eq_ok_iff, hneeded, hneeded, hoptional]
  simp only [Except.ok.injEq]
  exact ⟨fun ⟨hr, hl, hs, hm, hp⟩ => ⟨hr, hl, hm, hp, hs⟩,
    fun h => ⟨h.rule, h.level, h.reason, h.message, h.path⟩⟩

/-- All changes are sent, in order, or none. -/
theorem Payload.ofChanges_eq_ok_iff {changes : List Change} {payloads : List Payload} :
    Payload.ofChanges changes = .ok payloads ↔
      List.Forall₂ (fun change (payload : Payload) => payload.Conveys change) changes
        payloads := by
  induction changes generalizing payloads with
  | nil => cases payloads <;> simp [Payload.ofChanges]
  | cons change rest ih =>
    rw [List.forall₂_cons_left_iff, Payload.ofChanges]
    constructor
    · intro h
      cases hfirst : Payload.ofChange change with
      | error faults => rw [hfirst] at h; exact nomatch h
      | ok payload =>
        cases hrest : Payload.ofChanges rest with
        | error faults => rw [hfirst, hrest] at h; exact nomatch h
        | ok others =>
          rw [hfirst, hrest] at h
          exact ⟨payload, others, Payload.ofChange_eq_ok_iff.1 hfirst, ih.1 hrest,
            (Except.ok.inj h).symm⟩
    · rintro ⟨payload, others, hpayload, hothers, rfl⟩
      rw [Payload.ofChange_eq_ok_iff.2 hpayload, ih.2 hothers]
      rfl

/-! ## Items -/

/-- The value is an item for the payload: an object whose members are texts, where that of
the reason may be null or missing.  Three members go by one of two names. -/
structure Payload.WrittenAs (payload : Payload) (json : Json) : Prop where
  object : ∃ members, json = .object members
  ruleId : (json.get? "ruleId").or (json.get? "rule_id") = some (.text payload.ruleId)
  level : (json.get? "criticalityLevel").or (json.get? "criticality_level") =
    some (.text payload.level)
  reason : ((json.get? "criticalityReason").or (json.get? "criticality_reason")).getD .null =
    Json.ofOption payload.reason
  message : json.get? "message" = some (.text payload.message)
  path : json.get? "path" = some (.text payload.path)

theorem neededText_eq_ok_iff {json : Json} {name other text : String} :
    neededText json name other = .ok text ↔
      (json.get? name).or (json.get? other) = some (.text text) := by
  unfold neededText
  split
  · rename_i value hvalue
    simp [hvalue]
  · rename_i hnot
    exact ⟨fun h => (nomatch h), fun h => absurd h (hnot text)⟩

theorem optionalText_eq_ok_iff {json : Json} {name other : String} {text : Option String} :
    optionalText json name other = .ok text ↔
      ((json.get? name).or (json.get? other)).getD .null = Json.ofOption text := by
  unfold optionalText
  split
  · rename_i value hvalue
    cases text <;> simp [hvalue, Json.ofOption]
  · rename_i hvalue
    cases text <;> simp [hvalue, Json.ofOption]
  · rename_i hvalue
    cases text <;> simp [hvalue, Json.ofOption]
  · rename_i htext hnull hnone
    cases hfound : (json.get? name).or (json.get? other) with
    | none => exact absurd hfound hnone
    | some value =>
      rw [hfound] at htext hnull
      refine ⟨fun h => (nomatch h), fun h => ?_⟩
      rw [Option.getD_some] at h
      subst h
      cases text with
      | none => exact absurd rfl hnull
      | some text => exact absurd rfl (htext text)

theorem Payload.ofJson_eq_ok_iff {json : Json} {payload : Payload} :
    Payload.ofJson json = .ok payload ↔ payload.WrittenAs json := by
  cases json with
  | object members =>
    rw [Payload.ofJson, Payload.ofParts_eq_ok_iff, neededText_eq_ok_iff, neededText_eq_ok_iff,
      optionalText_eq_ok_iff, neededText_eq_ok_iff, neededText_eq_ok_iff, Option.or_self,
      Option.or_self]
    exact ⟨fun ⟨hr, hl, hs, hm, hp⟩ => ⟨⟨members, rfl⟩, hr, hl, hs, hm, hp⟩,
      fun h => ⟨h.ruleId, h.level, h.reason, h.message, h.path⟩⟩
  | _ => exact ⟨fun h => (nomatch h), fun h => (nomatch h.object)⟩

/-! ## Answers -/

/-- What an object gives under a name: null where it gives nothing. -/
def Json.given (json : Json) (name : String) : Json := (json.get? name).getD .null

/-- The value says by what the changes are replaced, if they are. -/
inductive Response.ChangesAre : Option (List Payload) → Json → Prop where
  | kept : ChangesAre none .null
  | replaced {payloads : List Payload} {items : List Json}
      (h : List.Forall₂ (fun item (payload : Payload) => payload.WrittenAs item) items payloads) :
      ChangesAre (some payloads) (.array items)

/-- The value is an answer: an object that may have a list of items, each of them sound, and
the word for a verdict.  What is null counts as missing. -/
structure Response.WrittenAs (response : Response) (json : Json) : Prop where
  object : ∃ members, json = .object members
  changes : Response.ChangesAre response.changes (json.given "changes")
  conclusion : json.given "conclusion" =
    Json.ofOption (response.conclusion.map Conclusion.word)

/-- The body is an answer in the bytes of a text. -/
def Response.SentAs (response : Response) (body : ByteArray) : Prop :=
  ∃ text json, String.fromUTF8? body = some text ∧ Json.read? .wire text = some json ∧
    response.WrittenAs json

/-- What keeps a value from being an answer. -/
inductive Json.Misfit (json : Json) : Prop where
  | notObject (h : ∀ members, json ≠ .object members)
  | changesNoList (hnull : json.given "changes" ≠ .null)
      (hlist : ∀ items, json.given "changes" ≠ .array items)
  | badItem {items : List Json} {item : Json} (h : json.given "changes" = .array items)
      (hitem : item ∈ items) (hbad : ∀ payload, ¬ Payload.WrittenAs payload item)
  | badConclusion (hnull : json.given "conclusion" ≠ .null)
      (hword : ∀ conclusion : Conclusion, json.given "conclusion" ≠ .text conclusion.word)

/-- What keeps a body from being an answer. -/
inductive Response.Unreadable (body : ByteArray) : Prop where
  | notText (h : String.fromUTF8? body = none)
  | notJson {text : String} (h : String.fromUTF8? body = some text)
      (hjson : Json.read? .wire text = none)
  | misfit {text : String} {json : Json} (h : String.fromUTF8? body = some text)
      (hjson : Json.read? .wire text = some json) (hmisfit : json.Misfit)

theorem Conclusion.word_injective : Function.Injective Conclusion.word := by
  intro first second
  cases first <;> cases second <;> decide

theorem Conclusion.ofWord?_eq_some_iff {text : String} {conclusion : Conclusion} :
    Conclusion.ofWord? text = some conclusion ↔ conclusion.word = text := by
  constructor
  · intro h
    simpa using List.find?_some h
  · rintro rfl
    cases conclusion <;> decide

theorem Response.changesOf_eq_ok_iff {json : Json} {changes : Option (List Payload)} :
    Response.changesOf json = .ok changes ↔
      Response.ChangesAre changes (json.given "changes") := by
  unfold Response.changesOf Json.given
  cases hfound : json.get? "changes" with
  | none => exact ⟨fun h => (Except.ok.inj h) ▸ .kept, fun h => by cases h; rfl⟩
  | some value =>
    rw [Option.getD_some]
    cases value with
    | null => exact ⟨fun h => (Except.ok.inj h) ▸ .kept, fun h => by cases h; rfl⟩
    | array items =>
      change (Checked.all Payload.ofJson items).map some = .ok changes ↔ _
      constructor
      · intro h
        cases hall : Checked.all Payload.ofJson items with
        | error faults => rw [hall] at h; exact nomatch h
        | ok payloads =>
          rw [hall] at h
          obtain rfl := Except.ok.inj h
          exact .replaced ((Checked.all_eq_ok_iff.1 hall).imp fun _ _ => Payload.ofJson_eq_ok_iff.1)
      · rintro (_ | h)
        rw [Checked.all_eq_ok_iff.2 (h.imp fun _ _ => Payload.ofJson_eq_ok_iff.2)]
        rfl
    | _ => exact ⟨fun h => (nomatch h), fun h => (nomatch h)⟩

theorem Response.conclusionOf_eq_ok_iff {json : Json} {conclusion : Option Conclusion} :
    Response.conclusionOf json = .ok conclusion ↔
      json.given "conclusion" = Json.ofOption (conclusion.map Conclusion.word) := by
  unfold Response.conclusionOf Json.given
  cases hfound : json.get? "conclusion" with
  | none => cases conclusion <;> simp [Json.ofOption]
  | some value =>
    rw [Option.getD_some]
    cases value with
    | null => cases conclusion <;> simp [Json.ofOption]
    | text word =>
      cases hverdict : Conclusion.ofWord? word with
      | none =>
        have hword : ∀ verdict : Conclusion, word ≠ verdict.word := by
          rintro verdict rfl
          rw [Conclusion.ofWord?_eq_some_iff.2 rfl] at hverdict
          exact nomatch hverdict
        cases conclusion <;> simp [Json.ofOption, hverdict, hword]
      | some verdict =>
        obtain rfl := Conclusion.ofWord?_eq_some_iff.1 hverdict
        cases conclusion <;> simp [Json.ofOption, hverdict, Conclusion.word_injective.eq_iff]
    | _ => cases conclusion <;> simp [Json.ofOption]

theorem Response.ofJson_eq_ok_iff {json : Json} {response : Response} :
    Response.ofJson json = .ok response ↔ response.WrittenAs json := by
  cases json with
  | object members =>
    have hiff : Response.ofJson (.object members) = .ok response ↔
        Response.changesOf (.object members) = .ok response.changes ∧
          Response.conclusionOf (.object members) = .ok response.conclusion := by
      cases response
      cases hchanges : Response.changesOf (.object members) <;>
        cases hconclusion : Response.conclusionOf (.object members) <;>
        simp [Response.ofJson, hchanges, hconclusion]
    rw [hiff, Response.changesOf_eq_ok_iff, Response.conclusionOf_eq_ok_iff]
    exact ⟨fun ⟨hc, hv⟩ => ⟨⟨members, rfl⟩, hc, hv⟩, fun h => ⟨h.changes, h.conclusion⟩⟩
  | _ => exact ⟨fun h => (nomatch h), fun h => (nomatch h.object)⟩

/-- A body is read as the answer that it is, and no other body as an answer. -/
theorem Response.ofBytes_eq_ok_iff {body : ByteArray} {response : Response} :
    Response.ofBytes body = .ok response ↔ response.SentAs body := by
  unfold Response.ofBytes Response.SentAs
  cases htext : String.fromUTF8? body with
  | none => exact ⟨fun h => (nomatch h), fun ⟨_, _, h, _⟩ => (nomatch h)⟩
  | some text =>
    simp only [Response.ofText]
    cases hjson : Json.read? .wire text with
    | none => simp [hjson]
    | some json => simp [hjson, Response.ofJson_eq_ok_iff]

theorem fromUTF8?_toUTF8 (text : String) : String.fromUTF8? text.toUTF8 = some text := by
  rw [String.fromUTF8?, String.toUTF8_eq_toByteArray, dif_pos text.isValidUTF8]
  rfl

/-- A text that is read as an answer is one once it is sent. -/
theorem Response.WrittenAs.sentAs {response : Response} {text : String} {json : Json}
    (h : response.WrittenAs json) (hjson : Json.read? .wire text = some json) :
    response.SentAs text.toUTF8 :=
  ⟨text, json, fromUTF8?_toUTF8 text, hjson, h⟩

theorem Response.ChangesAre.exists_iff {json : Json} :
    (∃ changes, Response.ChangesAre changes json) ↔
      json = .null ∨ ∃ items, json = .array items ∧
        ∀ item ∈ items, ∃ payload : Payload, payload.WrittenAs item := by
  constructor
  · rintro ⟨_, _ | h⟩
    · exact .inl rfl
    · exact .inr ⟨_, rfl, exists_forall₂_iff.1 ⟨_, h⟩⟩
  · rintro (rfl | ⟨items, rfl, hitems⟩)
    · exact ⟨none, .kept⟩
    · obtain ⟨payloads, h⟩ := exists_forall₂_iff.2 hitems
      exact ⟨some payloads, .replaced h⟩

/-- A value is no answer exactly if something keeps it from being one. -/
theorem Json.misfit_iff {json : Json} :
    json.Misfit ↔ ∀ response : Response, ¬ response.WrittenAs json := by
  constructor
  · rintro hmisfit response ⟨⟨members, hobject⟩, hchanges, hconclusion⟩
    have hchanges := Response.ChangesAre.exists_iff.1 ⟨_, hchanges⟩
    cases hmisfit with
    | notObject h => exact h members hobject
    | changesNoList hnull hlist =>
      obtain hvalue | ⟨items, hvalue, -⟩ := hchanges
      · exact hnull hvalue
      · exact hlist items hvalue
    | badItem h hitem hbad =>
      obtain hvalue | ⟨items, hvalue, hall⟩ := hchanges
      · exact nomatch h.symm.trans hvalue
      · obtain rfl := Json.array.inj (h.symm.trans hvalue)
        obtain ⟨payload, hpayload⟩ := hall _ hitem
        exact hbad payload hpayload
    | badConclusion hnull hword =>
      cases hc : response.conclusion with
      | none => rw [hc] at hconclusion; exact hnull hconclusion
      | some conclusion => rw [hc] at hconclusion; exact hword conclusion hconclusion
  · intro hnone
    by_contra hfit
    have hobject : ∃ members, json = .object members := by
      by_contra h
      exact hfit (.notObject fun members hm => h ⟨members, hm⟩)
    obtain ⟨changes, hchanges⟩ : ∃ changes, Response.ChangesAre changes (json.given "changes") := by
      rw [Response.ChangesAre.exists_iff]
      by_contra h
      rw [not_or] at h
      refine hfit (.changesNoList h.1 fun items hitems => h.2 ⟨items, hitems, fun item hitem => ?_⟩)
      by_contra hbad
      exact hfit (.badItem hitems hitem fun payload hpayload => hbad ⟨payload, hpayload⟩)
    obtain ⟨conclusion, hconclusion⟩ : ∃ conclusion : Option Conclusion,
        json.given "conclusion" = Json.ofOption (conclusion.map Conclusion.word) := by
      by_contra h
      exact hfit (.badConclusion (fun hnull => h ⟨none, hnull⟩)
        fun conclusion hword => h ⟨some conclusion, hword⟩)
    exact hnone ⟨changes, conclusion⟩ ⟨hobject, hchanges, hconclusion⟩

/-- A body is no answer exactly if something keeps it from being one. -/
theorem Response.unreadable_iff {body : ByteArray} :
    Response.Unreadable body ↔ ∀ response : Response, ¬ response.SentAs body := by
  constructor
  · rintro hbody response ⟨text, json, htext, hjson, hresponse⟩
    cases hbody with
    | notText h => exact nomatch h.symm.trans htext
    | notJson h hnone =>
      obtain rfl := Option.some.inj (h.symm.trans htext)
      exact nomatch hnone.symm.trans hjson
    | misfit h hread hmisfit =>
      obtain rfl := Option.some.inj (h.symm.trans htext)
      obtain rfl := Option.some.inj (hread.symm.trans hjson)
      exact Json.misfit_iff.1 hmisfit response hresponse
  · intro hnone
    cases htext : String.fromUTF8? body with
    | none => exact .notText htext
    | some text =>
      cases hjson : Json.read? .wire text with
      | none => exact .notJson htext hjson
      | some json =>
        exact .misfit htext hjson (Json.misfit_iff.2 fun response hresponse =>
          hnone response ⟨text, json, htext, hjson, hresponse⟩)

end SchemaDrift
