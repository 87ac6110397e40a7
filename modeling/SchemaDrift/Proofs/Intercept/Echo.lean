import SchemaDrift.Proofs.Compare.Justification
import SchemaDrift.Proofs.Intercept.Outcomes
import SchemaDrift.Proofs.Json.RoundTrip

/-!
# Changes survive the wire

A service that gives back each request as its answer changes nothing: what is read from the
answer are the changes that were sent.

* `Change.IsTextual` — the changes that can be sent.
* `Change.RestoredAs` — what may differ between a change and what comes back for it.
* `Response.writtenAs_request` — a request is an answer with the same changes.
* `Interceptor.mirror` — a service that gives back each request.
* `mirror_restores_changes` — asking it, alone and in comparisons.
-/

namespace SchemaDrift

/-! ## Changes -/

/-- The parts of the change are texts, of which that for the reason may be missing. -/
structure Change.IsTextual (change : Change) : Prop where
  message : ∃ text, change.message = .text text
  path : ∃ text, change.path = .text text
  reason : ∃ text : Option String, change.reason = .ofOption text

/-- The second change has the words of the first; those for rules and levels are recognised,
and all others are as they were. -/
structure Change.RestoredAs (change restored : Change) : Prop where
  rule : restored.ruleText = change.ruleText
  level : restored.levelText = change.levelText
  message : restored.message = change.message
  path : restored.path = change.path
  reason : restored.reason = change.reason
  ruleRecognised : restored.rule.Recognised Rule.id
  levelRecognised : restored.level.Recognised Level.id

theorem Change.IsTextual.exists_conveys {change : Change} (h : change.IsTextual) :
    ∃ payload : Payload, payload.Conveys change := by
  obtain ⟨message, hmessage⟩ := h.message
  obtain ⟨path, hpath⟩ := h.path
  obtain ⟨reason, hreason⟩ := h.reason
  exact ⟨⟨change.ruleText, change.levelText, reason, message, path⟩, rfl, rfl, hmessage, hpath,
    hreason⟩

/-- Changes that are texts can be sent. -/
theorem exists_ofChanges_eq_ok {changes : List Change} (h : ∀ change ∈ changes, change.IsTextual) :
    ∃ payloads, Payload.ofChanges changes = .ok payloads := by
  obtain ⟨payloads, hpayloads⟩ :=
    exists_forall₂_iff.2 fun change hchange => (h change hchange).exists_conveys
  exact ⟨payloads, Payload.ofChanges_eq_ok_iff.2 hpayloads⟩

/-- What is read for a payload with the words of a change is that change restored. -/
theorem Payload.Conveys.restoredAs {payload : Payload} {change : Change}
    (h : payload.Conveys change) : change.RestoredAs payload.toChange := by
  have hstands := payload.standsFor_toChange
  exact ⟨hstands.rule.trans h.rule.symm, hstands.level.trans h.level.symm,
    hstands.message.trans h.message.symm, hstands.path.trans h.path.symm,
    hstands.reason.trans h.reason.symm, hstands.ruleRecognised, hstands.levelRecognised⟩

/-- Labels that are recognised are told apart by their words. -/
theorem Label.Recognised.eq_of_text_eq {α : Type} {id : α → String} {first second : Label α}
    (hfirst : first.Recognised id) (hsecond : second.Recognised id)
    (h : first.text id = second.text id) : first = second := by
  cases first with
  | known value => exact (hsecond value h.symm).symm
  | other word =>
    cases second with
    | known value => exact hfirst value h
    | other other => exact congrArg Label.other h

/-- A change whose words are recognised is restored as it was. -/
theorem Change.RestoredAs.eq {change restored : Change} (h : change.RestoredAs restored)
    (hrule : change.rule.Recognised Rule.id) (hlevel : change.level.Recognised Level.id) :
    restored = change := by
  obtain ⟨rule, level, message, path, reason⟩ := change
  obtain ⟨hr, hl, rfl, rfl, rfl, hrestoredRule, hrestoredLevel⟩ := h
  obtain rfl := hrestoredRule.eq_of_text_eq hrule hr
  obtain rfl := hrestoredLevel.eq_of_text_eq hlevel hl
  rfl

/-! ## Requests -/

theorem Payload.plain_toJson (reading : Json.Reading) (payload : Payload) :
    payload.toJson.Plain reading := by
  refine .object fun member hmember => ?_
  have hreason : (Json.ofOption payload.reason).Plain reading := by
    cases payload.reason with
    | none => exact .null
    | some text => exact .text text
  simp only [List.mem_cons, List.not_mem_nil, or_false] at hmember
  obtain rfl | rfl | rfl | rfl | rfl := hmember
  · exact .text _
  · exact .text _
  · exact hreason
  · exact .text _
  · exact .text _

theorem Payload.writtenAs_toJson (payload : Payload) : payload.WrittenAs payload.toJson where
  object := ⟨_, rfl⟩
  ruleId := rfl
  level := rfl
  reason := rfl
  message := rfl
  path := rfl

theorem Payload.depth_toJson (payload : Payload) : payload.toJson.depth = 1 := by
  cases hreason : payload.reason <;>
    simp [Payload.toJson, Json.depth, Json.depthOfMembers, Json.ofOption, hreason]

/-- The value that a request about the payloads is written for. -/
def Payload.requestJson (payloads : List Payload) : Json :=
  .object [("changes", .array (payloads.map Payload.toJson))]

theorem Payload.plain_requestJson (reading : Json.Reading) (payloads : List Payload) :
    (Payload.requestJson payloads).Plain reading := by
  refine .object fun member hmember => ?_
  obtain rfl := List.mem_singleton.1 hmember
  refine .array fun item hitem => ?_
  obtain ⟨payload, -, rfl⟩ := List.mem_map.1 hitem
  exact payload.plain_toJson reading

theorem Payload.depth_requestJson (payloads : List Payload) :
    (Payload.requestJson payloads).depth ≤ 3 := by
  have hitems : (Json.array (payloads.map Payload.toJson)).depth ≤ 2 := by
    refine Json.depth_array_le fun item hitem => ?_
    obtain ⟨payload, -, rfl⟩ := List.mem_map.1 hitem
    exact payload.depth_toJson.le
  rw [Payload.requestJson, Json.depth, Json.depthOfMembers, Nat.max_zero]
  exact Nat.succ_le_succ hitems

/-- A request is read as the value that it is written for. -/
theorem Payload.read?_request (payloads : List Payload) :
    Json.read? .wire (Payload.request payloads) = some (Payload.requestJson payloads) := by
  refine Json.read?_write (Payload.plain_requestJson _ payloads) (fun limit hlimit => ?_) .wire
  obtain rfl : 200 = limit := Option.some.inj hlimit
  exact (Payload.depth_requestJson payloads).trans (by decide)

/-- As an answer, a request says that the changes are replaced by those that are sent. -/
theorem Response.writtenAs_requestJson (payloads : List Payload) :
    ({ changes := some payloads } : Response).WrittenAs (Payload.requestJson payloads) where
  object := ⟨_, rfl⟩
  changes := by
    refine .replaced ?_
    rw [List.forall₂_map_left_iff]
    exact List.forall₂_same.2 fun payload _ => payload.writtenAs_toJson
  conclusion := rfl

/-! ## Giving requests back -/

/-- A service that answers each request with its body. -/
def Interceptor.mirror (endpoint : String) : Interceptor :=
  .service endpoint fun request => .answered 200 request.body.toUTF8

theorem Interceptor.mirror_answers {endpoint : String} {seconds : Double} {changes : List Change}
    {payloads : List Payload} (haddress : (Address.ofText? endpoint).any Address.isAbsolute = true)
    (htime : seconds.isPositive = true) (hchanges : Payload.ofChanges changes = .ok payloads) :
    (mirror endpoint).Answers seconds changes { changes := some payloads } := by
  obtain ⟨address, haddress, habsolute⟩ := (Option.any_eq_true _ _).1 haddress
  exact .service htime haddress habsolute hchanges rfl (by decide)
    ((Response.writtenAs_requestJson payloads).sentAs (Payload.read?_request payloads))

/-- What comes back for changes are those changes restored. -/
theorem restoredAs_of_ofChanges {changes : List Change} {payloads : List Payload}
    (h : Payload.ofChanges changes = .ok payloads) :
    List.Forall₂ Change.RestoredAs changes (payloads.map Payload.toChange) := by
  rw [List.forall₂_map_right_iff]
  exact (Payload.ofChanges_eq_ok_iff.1 h).imp fun _ _ => Payload.Conveys.restoredAs

theorem eq_of_restoredAs {changes restored : List Change}
    (h : List.Forall₂ Change.RestoredAs changes restored)
    (hlabels : ∀ change ∈ changes,
      change.rule.Recognised Rule.id ∧ change.level.Recognised Level.id) :
    restored = changes := by
  induction h with
  | nil => rfl
  | cons hfirst _ ih =>
    obtain ⟨⟨hrule, hlevel⟩, hrest⟩ := List.forall_mem_cons.1 hlabels
    rw [hfirst.eq hrule hlevel, ih hrest]

/-! ## Comparisons -/

/-- The words of detected differences are recognised. -/
theorem Detection.recognised_classify (d : Detection) :
    d.classify.rule.Recognised Rule.id ∧ d.classify.level.Recognised Level.id :=
  ⟨Label.recognised_known Rule.id_injective _, Label.recognised_known Level.id_injective _⟩

/-- Between well-formed versions each difference is at a path. -/
theorem exists_path_of_mem_detections {old new : TypeMap} (hold : old.WellFormed)
    (hnew : new.WellFormed) :
    ∀ d ∈ (Snapshot.ofTypeMaps old new).detections, ∃ path, d.path = some path := by
  have hpath : ∀ {d : Detection}, d.Justified old new → ∃ path, d.path = some path := by
    rintro d ⟨place, ⟨path, hpath, -⟩, -⟩
    exact ⟨path, hpath⟩
  refine (forall_mem_detections hold hnew).2 ⟨?_, ?_, ?_⟩
  · intro key a ha hnone
    obtain ⟨hwf, rfl⟩ := hold.of_get? ha
    exact hpath (definitionRemoved_justified hwf ha hnone)
  · intro key b hb hnone
    obtain ⟨hwf, rfl⟩ := hnew.of_get? hb
    exact hpath (definitionAdded_justified hwf hb hnone)
  · intro key a b ha hb d hd
    obtain ⟨hwa, hka⟩ := hold.of_get? ha
    obtain ⟨hwb, rfl⟩ := hnew.of_get? hb
    exact hpath (Paired.justified_compare ⟨hka, ha, hb, hwa, hwb⟩ d hd)

/-- The changes between well-formed versions can be sent. -/
theorem isTextual_changes {old new : TypeMap} (hold : old.WellFormed) (hnew : new.WellFormed) :
    ∀ change ∈ (Snapshot.ofTypeMaps old new).changes, change.IsTextual := by
  intro change hchange
  obtain ⟨d, hd, rfl⟩ := List.mem_map.1 hchange
  obtain ⟨path, hpath⟩ := exists_path_of_mem_detections hold hnew d hd
  exact ⟨⟨_, rfl⟩, ⟨path, by rw [Detection.classify, hpath]; rfl⟩, ⟨_, rfl⟩⟩

/-- An answer with the changes of the versions and no verdict leaves a result as it is, except
that it was intercepted. -/
theorem Policy.result_settle_apply {policy : Policy} {sources : Sources} {label : Datum}
    {changes : List Change} {payloads : List Payload}
    (h : payloads.map Payload.toChange = changes) :
    (policy.settle sources label (.apply changes { changes := some payloads })).result =
      { (policy.unasked.settle sources label { changes }).result with intercepted := true } := by
  subst h
  rfl

/-- **Changes survive the wire.**  A service that gives back what it gets is heeded, and what
it gives back are the changes that were sent, one by one and in order; only that words for known
rules and levels are recognised.  So the result of a comparison is the one without it, except
that it was intercepted. -/
theorem mirror_restores_changes {endpoint : String} {seconds : Double}
    (haddress : (Address.ofText? endpoint).any Address.isAbsolute = true)
    (htime : seconds.isPositive = true) :
    (∀ changes : List Change, (∀ change ∈ changes, change.IsTextual) →
      ∃ outcome, (Interceptor.mirror endpoint).intercept seconds changes = some outcome ∧
        outcome.applied = true ∧ outcome.conclusion = none ∧
        List.Forall₂ Change.RestoredAs changes outcome.changes ∧
        ((∀ change ∈ changes,
          change.rule.Recognised Rule.id ∧ change.level.Recognised Level.id) →
            outcome.changes = changes)) ∧
    (∀ (strict : Bool) (sources : Sources) (snapshot : Snapshot) (label : Datum),
      (∀ change ∈ snapshot.changes, change.IsTextual) →
      ∃ comparison plain,
        (⟨strict, some (.mirror endpoint), seconds⟩ : Policy).diff sources snapshot label =
          some comparison ∧
        (⟨strict, none, seconds⟩ : Policy).diff sources snapshot label = some plain ∧
        comparison.result = { plain.result with intercepted := true }) ∧
    ∀ old new : TypeMap, old.WellFormed → new.WellFormed →
      ∀ change ∈ (Snapshot.ofTypeMaps old new).changes, change.IsTextual := by
  refine ⟨fun changes htextual => ?_, fun strict sources snapshot label htextual => ?_,
    fun old new => isTextual_changes⟩
  · obtain ⟨payloads, hchanges⟩ := exists_ofChanges_eq_ok htextual
    have hrestored := restoredAs_of_ofChanges hchanges
    exact ⟨_, Interceptor.intercept_of_answers (Interceptor.mirror_answers haddress htime hchanges),
      rfl, rfl, hrestored, eq_of_restoredAs hrestored⟩
  · obtain ⟨payloads, hchanges⟩ := exists_ofChanges_eq_ok htextual
    have hsame : payloads.map Payload.toChange = snapshot.changes := by
      refine eq_of_restoredAs (restoredAs_of_ofChanges hchanges) fun change hchange => ?_
      obtain ⟨d, -, rfl⟩ := List.mem_map.1 hchange
      exact d.recognised_classify
    have hhears : (⟨strict, some (.mirror endpoint), seconds⟩ : Policy).Hears snapshot.changes
        { changes := some payloads } :=
      ⟨_, rfl, Interceptor.mirror_answers haddress htime hchanges⟩
    exact ⟨_, _, by rw [Policy.diff, Policy.outcome_of_hears hhears]; rfl, rfl,
      Policy.result_settle_apply hsame⟩

/-- A change by a rule that is not known, with a text that has to be escaped. -/
def houseRule : Change where
  rule := .other "HOUSE_RULE"
  level := .known .dangerous
  message := .text "\"🎉\" \\ \t\x01"
  path := .text "A.b"

theorem houseRule_restored :
    (∃ outcome, (Interceptor.mirror "http://hook").intercept (.ofInt 10) [houseRule] =
        some outcome ∧ outcome.applied = true ∧ outcome.changes = [houseRule]) ∧
    ∃ comparison plain,
      (⟨false, some (.mirror "http://hook"), .ofInt 10⟩ : Policy).diff ⟨none, none⟩ dateDropped
        .nothing = some comparison ∧
      (⟨false, none, .ofInt 10⟩ : Policy).diff ⟨none, none⟩ dateDropped .nothing = some plain ∧
      comparison.result = { plain.result with intercepted := true } := by
  have htime : (Double.ofInt 10).isPositive = true := by decide
  obtain ⟨hasked, hcompared, htextual⟩ :=
    mirror_restores_changes Interceptor.hook_isAbsolute htime
  constructor
  · have hsent : ∀ change ∈ [houseRule], change.IsTextual := by
      intro change hchange
      obtain rfl := List.mem_singleton.1 hchange
      exact ⟨⟨_, rfl⟩, ⟨_, rfl⟩, ⟨none, rfl⟩⟩
    obtain ⟨outcome, hsome, happlied, -, -, hsame⟩ := hasked [houseRule] hsent
    refine ⟨outcome, hsome, happlied, hsame fun change hchange => ?_⟩
    obtain rfl := List.mem_singleton.1 hchange
    have hunknown : ∀ rule : Rule, "HOUSE_RULE" ≠ rule.id := by
      intro rule
      cases rule <;> decide
    exact ⟨fun rule h => absurd h (hunknown rule),
      Label.recognised_known Level.id_injective Level.dangerous⟩
  · exact hcompared false ⟨none, none⟩ dateDropped .nothing
      (htextual _ _ (by decide) (by decide))

end SchemaDrift
