import SchemaDrift.Compare.Detect
import SchemaDrift.Proofs.Compare.Reports
import SchemaDrift.Proofs.Schema.Intact

/-!
# The detections between well-formed type maps

Nothing is missing from an intact type map, so the detections between two of them have a
simple form.  In well-formed maps no comparison at all is given up.

* `Draft.compare?_toDraft_of_complete` — definitions from which no type is missing can be
  compared unless one is a directive and the other a type.
* `Snapshot.detections_of_intact`, `Snapshot.detections_ofTypeMaps` — the detections as one
  list: removals, then for each new definition its addition or its comparison with the old
  one.
* `forall_mem_detections` — what it takes that all detections have a property.
-/

namespace SchemaDrift

/-! ## Keys -/

/-- The key of a directive is no proper name. -/
theorem not_isProper_key_directive (name : Name) : ¬(Kind.key .directive name).IsProper := by
  rintro ⟨word, hkey, hword⟩
  have hchars : word.toList = '@' :: name.text.toList := by
    rw [← Option.some.inj hkey, String.toList_append]
    rfl
  rw [hchars] at hword
  exact absurd hword (by simp [Text.isName, Text.isNameStart, Text.isLetter])

/-- The key of a type is its name. -/
theorem Definition.key_eq_name {definition : Definition} (h : definition.kind ≠ .directive) :
    definition.key = definition.name := by
  unfold Definition.key Kind.key
  split
  · rename_i hk
    exact absurd hk h
  · rfl

theorem Definition.key_eq_of_directive {definition : Definition}
    (h : definition.kind = .directive) :
    definition.key = some ("@" ++ definition.name.text) := by
  rw [Definition.key, h]
  rfl

/-- Of two well-formed definitions under one key, both or none are directives. -/
theorem Definition.directive_iff_of_key_eq {old new : Definition} (hold : old.WellFormed)
    (hnew : new.WellFormed) (h : old.key = new.key) :
    old.kind = .directive ↔ new.kind = .directive := by
  constructor
  · intro ho
    by_contra hn
    rw [key_eq_name hn, Definition.key, ho] at h
    exact not_isProper_key_directive old.name (h ▸ hnew.name)
  · intro hn
    by_contra ho
    rw [key_eq_name ho, Definition.key, hn] at h
    exact not_isProper_key_directive new.name (h ▸ hold.name)

theorem at_append_ne (word : String) : "@" ++ word ≠ word := by
  intro h
  have hlength := congrArg String.length h
  rw [String.length_append, show "@".length = 1 from rfl] at hlength
  omega

/-- Two definitions under one key have one name if both or none are directives, and only
then. -/
theorem Definition.name_eq_iff_of_key_eq {old new : Definition} (hold : old.name ≠ none)
    (hnew : new.name ≠ none) (h : old.key = new.key) :
    old.name = new.name ↔ (old.kind = .directive ↔ new.kind = .directive) := by
  obtain ⟨o, ho⟩ := Option.ne_none_iff_exists'.1 hold
  obtain ⟨n, hn⟩ := Option.ne_none_iff_exists'.1 hnew
  by_cases hod : old.kind = .directive
  · by_cases hnd : new.kind = .directive
    · rw [key_eq_of_directive hod, key_eq_of_directive hnd, ho, hn] at h
      have hword : o = n := by simpa [← String.toList_inj] using h
      simp [ho, hn, hword, hod, hnd]
    · rw [key_eq_of_directive hod, key_eq_name hnd, ho] at h
      simp only [hod, hnd, iff_false, not_true_eq_false]
      rw [ho, ← h]
      exact fun he => at_append_ne o (Option.some.inj he).symm
  · by_cases hnd : new.kind = .directive
    · rw [key_eq_name hod, key_eq_of_directive hnd, hn] at h
      simp only [hod, hnd, iff_true, iff_false]
      rw [h, hn]
      exact fun he => at_append_ne n (Option.some.inj he)
    · rw [key_eq_name hod, key_eq_name hnd] at h
      simp only [hod, hnd, iff_self, iff_true]
      exact h

/-- Well-formed definitions under one key have one name. -/
theorem Definition.name_eq_of_key_eq {old new : Definition} (hold : old.WellFormed)
    (hnew : new.WellFormed) (h : old.key = new.key) : old.name = new.name :=
  (name_eq_iff_of_key_eq hold.name.ne_none hnew.name.ne_none h).2
    (directive_iff_of_key_eq hold hnew h)

/-! ## Nothing is missing -/

@[simp] theorem Definition.kind_toDraft (definition : Definition) :
    definition.toDraft.kind = definition.kind := by
  obtain ⟨name, description, body⟩ := definition
  cases body <;> rfl

theorem inputsLegible_whole {old new : List InputValue}
    (hold : ∀ value ∈ old, value.type.Complete) (hnew : ∀ value ∈ new, value.type.Complete) :
    inputsLegible (Holey.whole old) (Holey.whole new) = true := by
  simp only [inputsLegible, Holey.isWhole_whole, Holey.present_whole, Bool.true_and,
    Bool.and_eq_true, List.all_eq_true, bne_iff_ne]
  constructor
  · intro value hv
    exact (hnew value (mem_added.1 hv).1).ne_absent
  · intro pair hp
    obtain ⟨ho, hn⟩ := mem_of_mem_shared hp
    exact ⟨(hold _ ho).ne_absent, (hnew _ hn).ne_absent⟩

/-- The type references of a field and of its arguments. -/
def Field.typeRefs (field : Field) : List TypeRef := field.type :: field.args.map InputValue.type

theorem fieldsLegible_whole {old new : List Field}
    (hold : ∀ field ∈ old, ∀ ref ∈ field.typeRefs, ref.Complete)
    (hnew : ∀ field ∈ new, ∀ ref ∈ field.typeRefs, ref.Complete) :
    fieldsLegible (Holey.whole (old.map Field.toDraft)) (Holey.whole (new.map Field.toDraft))
      = true := by
  simp only [fieldsLegible, Holey.isWhole_whole, Holey.present_whole, Bool.true_and,
    List.all_eq_true]
  intro pair hp
  obtain ⟨ho, hn⟩ := mem_of_mem_shared hp
  obtain ⟨a, ha, ha'⟩ := List.mem_map.1 ho
  obtain ⟨b, hb, hb'⟩ := List.mem_map.1 hn
  obtain ⟨hta, haa⟩ := List.forall_mem_cons.1 (hold a ha)
  obtain ⟨htb, hba⟩ := List.forall_mem_cons.1 (hnew b hb)
  rw [← ha', ← hb', DraftField.legible, Bool.and_eq_true]
  constructor
  · have hna : a.type ≠ .absent := hta.ne_absent
    have hnb : b.type ≠ .absent := htb.ne_absent
    simp [Field.toDraft, hna, hnb]
  · exact inputsLegible_whole (List.forall_mem_map.1 haa) (List.forall_mem_map.1 hba)

/-- Bodies of one class from which no type is missing can be compared. -/
theorem Body.legible_toDraft {old new : Body} (hold : ∀ ref ∈ old.typeRefs, ref.Complete)
    (hnew : ∀ ref ∈ new.typeRefs, ref.Complete) (h : old.kind = new.kind) :
    old.toDraft.legible new.toDraft = true := by
  cases sameClass_of_kind_eq h with
  | object | interface =>
    have hfields := fieldsLegible_whole (List.forall_mem_flatMap.1 hold)
      (List.forall_mem_flatMap.1 hnew)
    simp only [Body.toDraft, DraftBody.legible, hfields, Option.isSome_some, Bool.and_self]
  | union => rfl
  | enum => simp [Body.toDraft, DraftBody.legible]
  | input => exact inputsLegible_whole (List.forall_mem_map.1 hold) (List.forall_mem_map.1 hnew)
  | scalar => rfl
  | directive =>
    have hargs := inputsLegible_whole (List.forall_mem_map.1 hold) (List.forall_mem_map.1 hnew)
    simp only [Body.toDraft, DraftBody.legible, hargs, Option.isSome_some, Bool.and_self]

/-- Definitions from which no type is missing can be compared, unless one is a directive
and the other a type. -/
theorem Draft.compare?_toDraft_of_complete {old new : Definition}
    (hold : ∀ ref ∈ old.body.typeRefs, ref.Complete)
    (hnew : ∀ ref ∈ new.body.typeRefs, ref.Complete) :
    old.toDraft.compare? new.toDraft =
      if (old.kind = .directive ↔ new.kind = .directive) then some (old.compare new) else none := by
  unfold Draft.compare? Draft.legible
  rw [Draft.settle?_toDraft, Draft.settle?_toDraft]
  by_cases hk : old.kind = new.kind
  · have hlegible := Body.legible_toDraft hold hnew hk
    simp [hk, show old.toDraft.body.legible new.toDraft.body = true from hlegible]
  · rw [Definition.compare_of_kind_ne hk]
    by_cases ho : old.kind = .directive
    · have hn : new.kind ≠ .directive := fun hn => hk (ho.trans hn.symm)
      simp [ho, hn, hn.symm]
    · by_cases hn : new.kind = .directive <;> simp [Draft.kindChange?, hk, ho, hn]

/-! ## Detections key by key -/

/-- What is reported of two definitions under one key.  A directive and a type are not
compared. -/
def Definition.report (old new : Definition) : List Detection :=
  if (old.kind = .directive ↔ new.kind = .directive) then old.compare new else []

/-- What is reported of a definition of the new version: its addition, or how it differs
from the old definition under its key. -/
def reportOfNew (old : TypeMap) (entry : Name × Definition) : List Detection :=
  match Keyed.get? old entry.1 with
  | none => [definitionAdded entry.2.kind entry.2.name]
  | some before => before.compare entry.2

/-- The same where a directive and a type may stand under one key. -/
def reportUnder (old : TypeMap) (entry : Name × Definition) : List Detection :=
  match Keyed.get? old entry.1 with
  | none => [definitionAdded entry.2.kind entry.2.name]
  | some before => before.report entry.2

variable {old new : TypeMap}

theorem TypeMap.Intact.of_get? {types : TypeMap} (h : types.Intact) {key : Name}
    {definition : Definition} (hd : Keyed.get? types key = some definition) :
    definition.Intact ∧ definition.key = key := by
  have hmem := (Keyed.get?_eq_some_iff h.nodup).1 hd
  exact ⟨h.definition _ hmem, (h.key _ hmem).symm⟩

theorem TypeMap.WellFormed.of_get? {types : TypeMap} (h : types.WellFormed) {key : Name}
    {definition : Definition} (hd : Keyed.get? types key = some definition) :
    definition.WellFormed ∧ definition.key = key := by
  have hmem := (Keyed.get?_eq_some_iff h.nodup).1 hd
  exact ⟨h.definition _ hmem, (h.key _ hmem).symm⟩

/-- The block of a key of the new version is what is reported of its definition. -/
theorem Snapshot.newBlock_ofTypeMaps (hold : old.Intact) (hnew : new.Intact)
    {entry : Name × Definition} (h : entry ∈ new) :
    ((Snapshot.ofTypeMaps old new).newBlock entry.1 (some entry.2.toDraft)).detections.getD [] =
      reportUnder old entry := by
  have hget : Keyed.get? (Snapshot.ofTypeMaps old new).old entry.1 =
      (Keyed.get? old entry.1).map fun d => some d.toDraft :=
    Keyed.get?_map (fun d : Definition => some d.toDraft) old entry.1
  unfold Snapshot.newBlock reportUnder
  rw [hget]
  cases hb : Keyed.get? old entry.1 with
  | none => simp [additionOf]
  | some before =>
    have hcompare := Draft.compare?_toDraft_of_complete (hold.of_get? hb).1.typeRefs
      (hnew.definition _ h).typeRefs
    simp only [Option.map_some, Option.join_some, Option.bind_some, hcompare, Definition.report]
    split <;> rfl

/-- The blocks of the keys that only the old version has report that they are gone. -/
theorem Snapshot.removalBlocks_ofTypeMaps (old new : TypeMap) :
    (Snapshot.ofTypeMaps old new).removalBlocks =
      (old.filter fun entry => !Keyed.has new entry.1).map fun entry =>
        ⟨entry.1, some [definitionRemoved entry.2.kind entry.2.name]⟩ := by
  have hhas : ∀ key, Keyed.has (Snapshot.ofTypeMaps old new).new key = Keyed.has new key :=
    Keyed.has_map (fun d : Definition => some d.toDraft) new
  have hdrafts : (Snapshot.ofTypeMaps old new).old =
      old.map fun entry => (entry.1, some entry.2.toDraft) := rfl
  simp only [Snapshot.removalBlocks, hhas, hdrafts, List.filter_map, List.map_map]
  refine List.map_congr_left fun entry _ => ?_
  simp [removalOf]

/-- The detections: the removals in the order of the old version, then what is reported
of each new definition in the order of the new version. -/
theorem Snapshot.detections_of_intact (hold : old.Intact) (hnew : new.Intact) :
    (Snapshot.ofTypeMaps old new).detections =
      ((old.filter fun entry => !Keyed.has new entry.1).map fun entry =>
        definitionRemoved entry.2.kind entry.2.name) ++ new.flatMap (reportUnder old) := by
  have hdrafts : (Snapshot.ofTypeMaps old new).new =
      new.map fun entry => (entry.1, some entry.2.toDraft) := rfl
  rw [Snapshot.detections, Snapshot.blocks, removalBlocks_ofTypeMaps, hdrafts,
    List.flatMap_append, List.flatMap_map, List.flatMap_map, List.flatMap_map,
    List.map_eq_flatMap]
  refine congrArg₂ (· ++ ·) rfl (List.flatMap_congr fun entry he => ?_)
  exact newBlock_ofTypeMaps hold hnew he

/-- In well-formed maps the definitions under one key can always be compared. -/
theorem reportUnder_eq_reportOfNew (hold : old.WellFormed) (hnew : new.WellFormed)
    {entry : Name × Definition} (h : entry ∈ new) :
    reportUnder old entry = reportOfNew old entry := by
  unfold reportUnder reportOfNew
  cases hb : Keyed.get? old entry.1 with
  | none => rfl
  | some before =>
    obtain ⟨hwf, hkey⟩ := hold.of_get? hb
    have hdirective := Definition.directive_iff_of_key_eq hwf (hnew.definition _ h)
      (hkey.trans (hnew.key _ h))
    exact if_pos hdirective

/-- The detections between well-formed maps. -/
theorem Snapshot.detections_ofTypeMaps (hold : old.WellFormed) (hnew : new.WellFormed) :
    (Snapshot.ofTypeMaps old new).detections =
      ((old.filter fun entry => !Keyed.has new entry.1).map fun entry =>
        definitionRemoved entry.2.kind entry.2.name) ++ new.flatMap (reportOfNew old) := by
  rw [detections_of_intact hold.intact hnew.intact]
  exact congrArg _ (List.flatMap_congr fun entry he => reportUnder_eq_reportOfNew hold hnew he)

/-- All detections have a property if the removals, the additions and the comparisons
under each key have it. -/
theorem forall_mem_detections (hold : old.WellFormed) (hnew : new.WellFormed)
    {Q : Detection → Prop} :
    (∀ d ∈ (Snapshot.ofTypeMaps old new).detections, Q d) ↔
      (∀ key a, Keyed.get? old key = some a → Keyed.get? new key = none →
        Q (definitionRemoved a.kind a.name)) ∧
      (∀ key b, Keyed.get? new key = some b → Keyed.get? old key = none →
        Q (definitionAdded b.kind b.name)) ∧
      ∀ key a b, Keyed.get? old key = some a → Keyed.get? new key = some b →
        ∀ d ∈ a.compare b, Q d := by
  have hhas : ∀ key, Keyed.has new key = false ↔ Keyed.get? new key = none := fun key => by
    rw [Keyed.get?_eq_none_iff, ← Keyed.has_iff_mem_keys, Bool.not_eq_true]
  rw [Snapshot.detections_ofTypeMaps hold hnew]
  simp only [List.forall_mem_append, List.forall_mem_map, List.forall_mem_flatMap,
    List.mem_filter, Bool.not_eq_true', Prod.forall, Keyed.get?_eq_some_iff hold.nodup,
    Keyed.get?_eq_some_iff hnew.nodup, and_imp, hhas]
  refine and_congr_right' ?_
  constructor
  · intro h
    constructor
    · intro key b hb hnone
      have hreport := h key b hb
      rw [reportOfNew, hnone] at hreport
      exact hreport _ List.mem_cons_self
    · intro key a b ha hb
      have hreport := h key b hb
      rw [reportOfNew, (Keyed.get?_eq_some_iff hold.nodup).2 ha] at hreport
      exact hreport
  · rintro ⟨hcome, hboth⟩ key b hb
    cases hfound : Keyed.get? old key with
    | none =>
      rw [reportOfNew, hfound]
      exact List.forall_mem_singleton.2 (hcome key b hb hfound)
    | some a =>
      rw [reportOfNew, hfound]
      exact hboth key a b ((Keyed.get?_eq_some_iff hold.nodup).1 hfound) hb

end SchemaDrift
