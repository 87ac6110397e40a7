import SchemaDrift.Proofs.Compare.Families
import SchemaDrift.Proofs.Compare.Pairings
import SchemaDrift.Proofs.Compare.Reordering
import SchemaDrift.Proofs.Compare.Repeats
import SchemaDrift.Proofs.Compare.Required
import SchemaDrift.Proofs.Schema.Loaded

/-!
# Messages about types

A message about the type of a member quotes the notation of both references.

* `TypeChange.rules` — the rules under which a change of a type is reported.
* `Draft.typeRefs`, `DraftMap.typeRefs` — the references of a version.
* `Detection.ShowsTypes` — if a detection is about a type, its message quotes two references of the
  versions that differ, with one lemma for each part of a definition.
* `EndsInTexts`, `ShowsApart` — the texts that a message quotes at its end can be read off it, and
  they differ.
* `type_references_print_unambiguously` — the notation of a reference tells it, and so do messages.
-/

namespace SchemaDrift

/-! ## Rules on types -/

/-- The rules under which a change of the type of a field, argument or input field is reported. -/
def TypeChange.rules : List Rule :=
  [TypeChange.tightened, .loosened, .listWrapping, .retyped].flatMap fun change =>
    [change.fieldRule, change.argumentRule, change.inputFieldRule]

/-- A change of a text is reported under one of its three rules. -/
theorem TextRules.of_mem (rules : TextRules) (change : TextChange) :
    rules.of change ∈ [rules.added, rules.removed, rules.changed] := by
  cases change <;> simp [of]

theorem DeprecationRules.of_subset (rules : DeprecationRules) (change : TextChange) :
    rules.of change ⊆ [rules.flagAdded, rules.flagRemoved, rules.reasonAdded, rules.reasonRemoved,
      rules.reasonChanged] := by
  cases change <;> simp [of]

/-- If the detection is about a type, then its message quotes two references, one of each list, that
differ. -/
def Detection.ShowsTypes (old new : List TypeRef) (detection : Detection) : Prop :=
  detection.rule ∈ TypeChange.rules → ∃ before ∈ old, ∃ after ∈ new, before ≠ after ∧
    ∃ front, detection.message = front ++ fromToType before after

namespace Detection.ShowsTypes

variable {old new old' new' : List TypeRef} {detection : Detection}

theorem of_rule (h : detection.rule ∉ TypeChange.rules) : detection.ShowsTypes old new :=
  fun hrule => absurd hrule h

theorem mono (h : detection.ShowsTypes old new) (hold : old ⊆ old') (hnew : new ⊆ new') :
    detection.ShowsTypes old' new' := by
  intro hrule
  obtain ⟨before, hbefore, after, hafter, hmessage⟩ := h hrule
  exact ⟨before, hold hbefore, after, hnew hafter, hmessage⟩

end Detection.ShowsTypes

/-! ## Members -/

/-- Everything reported of a pairing has a property if it has it for members of the lists. -/
theorem forall_mem_pairing_report {α : Type} {name : α → Name} {old new : List α}
    {gone come : α → Detection} {both : α × α → List Detection} {p : Detection → Prop}
    (hgone : ∀ a ∈ old, p (gone a)) (hcome : ∀ b ∈ new, p (come b))
    (hboth : ∀ a ∈ old, ∀ b ∈ new, ∀ d ∈ both (a, b), p d) :
    ∀ d ∈ (pairByName name old new).report gone come both, p d := by
  unfold Pairing.report
  simp only [List.forall_mem_append, List.forall_mem_map, List.forall_mem_flatMap]
  refine ⟨⟨fun a ha => hgone a (mem_removed.1 ha).1, fun b hb => hcome b (mem_added.1 hb).1⟩, ?_⟩
  intro pair hpair
  obtain ⟨hold, hnew⟩ := mem_of_mem_shared hpair
  exact hboth pair.1 hold pair.2 hnew

theorem ne_of_between_eq_some {old new : TypeRef} {change : TypeChange}
    (h : TypeChange.between old new = some change) : old ≠ new := by
  intro heq
  rw [TypeChange.between_eq_none_iff.2 heq] at h
  exact nomatch h

namespace InputRules

/-- The rules on arguments or input fields that are not about their types. -/
def others (rules : InputRules) : List Rule :=
  [rules.removed, rules.requiredAdded, rules.optionalAdded, rules.becameRequired,
    rules.defaultChanged, rules.descriptionChanged]

theorem others_argument : ∀ rule ∈ argument.others, rule ∉ TypeChange.rules := by decide

theorem others_inputField : ∀ rule ∈ inputField.others, rule ∉ TypeChange.rules := by decide

variable {rules : InputRules} (hothers : ∀ rule ∈ rules.others, rule ∉ TypeChange.rules)

include hothers

theorem showsTypes_report {old new : InputValue} {retyped : TypeChange → Detection}
    {required : Detection} {default description : TextChange → Detection}
    (hretyped : ∀ change, ∃ front, (retyped change).message = front ++ fromToType old.type new.type)
    (hrequired : required.rule = rules.becameRequired)
    (hdefault : ∀ change, (default change).rule = rules.defaultChanged)
    (hdescription : ∀ change, (description change).rule = rules.descriptionChanged) :
    ∀ d ∈ old.report new retyped required default description,
      d.ShowsTypes [old.type] [new.type] := by
  rw [forall_mem_report]
  refine ⟨fun change hchange _ => ?_, fun _ => .of_rule ?_, fun change _ => .of_rule ?_,
    fun change _ => .of_rule ?_⟩
  · exact ⟨old.type, List.mem_singleton_self _, new.type, List.mem_singleton_self _,
      ne_of_between_eq_some hchange, hretyped change⟩
  · rw [hrequired]
    exact hothers _ (by simp [others])
  · rw [hdefault]
    exact hothers _ (by simp [others])
  · rw [hdescription]
    exact hothers _ (by simp [others])

theorem showsTypes_pairing {old new : List InputValue} {gone come : InputValue → Detection}
    {both : InputValue × InputValue → List Detection}
    (hgone : ∀ a, (gone a).rule = rules.removed) (hcome : ∀ b, (come b).rule = rules.added b)
    (hboth : ∀ a b, ∀ d ∈ both (a, b), d.ShowsTypes [a.type] [b.type]) :
    ∀ d ∈ (pairByName InputValue.name old new).report gone come both,
      d.ShowsTypes (old.map InputValue.type) (new.map InputValue.type) := by
  have hmember {value : InputValue} {values : List InputValue} (h : value ∈ values) :
      [value.type] ⊆ values.map InputValue.type :=
    List.cons_subset.2 ⟨List.mem_map_of_mem h, List.nil_subset _⟩
  refine forall_mem_pairing_report (fun a _ => .of_rule ?_) (fun b _ => .of_rule ?_)
    fun a ha b hb d hd => (hboth a b d hd).mono (hmember ha) (hmember hb)
  · rw [hgone]
    exact hothers _ (by simp [others])
  · rw [hcome, added]
    split
    · exact hothers _ (by simp [others])
    · exact hothers _ (by simp [others])

end InputRules

theorem Owner.showsTypes_compareArguments (owner : Owner) (old new : List InputValue) :
    ∀ d ∈ owner.compareArguments old new,
      d.ShowsTypes (old.map InputValue.type) (new.map InputValue.type) :=
  InputRules.showsTypes_pairing InputRules.others_argument (fun _ => rfl) owner.argumentAdded_rule
    fun _ _ => InputRules.showsTypes_report InputRules.others_argument (fun _ => ⟨_, rfl⟩) rfl
      (fun _ => rfl) fun _ => rfl

theorem showsTypes_compareInputFields (typeName : Name) (old new : List InputValue) :
    ∀ d ∈ compareInputFields typeName old new,
      d.ShowsTypes (old.map InputValue.type) (new.map InputValue.type) :=
  InputRules.showsTypes_pairing InputRules.others_inputField (fun _ => rfl)
    (inputFieldAdded_rule typeName _) fun _ _ =>
      InputRules.showsTypes_report InputRules.others_inputField (fun _ => ⟨_, rfl⟩) rfl
        (fun _ => rfl) fun _ => rfl

/-- What is reported of a deprecation is not about a type. -/
theorem DeprecationRules.showsTypes_compare {rules : DeprecationRules}
    (h : ∀ rule ∈ [rules.flagAdded, rules.flagRemoved, rules.reasonAdded, rules.reasonRemoved,
      rules.reasonChanged], rule ∉ TypeChange.rules)
    (path : String) (old new : Option String) {oldRefs newRefs : List TypeRef} :
    ∀ d ∈ rules.compare path old new, d.ShowsTypes oldRefs newRefs := by
  intro d hd
  have hrule := (rules.forall_mem_compare (P := fun rule _ => rule ∉ TypeChange.rules)).2
    (fun change _ rule hrule => h rule (rules.of_subset change hrule)) d hd
  exact .of_rule hrule

theorem showsTypes_compareField (typeName : Name) (old new : Field) :
    ∀ d ∈ compareField typeName old new, d.ShowsTypes old.typeRefs new.typeRefs := by
  unfold compareField
  simp only [List.forall_mem_append, forall_mem_toList_map]
  refine ⟨⟨⟨fun change hchange _ => ?_, fun change _ => .of_rule ?_⟩,
    DeprecationRules.showsTypes_compare (by decide) _ _ _⟩, fun d hd => ?_⟩
  · exact ⟨old.type, List.mem_cons_self, new.type, List.mem_cons_self,
      ne_of_between_eq_some hchange, _, rfl⟩
  · have hrules : ∀ rule ∈ [TextRules.field.added, TextRules.field.removed,
        TextRules.field.changed], rule ∉ TypeChange.rules := by decide
    rw [fieldDescription_rule]
    exact hrules _ (TextRules.field.of_mem change)
  · exact (Owner.showsTypes_compareArguments _ old.args new.args d hd).mono
      (List.subset_cons_self _ _) (List.subset_cons_self _ _)

theorem showsTypes_compareFields (typeName : Name) (label : String) (old new : List Field) :
    ∀ d ∈ compareFields typeName label old new,
      d.ShowsTypes (old.flatMap Field.typeRefs) (new.flatMap Field.typeRefs) := by
  have hmember {field : Field} {fields : List Field} (h : field ∈ fields) :
      field.typeRefs ⊆ fields.flatMap Field.typeRefs :=
    fun ref href => List.mem_flatMap.2 ⟨field, h, href⟩
  refine forall_mem_pairing_report (fun a _ => .of_rule ?_) (fun b _ => .of_rule ?_)
    fun a ha b hb d hd =>
      (showsTypes_compareField typeName a b d hd).mono (hmember ha) (hmember hb)
  · exact (by decide : Rule.fieldRemoved ∉ TypeChange.rules)
  · exact (by decide : Rule.fieldAdded ∉ TypeChange.rules)

theorem showsTypes_compareEnumValues (typeName : Name) (old new : List EnumValue)
    {oldRefs newRefs : List TypeRef} :
    ∀ d ∈ compareEnumValues typeName old new, d.ShowsTypes oldRefs newRefs := by
  refine forall_mem_pairing_report (fun a _ => .of_rule ?_) (fun b _ => .of_rule ?_)
    fun a _ b _ => ?_
  · exact (by decide : Rule.enumValueRemoved ∉ TypeChange.rules)
  · exact (by decide : Rule.enumValueAdded ∉ TypeChange.rules)
  · show ∀ d ∈ compareEnumValue typeName a b, _
    unfold compareEnumValue
    rw [List.forall_mem_append, forall_mem_toList_map]
    refine ⟨fun change _ => .of_rule ?_, DeprecationRules.showsTypes_compare (by decide) _ _ _⟩
    exact (by decide : Rule.enumValueDescriptionChanged ∉ TypeChange.rules)

/-! ## Definitions -/

section Definitions

variable {oldRefs newRefs : List TypeRef}

theorem showsTypes_compareNames {path : Option String} {gone come : Rule}
    {goneText comeText : String → String} {old new : List Name}
    (hgone : gone ∉ TypeChange.rules) (hcome : come ∉ TypeChange.rules) :
    ∀ d ∈ compareNames path gone come goneText comeText old new, d.ShowsTypes oldRefs newRefs :=
  forall_mem_compareNames.2 ⟨fun _ _ _ => .of_rule hgone, fun _ _ _ => .of_rule hcome⟩

namespace Definition

variable {old new : Definition}

theorem showsTypes_compareText : ∀ d ∈ old.compareText new, d.ShowsTypes oldRefs newRefs := by
  have hrules : ∀ rule ∈ [TextRules.type.added, TextRules.type.removed, TextRules.type.changed],
      rule ∉ TypeChange.rules := by decide
  intro d hd
  unfold compareText at hd
  split at hd
  · refine .of_rule (forall_mem_compareDirectiveDescription
      (P := fun rule _ => rule ∉ TypeChange.rules) |>.2 (fun _ => ?_) d hd)
    decide
  · refine .of_rule (forall_mem_compareDescription
      (P := fun rule _ => rule ∉ TypeChange.rules) |>.2 (fun change _ => ?_) d hd)
    exact hrules _ (TextRules.type.of_mem change)

theorem showsTypes_compareListed : ∀ d ∈ old.compareListed new, d.ShowsTypes oldRefs newRefs := by
  unfold compareListed compareInterfaces compareUnionMembers compareLocations
  simp only [List.forall_mem_append]
  refine ⟨⟨?_, ?_⟩, ?_⟩
  · exact showsTypes_compareNames (by decide) (by decide)
  · exact showsTypes_compareNames (by decide) (by decide)
  · exact showsTypes_compareNames (by decide) (by decide)

theorem showsTypes_compareFlags : ∀ d ∈ old.compareFlags new, d.ShowsTypes oldRefs newRefs := by
  intro d hd
  obtain hspecified | hrepeatable := List.mem_append.1 hd
  · refine .of_rule (forall_mem_compareSpecifiedBy
      (P := fun rule _ => rule ∉ TypeChange.rules) |>.2 (fun _ => ?_) d hspecified)
    decide
  · refine .of_rule (forall_mem_compareRepeatable
      (P := fun rule _ => rule ∉ TypeChange.rules) |>.2 (fun _ => ?_) d hrepeatable)
    unfold repeatableRule
    split <;> decide

theorem showsTypes_compareMembers :
    ∀ d ∈ old.compareMembers new, d.ShowsTypes old.body.typeRefs new.body.typeRefs := by
  rw [Body.typeRefs_eq, Body.typeRefs_eq]
  unfold compareMembers
  simp only [List.forall_mem_append]
  refine ⟨⟨⟨fun d hd => ?_, showsTypes_compareEnumValues _ _ _⟩, fun d hd => ?_⟩, fun d hd => ?_⟩
  · exact (showsTypes_compareFields _ _ _ _ d hd).mono
      (List.subset_append_of_subset_left _ (List.subset_append_left _ _))
      (List.subset_append_of_subset_left _ (List.subset_append_left _ _))
  · exact (showsTypes_compareInputFields _ _ _ d hd).mono
      (List.subset_append_of_subset_left _ (List.subset_append_right _ _))
      (List.subset_append_of_subset_left _ (List.subset_append_right _ _))
  · exact (Owner.showsTypes_compareArguments _ _ _ d hd).mono (List.subset_append_right _ _)
      (List.subset_append_right _ _)

theorem showsTypes_compare :
    ∀ d ∈ old.compare new, d.ShowsTypes old.body.typeRefs new.body.typeRefs := by
  by_cases hkind : old.kind = new.kind
  · rw [compare_of_kind_eq hkind]
    simp only [List.forall_mem_append]
    exact ⟨⟨⟨showsTypes_compareText, showsTypes_compareMembers⟩, showsTypes_compareListed⟩,
      showsTypes_compareFlags⟩
  · rw [compare_of_kind_ne hkind, List.forall_mem_singleton]
    exact .of_rule (by decide : Rule.typeKindChanged ∉ TypeChange.rules)

end Definition

end Definitions

/-! ## Versions -/

/-- The type references of a draft. -/
def Draft.typeRefs (draft : Draft) : List TypeRef :=
  draft.settle?.toList.flatMap fun definition => definition.body.typeRefs

/-- The type references of a version. -/
def DraftMap.typeRefs (types : DraftMap) : List TypeRef :=
  types.flatMap fun entry => entry.2.toList.flatMap Draft.typeRefs

theorem Draft.rule_of_kindChange? {old new : Draft} {change : Detection}
    (h : old.kindChange? new = some change) : change.rule = .typeKindChanged := by
  unfold Draft.kindChange? at h
  obtain ⟨name, -, h⟩ := Option.bind_eq_some_iff.1 h
  obtain ⟨before, -, h⟩ := Option.bind_eq_some_iff.1 h
  obtain ⟨after, -, h⟩ := Option.bind_eq_some_iff.1 h
  exact (Option.some.inj h) ▸ rfl

theorem Draft.showsTypes_compare? {old new : Draft} {reports : List Detection}
    (h : old.compare? new = some reports) :
    ∀ d ∈ reports, d.ShowsTypes old.typeRefs new.typeRefs := by
  unfold Draft.compare? at h
  split at h
  · exact nomatch h
  · split at h
    · split at h
      · next before after hbefore hafter =>
        obtain rfl := Option.some.inj h
        have hold : old.typeRefs = before.body.typeRefs := by
          rw [Draft.typeRefs, hbefore, Option.toList_some, List.flatMap_singleton]
        have hnew : new.typeRefs = after.body.typeRefs := by
          rw [Draft.typeRefs, hafter, Option.toList_some, List.flatMap_singleton]
        rw [hold, hnew]
        exact Definition.showsTypes_compare
      · exact nomatch h
    · obtain ⟨change, hchange, rfl⟩ := Option.map_eq_some_iff.1 h
      rw [List.forall_mem_singleton]
      exact .of_rule (by
        rw [Draft.rule_of_kindChange? hchange]
        decide)

theorem DraftMap.typeRefs_subset {types : DraftMap} {key : Name} {draft : Draft}
    (h : (key, some draft) ∈ types) : draft.typeRefs ⊆ types.typeRefs := by
  intro ref href
  refine List.mem_flatMap.2 ⟨_, h, ?_⟩
  rwa [Option.toList_some, List.flatMap_singleton]

/-- What is gone is reported under a rule that is not about types, and so is what is new. -/
theorem showsTypes_definitionRemoved (kind : Kind) (name : Name) {oldRefs newRefs : List TypeRef} :
    (definitionRemoved kind name).ShowsTypes oldRefs newRefs := by
  have hrule : (definitionRemoved kind name).rule ∈ [Rule.directiveRemoved, .typeRemoved] := by
    cases kind <;> simp [definitionRemoved]
  have hrules : ∀ rule ∈ [Rule.directiveRemoved, .typeRemoved], rule ∉ TypeChange.rules := by decide
  exact .of_rule (hrules _ hrule)

theorem showsTypes_definitionAdded (kind : Kind) (name : Name) {oldRefs newRefs : List TypeRef} :
    (definitionAdded kind name).ShowsTypes oldRefs newRefs := by
  have hrule : (definitionAdded kind name).rule ∈ [Rule.directiveAdded, .typeAdded] := by
    cases kind <;> simp [definitionAdded]
  have hrules : ∀ rule ∈ [Rule.directiveAdded, .typeAdded], rule ∉ TypeChange.rules := by decide
  exact .of_rule (hrules _ hrule)

theorem showsTypes_removalOf (draft : Option Draft) {oldRefs newRefs : List TypeRef} :
    ∀ d ∈ (removalOf draft).getD [], d.ShowsTypes oldRefs newRefs := by
  cases draft with
  | none => exact List.forall_mem_nil _
  | some gone =>
    unfold removalOf
    rw [Option.bind_eq_bind, Option.bind_some]
    cases gone.name? with
    | none => exact List.forall_mem_nil _
    | some name => exact List.forall_mem_singleton.2 (showsTypes_definitionRemoved _ _)

theorem showsTypes_additionOf (draft : Option Draft) {oldRefs newRefs : List TypeRef} :
    ∀ d ∈ (additionOf draft).getD [], d.ShowsTypes oldRefs newRefs := by
  cases draft with
  | none => exact List.forall_mem_nil _
  | some come =>
    unfold additionOf
    rw [Option.bind_eq_bind, Option.bind_some]
    cases come.name? with
    | none => exact List.forall_mem_nil _
    | some name => exact List.forall_mem_singleton.2 (showsTypes_definitionAdded _ _)

namespace Snapshot

theorem mem_of_lookup {types : DraftMap} {key : Name} {draft : Draft}
    (h : (Keyed.get? types key).join = some draft) : (key, some draft) ∈ types := by
  rw [Option.join_eq_some_iff, Keyed.get?, Option.map_eq_some_iff] at h
  obtain ⟨entry, hfound, hdraft⟩ := h
  have hkey : entry.1 = key := by simpa using List.find?_some hfound
  rw [← hkey, ← hdraft]
  exact List.mem_of_find?_eq_some hfound

theorem showsTypes_newBlock (snapshot : Snapshot) {entry : Name × Option Draft}
    (h : entry ∈ snapshot.new) :
    ∀ d ∈ (snapshot.newBlock entry.1 entry.2).detections.getD [],
      d.ShowsTypes snapshot.old.typeRefs snapshot.new.typeRefs := by
  obtain ⟨key, draft⟩ := entry
  unfold newBlock
  cases hold : (snapshot.old.get? key).join with
  | none => exact showsTypes_additionOf draft
  | some before =>
    cases draft with
    | none => exact List.forall_mem_nil _
    | some after =>
      dsimp only [Option.bind_some]
      cases hcompare : before.compare? after with
      | none => exact List.forall_mem_nil _
      | some reports =>
        intro d hd
        exact (Draft.showsTypes_compare? hcompare d hd).mono
          (DraftMap.typeRefs_subset (mem_of_lookup hold)) (DraftMap.typeRefs_subset h)

/-- Whatever is reported about a type quotes references of the two versions. -/
theorem showsTypes_detections (snapshot : Snapshot) :
    ∀ d ∈ snapshot.detections, d.ShowsTypes snapshot.old.typeRefs snapshot.new.typeRefs := by
  unfold detections blocks removalBlocks
  simp only [List.flatMap_append, List.flatMap_map, List.forall_mem_append,
    List.forall_mem_flatMap]
  constructor
  · exact fun entry _ => showsTypes_removalOf entry.2
  · exact fun entry hentry => snapshot.showsTypes_newBlock hentry

end Snapshot

/-! ## Reading a message -/

/-- A message ends in two texts in quotes that have no quote in them themselves. -/
structure EndsInTexts (message before after : String) : Prop where
  ends : ∃ front, message = front ++ "from '" ++ before ++ "' to '" ++ after ++ "'"
  before : '\'' ∉ before.toList
  after : '\'' ∉ after.toList

/-- Nothing comes between a character and the same one after it if it does not occur again. -/
theorem eq_nil_of_cons_eq_append {between back back' : List Char} {c : Char} (hback : c ∉ back)
    (h : c :: back = between ++ c :: back') : between = [] ∧ back = back' := by
  cases between with
  | nil => exact ⟨rfl, (List.cons.inj h).2⟩
  | cons d more =>
    obtain ⟨-, rfl⟩ := List.cons.inj h
    exact absurd (List.mem_append_right more List.mem_cons_self) hback

/-- A text can be cut in only one way at the last place of a character. -/
theorem append_cons_inj_of_last {front front' back back' : List Char} {c : Char}
    (hback : c ∉ back) (hback' : c ∉ back') (h : front ++ c :: back = front' ++ c :: back') :
    front = front' ∧ back = back' := by
  obtain ⟨between, rfl, hbetween⟩ | ⟨between, rfl, hbetween⟩ := List.append_eq_append_iff.1 h
  · obtain ⟨rfl, rfl⟩ := eq_nil_of_cons_eq_append hback hbetween
    exact ⟨(List.append_nil _).symm, rfl⟩
  · obtain ⟨rfl, rfl⟩ := eq_nil_of_cons_eq_append hback' hbetween
    exact ⟨List.append_nil _, rfl⟩

theorem EndsInTexts.toList_eq {message before after : String}
    (h : EndsInTexts message before after) : ∃ front, message.toList =
      front ++ '\'' :: before.toList ++ "' to ".toList ++ '\'' :: after.toList ++ ['\''] := by
  obtain ⟨front, rfl⟩ := h.ends
  refine ⟨front.toList ++ "from ".toList, ?_⟩
  simp [String.toList_append]

/-- The texts at the end of a message can be read off it. -/
theorem EndsInTexts.unique {message before after before' after' : String}
    (h : EndsInTexts message before after) (h' : EndsInTexts message before' after') :
    before' = before ∧ after' = after := by
  obtain ⟨front, hfront⟩ := h.toList_eq
  obtain ⟨front', hfront'⟩ := h'.toList_eq
  -- The message is read from its end: the last text goes back to the last quote but one.
  rw [hfront, List.append_left_inj] at hfront'
  obtain ⟨hrest, hafter⟩ := append_cons_inj_of_last h.after h'.after hfront'
  rw [List.append_left_inj] at hrest
  obtain ⟨-, hbefore⟩ := append_cons_inj_of_last h.before h'.before hrest
  exact ⟨String.toList_inj.1 hbefore.symm, String.toList_inj.1 hafter.symm⟩

theorem TypeRef.Legible.quote_notMem {ref : TypeRef} (h : ref.Legible) :
    '\'' ∉ ref.text.toList := by
  intro hmem
  exact absurd (isNameChar_or_mem_of_mem_text h hmem) (by decide)

theorem endsInTexts_fromToType {before after : TypeRef} (hbefore : before.Legible)
    (hafter : after.Legible) (front : String) :
    EndsInTexts (front ++ fromToType before after) before.text after.text where
  ends := ⟨front, by simp [fromToType, String.append_assoc]⟩
  before := hbefore.quote_notMem
  after := hafter.quote_notMem

/-- A message shows two texts that differ, and no others can be read off its end. -/
structure ShowsApart (message before after : String) : Prop where
  shown : EndsInTexts message before after
  apart : before ≠ after
  only : ∀ one other, EndsInTexts message one other → one = before ∧ other = after

/-- References that differ are shown apart. -/
theorem showsApart_fromToType {before after : TypeRef} (hbefore : before.Legible)
    (hafter : after.Legible) (hne : before ≠ after) (front : String) :
    ShowsApart (front ++ fromToType before after) before.text after.text where
  shown := endsInTexts_fromToType hbefore hafter front
  apart htexts := hne ((TypeRef.text_inj_iff hbefore hafter).1 htexts)
  only _ _ h := (endsInTexts_fromToType hbefore hafter front).unique h

/-- The references of a version that is loaded can be read off their notation. -/
theorem legible_of_mem_typeRefs {text : String} {types : TypeMap}
    (h : TypeMap.load text = .ok types) : ∀ ref ∈ types.toDrafts.typeRefs, ref.Legible := by
  intro ref href
  obtain ⟨entry, hentry, hmem⟩ := List.mem_flatMap.1 href
  obtain ⟨⟨key, definition⟩, hdefinition, rfl⟩ := List.mem_map.1 hentry
  rw [Option.toList_some, List.flatMap_singleton, Draft.typeRefs, Draft.settle?_toDraft,
    Option.toList_some, List.flatMap_singleton] at hmem
  exact Sdl.lawful_frontEnd.legible_of_load h _ hdefinition ref hmem

/-- **Type references print unambiguously.**  A reference that a document can write, with a name of
the schema language at the core, is what its notation is read as, however deep its lists are, so two
of them have one notation exactly if they are equal.  Whatever is reported about the type of a
member quotes the references of the two versions, which differ, so if both are such references the
message shows two texts that differ.  Between schemas that are loaded all of them are. -/
theorem type_references_print_unambiguously :
    (∀ ref : TypeRef, ref.Legible → TypeRef.ofNotation ref.text.toList = ref) ∧
    (∀ one other : TypeRef, one.Legible → other.Legible →
      (one.text = other.text ↔ one = other)) ∧
    (∀ snapshot : Snapshot, ∀ d ∈ snapshot.detections, d.rule ∈ TypeChange.rules →
      ∃ before ∈ snapshot.old.typeRefs, ∃ after ∈ snapshot.new.typeRefs,
        before ≠ after ∧ (∃ front, d.message = front ++ fromToType before after) ∧
          (before.Legible → after.Legible → ShowsApart d.message before.text after.text)) ∧
    ∀ (oldText newText : String) (old new : TypeMap), TypeMap.load oldText = .ok old →
      TypeMap.load newText = .ok new → ∀ d ∈ (Snapshot.ofTypeMaps old new).detections,
        d.rule ∈ TypeChange.rules → ∃ before after, ShowsApart d.message before after := by
  refine ⟨fun ref => TypeRef.ofNotation_text, fun one other => TypeRef.text_inj_iff, ?_, ?_⟩
  · intro snapshot d hd hrule
    obtain ⟨before, hbefore, after, hafter, hne, front, hmessage⟩ :=
      snapshot.showsTypes_detections d hd hrule
    refine ⟨before, hbefore, after, hafter, hne, ⟨front, hmessage⟩, fun hlegible hlegible' => ?_⟩
    rw [hmessage]
    exact showsApart_fromToType hlegible hlegible' hne front
  · intro oldText newText old new hold hnew d hd hrule
    obtain ⟨before, hbefore, after, hafter, hne, front, hmessage⟩ :=
      (Snapshot.ofTypeMaps old new).showsTypes_detections d hd hrule
    refine ⟨before.text, after.text, ?_⟩
    rw [hmessage]
    exact showsApart_fromToType (legible_of_mem_typeRefs hold _ hbefore)
      (legible_of_mem_typeRefs hnew _ hafter) hne front

/-- A field whose type is a list inside a list, with two marks. -/
def gridText : String := "type A \x7b x: [[Int]!]! \x7d"

/-- The same field, with one mark. -/
def looseGridText : String := "type A \x7b x: [[Int]!] \x7d"

/-- The two types are told apart by their notation, and so by the message about the field. -/
theorem grid_shown_apart :
    (let grid : TypeRef := .nonNull (.list (.nonNull (.list (.named "Int"))))
      let loose : TypeRef := .list (.nonNull (.list (.named "Int")))
      grid.Legible ∧ loose.Legible ∧ TypeRef.ofNotation "[[Int]!]!".toList = grid ∧
        grid.text ≠ loose.text) ∧
    ∃ old new, TypeMap.load gridText = .ok old ∧ TypeMap.load looseGridText = .ok new ∧
      (Snapshot.ofTypeMaps old new).detections = [⟨.fieldNullabilityLoosened, some "A.x",
        "Field 'A.x' changed type from '[[Int]!]!' to '[[Int]!]'"⟩] ∧
      ShowsApart "Field 'A.x' changed type from '[[Int]!]!' to '[[Int]!]'" "[[Int]!]!"
        "[[Int]!]" := by
  obtain ⟨hread, htext, -, hloaded⟩ := type_references_print_unambiguously
  constructor
  · intro grid loose
    have hgrid : grid.Legible := by decide
    have hloose : loose.Legible := by decide
    refine ⟨hgrid, hloose, hread grid hgrid, fun h => ?_⟩
    exact absurd ((htext grid loose hgrid hloose).1 h) (by decide)
  · obtain ⟨old, new, hold, hnew, hdetections⟩ :
        ∃ old new, TypeMap.load gridText = .ok old ∧ TypeMap.load looseGridText = .ok new ∧
          (Snapshot.ofTypeMaps old new).detections = [⟨.fieldNullabilityLoosened, some "A.x",
            "Field 'A.x' changed type from '[[Int]!]!' to '[[Int]!]'"⟩] :=
      exists_loaded (by decide +kernel)
    refine ⟨old, new, hold, hnew, hdetections, ?_⟩
    have hshown : EndsInTexts "Field 'A.x' changed type from '[[Int]!]!' to '[[Int]!]'"
        "[[Int]!]!" "[[Int]!]" :=
      ⟨⟨"Field 'A.x' changed type ", by decide⟩, by decide, by decide⟩
    have hmem := List.mem_singleton_self (⟨.fieldNullabilityLoosened, some "A.x",
      "Field 'A.x' changed type from '[[Int]!]!' to '[[Int]!]'"⟩ : Detection)
    obtain ⟨before, after, hapart⟩ :=
      hloaded gridText looseGridText old new hold hnew _ (hdetections ▸ hmem) (by decide)
    obtain ⟨rfl, rfl⟩ := hapart.only _ _ hshown
    exact hapart

end SchemaDrift
