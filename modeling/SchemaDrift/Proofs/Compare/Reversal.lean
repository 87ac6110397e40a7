import SchemaDrift.Proofs.Compare.Families
import SchemaDrift.Proofs.Compare.Pairings
import SchemaDrift.Proofs.Schema.TypeChanges

/-!
# Exchanging the versions

The detections in one direction mirror those in the other: what is removed in one is added
in the other, what is tightened in one is loosened in the other.  Only that a value becomes
required has no counterpart, as it is reported in one direction alone.

* `Rule.mirror`, `Rule.merged`, `Rule.isOneWay` — the rule in the other direction.
* `Reverses` — the second report is the first one mirrored, up to order.
* `reverses_report` — the reports of two pairings with the sides exchanged.
* `detections_reverse` — the detections in the two directions.
-/

namespace SchemaDrift

/-! ## The rule in the other direction -/

/-- The rule under which a change is reported if the versions are exchanged.  For what is
removed it is the one on what may be left out. -/
def Rule.mirror : Rule → Rule
  | .typeAdded => .typeRemoved
  | .typeRemoved => .typeAdded
  | .typeDescriptionAdded => .typeDescriptionRemoved
  | .typeDescriptionRemoved => .typeDescriptionAdded
  | .fieldAdded => .fieldRemoved
  | .fieldRemoved => .fieldAdded
  | .fieldNullabilityTightened => .fieldNullabilityLoosened
  | .fieldNullabilityLoosened => .fieldNullabilityTightened
  | .fieldDescriptionAdded => .fieldDescriptionRemoved
  | .fieldDescriptionRemoved => .fieldDescriptionAdded
  | .fieldDeprecationAdded => .fieldDeprecationRemoved
  | .fieldDeprecationRemoved => .fieldDeprecationAdded
  | .fieldDeprecationReasonAdded => .fieldDeprecationReasonRemoved
  | .fieldDeprecationReasonRemoved => .fieldDeprecationReasonAdded
  | .argumentRemoved => .optionalArgumentAdded
  | .requiredArgumentAdded => .argumentRemoved
  | .optionalArgumentAdded => .argumentRemoved
  | .argumentNullabilityTightened => .argumentNullabilityLoosened
  | .argumentNullabilityLoosened => .argumentNullabilityTightened
  | .enumValueAdded => .enumValueRemoved
  | .enumValueRemoved => .enumValueAdded
  | .enumValueDeprecationAdded => .enumValueDeprecationRemoved
  | .enumValueDeprecationRemoved => .enumValueDeprecationAdded
  | .enumValueDeprecationReasonAdded => .enumValueDeprecationReasonRemoved
  | .enumValueDeprecationReasonRemoved => .enumValueDeprecationReasonAdded
  | .unionMemberAdded => .unionMemberRemoved
  | .unionMemberRemoved => .unionMemberAdded
  | .interfaceImplementationAdded => .interfaceImplementationRemoved
  | .interfaceImplementationRemoved => .interfaceImplementationAdded
  | .inputFieldRemoved => .optionalInputFieldAdded
  | .requiredInputFieldAdded => .inputFieldRemoved
  | .optionalInputFieldAdded => .inputFieldRemoved
  | .inputFieldNullabilityTightened => .inputFieldNullabilityLoosened
  | .inputFieldNullabilityLoosened => .inputFieldNullabilityTightened
  | .directiveAdded => .directiveRemoved
  | .directiveRemoved => .directiveAdded
  | .directiveLocationAdded => .directiveLocationRemoved
  | .directiveLocationRemoved => .directiveLocationAdded
  | .directiveRepeatableAdded => .directiveRepeatableRemoved
  | .directiveRepeatableRemoved => .directiveRepeatableAdded
  -- a value that changes in one direction changes in the other
  | .typeKindChanged => .typeKindChanged
  | .typeDescriptionChanged => .typeDescriptionChanged
  | .fieldTypeChanged => .fieldTypeChanged
  | .fieldListWrappingChanged => .fieldListWrappingChanged
  | .fieldDescriptionChanged => .fieldDescriptionChanged
  | .fieldDeprecationReasonChanged => .fieldDeprecationReasonChanged
  | .argumentTypeChanged => .argumentTypeChanged
  | .argumentListWrappingChanged => .argumentListWrappingChanged
  | .argumentDefaultChanged => .argumentDefaultChanged
  | .argumentDescriptionChanged => .argumentDescriptionChanged
  | .enumValueDescriptionChanged => .enumValueDescriptionChanged
  | .enumValueDeprecationReasonChanged => .enumValueDeprecationReasonChanged
  | .inputFieldTypeChanged => .inputFieldTypeChanged
  | .inputFieldListWrappingChanged => .inputFieldListWrappingChanged
  | .inputFieldDefaultChanged => .inputFieldDefaultChanged
  | .inputFieldDescriptionChanged => .inputFieldDescriptionChanged
  | .scalarSpecifiedByChanged => .scalarSpecifiedByChanged
  | .directiveDescriptionChanged => .directiveDescriptionChanged
  -- these have no counterpart
  | .argumentRequiredAdded => .argumentRequiredAdded
  | .inputFieldRequiredAdded => .inputFieldRequiredAdded

/-- The rule, with what must be given taken as what may be left out: a removal does not tell
which of the two was removed. -/
def Rule.merged : Rule → Rule
  | .requiredArgumentAdded => .optionalArgumentAdded
  | .requiredInputFieldAdded => .optionalInputFieldAdded
  | rule => rule

/-- Is the rule on a value that becomes required, which has no counterpart in the other
direction? -/
def Rule.isOneWay : Rule → Bool
  | .argumentRequiredAdded | .inputFieldRequiredAdded => true
  | _ => false

theorem Rule.isOneWay_mirror (rule : Rule) : rule.mirror.isOneWay = rule.isOneWay := by
  cases rule <;> rfl

theorem Rule.isOneWay_merged (rule : Rule) : rule.merged.isOneWay = rule.isOneWay := by
  cases rule <;> rfl

/-! ## Reports that mirror each other -/

/-- Up to order, the rules and paths of the second report are those of the first one
mirrored, where what is reported in one direction only does not count. -/
def Reverses (first second : List Detection) : Prop :=
  ((first.filter fun d => !d.rule.isOneWay).map fun d => (d.rule.mirror, d.path)).Perm
    ((second.filter fun d => !d.rule.isOneWay).map fun d => (d.rule.merged, d.path))

section Combinations

variable {α : Type} {l l₁ l₂ m m₁ m₂ : List Detection}

theorem reverses_nil : Reverses [] [] := .nil

theorem reverses_singleton {d e : Detection} (hrule : d.rule.mirror = e.rule.merged)
    (hpath : d.path = e.path) : Reverses [d] [e] := by
  have hway : d.rule.isOneWay = e.rule.isOneWay := by
    rw [← Rule.isOneWay_mirror, hrule, Rule.isOneWay_merged]
  cases he : e.rule.isOneWay with
  | true => simp [Reverses, hway, he]
  | false => simp [Reverses, hway, he, hrule, hpath]

theorem reverses_of_isOneWay (hl : ∀ d ∈ l, d.rule.isOneWay = true)
    (hm : ∀ d ∈ m, d.rule.isOneWay = true) : Reverses l m := by
  have hempty : ∀ {reports : List Detection}, (∀ d ∈ reports, d.rule.isOneWay = true) →
      (reports.filter fun d => !d.rule.isOneWay) = [] := fun h =>
    List.filter_eq_nil_iff.2 fun d hd => by simp [h d hd]
  rw [Reverses, hempty hl, hempty hm]
  exact .nil

theorem Reverses.append (h₁ : Reverses l₁ m₁) (h₂ : Reverses l₂ m₂) :
    Reverses (l₁ ++ l₂) (m₁ ++ m₂) := by
  simp only [Reverses, List.filter_append, List.map_append]
  exact List.Perm.append h₁ h₂

theorem Reverses.perm_right (h : Reverses l m₁) (hm : m₁.Perm m₂) : Reverses l m₂ :=
  List.Perm.trans h ((hm.filter _).map _)

theorem Reverses.perm_left (h : Reverses l₁ m) (hl : l₁.Perm l₂) : Reverses l₂ m :=
  ((hl.symm.filter _).map _).trans h

theorem Reverses.append_swap (h₁ : Reverses l₁ m₁) (h₂ : Reverses l₂ m₂) :
    Reverses (l₁ ++ l₂) (m₂ ++ m₁) :=
  (h₁.append h₂).perm_right List.perm_append_comm

theorem reverses_cons {d e : Detection} (hrule : d.rule.mirror = e.rule.merged)
    (hpath : d.path = e.path) (h : Reverses l m) : Reverses (d :: l) (e :: m) :=
  (reverses_singleton hrule hpath).append h

theorem reverses_flatMap {members : List α} {f g : α → List Detection}
    (h : ∀ a ∈ members, Reverses (f a) (g a)) :
    Reverses (members.flatMap f) (members.flatMap g) := by
  induction members with
  | nil => exact reverses_nil
  | cons a rest ih =>
    obtain ⟨ha, hrest⟩ := List.forall_mem_cons.1 h
    exact ha.append (ih hrest)

theorem reverses_map {members : List α} {f g : α → Detection}
    (h : ∀ a ∈ members, Reverses [f a] [g a]) : Reverses (members.map f) (members.map g) := by
  rw [List.map_eq_flatMap, List.map_eq_flatMap]
  exact reverses_flatMap h

/-- What is reported of two lists of members mirrors what is reported of them in the other
direction if this is so of each member and of each pair of one name. -/
theorem reverses_report {name : α → Name} {old new : List α} (hold : (old.map name).Nodup)
    (hnew : (new.map name).Nodup) {gone gone' come come' : α → Detection}
    {both both' : α × α → List Detection} (hgone : ∀ a ∈ old, Reverses [gone a] [come' a])
    (hcome : ∀ b ∈ new, Reverses [come b] [gone' b])
    (hboth : ∀ a ∈ old, ∀ b ∈ new, name a = name b → Reverses (both (a, b)) (both' (b, a))) :
    Reverses ((pairByName name old new).report gone come both)
      ((pairByName name new old).report gone' come' both') := by
  have hremoved : Reverses ((pairByName name old new).removed.map gone)
      ((pairByName name new old).added.map come') :=
    reverses_map fun a ha => hgone a (mem_removed.1 ha).1
  have hadded : Reverses ((pairByName name old new).added.map come)
      ((pairByName name new old).removed.map gone') :=
    reverses_map fun b hb => hcome b (mem_added.1 hb).1
  have hshared : Reverses ((pairByName name old new).shared.flatMap both)
      ((pairByName name new old).shared.flatMap both') := by
    have hpairs : Reverses ((pairByName name old new).shared.flatMap both)
        (((pairByName name old new).shared.map Prod.swap).flatMap both') := by
      rw [List.flatMap_map]
      refine reverses_flatMap fun pair hp => ?_
      obtain ⟨ha, hb, hname⟩ := (mem_shared_iff hold).1 hp
      exact hboth _ ha _ hb hname
    exact hpairs.perm_right ((shared_swap hold hnew).symm.flatMap_right both')
  exact (hremoved.append_swap hadded).append hshared

end Combinations

/-! ## Changes in the other direction -/

/-- The change of a text in the other direction. -/
def TextChange.flip : TextChange → TextChange
  | .added text => .removed text
  | .removed text => .added text
  | .changed before after => .changed after before

theorem textChange_swap (old new : Option String) :
    textChange new old = (textChange old new).map TextChange.flip := by
  cases old with
  | none => cases new <;> rfl
  | some o =>
    cases new with
    | none => rfl
    | some n =>
      by_cases h : o = n
      · simp [textChange, h]
      · simp [textChange, h, Ne.symm h, TextChange.flip]

theorem reverses_change {α : Type} (found : Option α) {flip : α → α} {f g : α → Detection}
    (h : ∀ change, Reverses [f change] [g (flip change)]) :
    Reverses (found.toList.map f) ((found.map flip).toList.map g) := by
  cases found with
  | none => exact reverses_nil
  | some change => exact h change

theorem reverses_typeChange (old new : TypeRef) {f g : TypeChange → Detection}
    (h : ∀ change, Reverses [f change] [g change.flip]) :
    Reverses ((TypeChange.between old new).toList.map f)
      ((TypeChange.between new old).toList.map g) := by
  rw [TypeChange.between_swap old new]
  exact reverses_change _ h

theorem reverses_textChange (old new : Option String) {f g : TextChange → Detection}
    (h : ∀ change, Reverses [f change] [g change.flip]) :
    Reverses ((textChange old new).toList.map f) ((textChange new old).toList.map g) := by
  rw [textChange_swap old new]
  exact reverses_change _ h

theorem DeprecationRules.reverses_compare {rules : DeprecationRules} {path : String}
    (hflag : rules.flagAdded.mirror = rules.flagRemoved.merged ∧
      rules.flagRemoved.mirror = rules.flagAdded.merged)
    (hreason : rules.reasonAdded.mirror = rules.reasonRemoved.merged ∧
      rules.reasonRemoved.mirror = rules.reasonAdded.merged)
    (hchanged : rules.reasonChanged.mirror = rules.reasonChanged.merged)
    (old new : Option String) :
    Reverses (rules.compare path old new) (rules.compare path new old) := by
  unfold DeprecationRules.compare
  rw [textChange_swap old new]
  cases textChange old new with
  | none => exact reverses_nil
  | some change =>
    cases change with
    | added reason => exact reverses_cons hflag.1 rfl (reverses_singleton hreason.1 rfl)
    | removed reason => exact reverses_cons hflag.2 rfl (reverses_singleton hreason.2 rfl)
    | changed before after => exact reverses_singleton hchanged rfl

/-! ## The families in the other direction -/

section Values

variable {old new : InputValue}

theorem InputValue.reverses_report {retyped retyped' : TypeChange → Detection}
    {required required' : Detection}
    {default default' description description' : TextChange → Detection}
    (hretyped : ∀ change, Reverses [retyped change] [retyped' change.flip])
    (hrequired : required.rule.isOneWay = true ∧ required'.rule.isOneWay = true)
    (hdefault : ∀ change, Reverses [default change] [default' change.flip])
    (hdescription : ∀ change, Reverses [description change] [description' change.flip]) :
    Reverses (old.report new retyped required default description)
      (new.report old retyped' required' default' description') := by
  have honly : ∀ {c c' : Prop} [Decidable c] [Decidable c'],
      Reverses (if c then [required] else []) (if c' then [required'] else []) :=
    reverses_of_isOneWay (forall_mem_ite.2 fun _ => hrequired.1)
      (forall_mem_ite.2 fun _ => hrequired.2)
  exact (((reverses_typeChange _ _ hretyped).append honly).append
    (reverses_textChange _ _ hdefault)).append (reverses_textChange _ _ hdescription)

theorem Owner.reverses_argument (owner : Owner) (arg : InputValue) :
    Reverses [owner.argumentRemoved arg] [owner.argumentAdded arg] ∧
      Reverses [owner.argumentAdded arg] [owner.argumentRemoved arg] := by
  unfold argumentAdded
  cases arg.isRequired <;> exact ⟨reverses_singleton rfl rfl, reverses_singleton rfl rfl⟩

theorem Owner.reverses_compareArgument (owner : Owner) (h : old.name = new.name) :
    Reverses (owner.compareArgument old new) (owner.compareArgument new old) := by
  have hpath : owner.member new.name = owner.member old.name := by rw [h]
  refine InputValue.reverses_report (fun change => ?_) ⟨rfl, rfl⟩ (fun _ => ?_) fun _ => ?_
  · exact reverses_singleton (by cases change <;> rfl) (congrArg some hpath)
  · exact reverses_singleton rfl (congrArg some hpath)
  · exact reverses_singleton rfl (congrArg some hpath)

theorem reverses_inputField (typeName : Name) (label message : String) (value : InputValue) :
    Reverses [⟨.inputFieldRemoved, value.name.within typeName.text, message⟩]
        [inputFieldAdded typeName label value] ∧
      Reverses [inputFieldAdded typeName label value]
        [⟨.inputFieldRemoved, value.name.within typeName.text, message⟩] := by
  unfold inputFieldAdded
  cases value.isRequired <;> exact ⟨reverses_singleton rfl rfl, reverses_singleton rfl rfl⟩

theorem reverses_compareInputField (typeName : Name) (h : old.name = new.name) :
    Reverses (compareInputField typeName old new) (compareInputField typeName new old) := by
  have hpath : new.name.within typeName.text = old.name.within typeName.text := by rw [h]
  refine InputValue.reverses_report (fun change => ?_) ⟨rfl, rfl⟩ (fun _ => ?_) fun _ => ?_
  · exact reverses_singleton (by cases change <;> rfl) (congrArg some hpath)
  · exact reverses_singleton rfl (congrArg some hpath)
  · exact reverses_singleton rfl (congrArg some hpath)

end Values

section Lists

variable {old new : List InputValue}

theorem Owner.reverses_compareArguments (owner : Owner)
    (hold : (old.map InputValue.name).Nodup) (hnew : (new.map InputValue.name).Nodup) :
    Reverses (owner.compareArguments old new) (owner.compareArguments new old) :=
  reverses_report hold hnew (fun a _ => (owner.reverses_argument a).1)
    (fun b _ => (owner.reverses_argument b).2)
    fun _ _ _ _ hname => owner.reverses_compareArgument hname

theorem reverses_compareInputFields (typeName : Name)
    (hold : (old.map InputValue.name).Nodup) (hnew : (new.map InputValue.name).Nodup) :
    Reverses (compareInputFields typeName old new) (compareInputFields typeName new old) :=
  reverses_report hold hnew (fun a _ => (reverses_inputField typeName _ _ a).1)
    (fun b _ => (reverses_inputField typeName _ _ b).2)
    fun _ _ _ _ hname => reverses_compareInputField typeName hname

end Lists

theorem reverses_compareField (typeName : Name) {old new : Field} (h : old.name = new.name)
    (hold : (old.args.map InputValue.name).Nodup) (hnew : (new.args.map InputValue.name).Nodup) :
    Reverses (compareField typeName old new) (compareField typeName new old) := by
  unfold compareField
  rw [h]
  refine (((reverses_typeChange _ _ fun change => ?_).append
    (reverses_textChange _ _ fun change => ?_)).append ?_).append ?_
  · exact reverses_singleton (by cases change <;> rfl) rfl
  · cases change <;> exact reverses_singleton rfl rfl
  · exact DeprecationRules.reverses_compare ⟨rfl, rfl⟩ ⟨rfl, rfl⟩ rfl _ _
  · exact Owner.reverses_compareArguments _ hold hnew

theorem reverses_compareFields (typeName : Name) (label : String) {old new : List Field}
    (hold : (old.map Field.name).Nodup) (hnew : (new.map Field.name).Nodup)
    (holdArgs : ∀ f ∈ old, (f.args.map InputValue.name).Nodup)
    (hnewArgs : ∀ f ∈ new, (f.args.map InputValue.name).Nodup) :
    Reverses (compareFields typeName label old new) (compareFields typeName label new old) :=
  reverses_report hold hnew (fun _ _ => reverses_singleton rfl rfl)
    (fun _ _ => reverses_singleton rfl rfl)
    fun a ha b hb hname => reverses_compareField typeName hname (holdArgs a ha) (hnewArgs b hb)

theorem reverses_compareEnumValue (typeName : Name) {old new : EnumValue}
    (h : old.name = new.name) :
    Reverses (compareEnumValue typeName old new) (compareEnumValue typeName new old) := by
  unfold compareEnumValue
  rw [h]
  refine (reverses_textChange _ _ fun _ => ?_).append ?_
  · exact reverses_singleton rfl rfl
  · exact DeprecationRules.reverses_compare ⟨rfl, rfl⟩ ⟨rfl, rfl⟩ rfl _ _

theorem reverses_compareEnumValues (typeName : Name) {old new : List EnumValue}
    (hold : (old.map EnumValue.name).Nodup) (hnew : (new.map EnumValue.name).Nodup) :
    Reverses (compareEnumValues typeName old new) (compareEnumValues typeName new old) :=
  reverses_report hold hnew (fun _ _ => reverses_singleton rfl rfl)
    (fun _ _ => reverses_singleton rfl rfl)
    fun _ _ _ _ hname => reverses_compareEnumValue typeName hname

theorem reverses_compareNames {path : Option String} {gone come : Rule}
    {goneText comeText goneText' comeText' : String → String}
    (hgone : gone.mirror = come.merged) (hcome : come.mirror = gone.merged) (old new : List Name) :
    Reverses (compareNames path gone come goneText comeText old new)
      (compareNames path gone come goneText' comeText' new old) := by
  unfold compareNames
  refine (reverses_map fun _ _ => ?_).append_swap (reverses_map fun _ _ => ?_)
  · exact reverses_singleton hgone rfl
  · exact reverses_singleton hcome rfl

/-- A flag that no version leaves open is set in one of two versions that differ in it. -/
theorem reverses_compareRepeatable (name name' : Name) (path : Option String)
    {old new : Option Bool} (h : old = none ↔ new = none) :
    Reverses (compareRepeatable name path old new) (compareRepeatable name' path new old) := by
  cases old with
  | none =>
    rw [h.1 rfl, compareRepeatable_self, compareRepeatable_self]
    exact reverses_nil
  | some o =>
    obtain ⟨n, rfl⟩ := Option.ne_none_iff_exists'.1 fun hn => nomatch h.2 hn
    cases o with
    | true => cases n with
      | true => exact reverses_nil
      | false => exact reverses_singleton rfl rfl
    | false => cases n with
      | true => exact reverses_singleton rfl rfl
      | false => exact reverses_nil

/-! ## Definitions in the other direction -/

theorem Body.repeatable_eq_none_iff {body : Body} (h : body.leavesOpen = false) :
    body.repeatable = none ↔ body.kind ≠ .directive := by
  cases body with
  | directive locations args flag =>
    cases flag with
    | none => exact nomatch h
    | some flag => exact ⟨nofun, fun hk => absurd rfl hk⟩
  | _ => exact ⟨fun _ => nofun, fun _ => rfl⟩

namespace Definition

variable {old new : Definition} (hkind : old.kind = new.kind) (hname : old.name = new.name)
include hkind hname

theorem reverses_compareText : Reverses (old.compareText new) (new.compareText old) := by
  unfold compareText
  rw [hkind, key_eq hkind hname, label_eq hkind hname]
  by_cases h : new.kind = .directive
  · rw [if_pos h, if_pos h]
    exact reverses_textChange _ _ fun _ => reverses_singleton rfl rfl
  · rw [if_neg h, if_neg h]
    unfold compareDescription
    rw [hname]
    refine reverses_textChange _ _ fun change => ?_
    cases change <;> exact reverses_singleton rfl rfl

theorem reverses_compareMembers (hold : old.Intact) (hnew : new.Intact) :
    Reverses (old.compareMembers new) (new.compareMembers old) := by
  have ho := hold.distinctMembers
  have hn := hnew.distinctMembers
  unfold compareMembers
  rw [hname, label_eq hkind hname, key_eq hkind hname]
  refine (((?_ : Reverses _ _).append ?_).append ?_).append ?_
  · exact reverses_compareFields _ _ ho.fields hn.fields ho.fieldArgs hn.fieldArgs
  · exact reverses_compareEnumValues _ ho.enumValues hn.enumValues
  · exact reverses_compareInputFields _ ho.inputFields hn.inputFields
  · exact Owner.reverses_compareArguments _ ho.args hn.args

theorem reverses_compareListed : Reverses (old.compareListed new) (new.compareListed old) := by
  unfold compareListed compareInterfaces compareUnionMembers compareLocations
  rw [hname, key_eq hkind hname]
  refine ((?_ : Reverses _ _).append ?_).append ?_
  · exact reverses_compareNames rfl rfl _ _
  · exact reverses_compareNames rfl rfl _ _
  · exact reverses_compareNames rfl rfl _ _

theorem reverses_compareFlags (hold : old.body.leavesOpen = false)
    (hnew : new.body.leavesOpen = false) :
    Reverses (old.compareFlags new) (new.compareFlags old) := by
  unfold compareFlags
  rw [key_eq hkind hname]
  refine Reverses.append (reverses_textChange _ _ fun _ => ?_) (reverses_compareRepeatable _ _ _ ?_)
  · exact reverses_singleton rfl hname.symm
  · rw [Body.repeatable_eq_none_iff hold, Body.repeatable_eq_none_iff hnew]
    exact not_congr (by rw [← kind, ← kind, hkind])

theorem reverses_compare (hold : old.Intact) (hnew : new.Intact) :
    Reverses (old.compare new) (new.compare old) := by
  rw [compare_of_kind_eq hkind, compare_of_kind_eq hkind.symm]
  refine (((?_ : Reverses _ _).append ?_).append ?_).append ?_
  · exact reverses_compareText hkind hname
  · exact reverses_compareMembers hkind hname hold hnew
  · exact reverses_compareListed hkind hname
  · exact reverses_compareFlags hkind hname hold.decided hnew.decided

end Definition

theorem reverses_definition (kind : Kind) (name : Name) :
    Reverses [definitionRemoved kind name] [definitionAdded kind name] ∧
      Reverses [definitionAdded kind name] [definitionRemoved kind name] := by
  cases kind <;> exact ⟨reverses_singleton rfl rfl, reverses_singleton rfl rfl⟩

/-- What is reported of two definitions under one key, in the two directions. -/
theorem Definition.reverses_reportOfPair {old new : Definition} (hold : old.Intact)
    (hnew : new.Intact) (hkey : old.key = new.key) :
    Reverses (old.report new) (new.report old) := by
  unfold report
  by_cases hdirective : old.kind = .directive ↔ new.kind = .directive
  · rw [if_pos hdirective, if_pos hdirective.symm]
    have hname := (name_eq_iff_of_key_eq hold.name_ne_none hnew.name_ne_none hkey).2 hdirective
    by_cases hkind : old.kind = new.kind
    · exact reverses_compare hkind hname hold hnew
    · rw [compare_of_kind_ne hkind, compare_of_kind_ne (Ne.symm hkind)]
      exact reverses_singleton rfl hname.symm
  · rw [if_neg hdirective, if_neg fun h => hdirective h.symm]
    exact reverses_nil

/-- **The detections mirror those in the other direction.**  Apart from values that become
required, every detection between two versions has a counterpart in the other direction,
under the mirrored rule and with the same path, and there are no others. -/
theorem detections_reverse {old new : TypeMap} (hold : old.Intact) (hnew : new.Intact) :
    Reverses (Snapshot.ofTypeMaps old new).detections (Snapshot.ofTypeMaps new old).detections := by
  have hreport : Reverses (old.report new) (new.report old) := by
    refine reverses_report hold.nodup hnew.nodup (fun _ _ => (reverses_definition ..).1)
      (fun _ _ => (reverses_definition ..).2) fun a ha b hb hkey => ?_
    exact Definition.reverses_reportOfPair (hold.definition a ha) (hnew.definition b hb)
      ((hold.key a ha).symm.trans (hkey.trans (hnew.key b hb)))
  exact (hreport.perm_right (Snapshot.detections_perm_report hnew hold).symm).perm_left
    (Snapshot.detections_perm_report hold hnew).symm

/-- A small schema with a default. -/
def rates : TypeMap := .ofDefinitions
  [⟨some "Query", none, .object
      [⟨some "price", .named "Float",
        [⟨some "currency", .nonNull (.named "String"), some "EUR", none⟩,
          ⟨some "at", .named "Date", none, none⟩], none, none⟩] []⟩,
    ⟨some "Date", none, .scalar none⟩]

/-- Another version of it, in which the default is gone. -/
def ratesRevised : TypeMap := .ofDefinitions
  [⟨some "Query", none, .object
      [⟨some "price", .nonNull (.named "Float"),
        [⟨some "unit", .nonNull (.named "Int"), none, none⟩,
          ⟨some "currency", .nonNull (.named "String"), none, none⟩], none, none⟩] []⟩]

theorem rates_reverse :
    rates.Intact ∧ ratesRevised.Intact ∧
      (Snapshot.ofTypeMaps rates ratesRevised).detections.map (fun d => (d.rule, d.path)) =
        [(.typeRemoved, some "Date"),
          (.fieldNullabilityTightened, some "Query.price"),
          (.argumentRemoved, some "Query.price.at"),
          (.requiredArgumentAdded, some "Query.price.unit"),
          (.argumentRequiredAdded, some "Query.price.currency"),
          (.argumentDefaultChanged, some "Query.price.currency")] ∧
      (Snapshot.ofTypeMaps ratesRevised rates).detections.map (fun d => (d.rule, d.path)) =
        [(.fieldNullabilityLoosened, some "Query.price"),
          (.argumentRemoved, some "Query.price.unit"),
          (.optionalArgumentAdded, some "Query.price.at"),
          (.argumentDefaultChanged, some "Query.price.currency"),
          (.typeAdded, some "Date")] ∧
      Reverses (Snapshot.ofTypeMaps rates ratesRevised).detections
        (Snapshot.ofTypeMaps ratesRevised rates).detections := by
  have hold : rates.Intact := by decide
  have hnew : ratesRevised.Intact := by decide
  exact ⟨hold, hnew, by decide, by decide, detections_reverse hold hnew⟩

end SchemaDrift
