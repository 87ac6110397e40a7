import SchemaDrift.Proofs.Compare.Families
import SchemaDrift.Proofs.Compare.Justification
import SchemaDrift.Proofs.Compare.Plan

/-!
# The order of the detections

The detections between two intact versions stand in one order: removed definitions as the
old version has them, then the definitions of the new version as it has them, each with all
that is reported of it.

* `Plan.members`, `Plan.names` — members and names: those that are gone in the old order,
  then those that have come, then those that both sides have, in the new order.
* `InputRules.plan`, `Field.plan`, `EnumValue.plan` — the order within a member.
* `Definition.plan` — the order within a definition: its description, its members, the names
  it lists, its attributes.
* `TypeMap.plan` — the order of the whole.
* `detections_ordered` — the detections fill this plan.
-/

namespace SchemaDrift

open Plan

/-! ## Plans for members and names -/

section Members

variable {α : Type}

/-- Members that are gone in the old order, then members that have come in the new order,
then pairs of one name in the new order. -/
def Plan.members (name : α → Name) (old new : List α) (gone come : α → Plan)
    (both : α → α → Plan) : Plan :=
  .parts [
    .each old fun a => .given (∀ b ∈ new, name b ≠ name a) (gone a),
    .each new fun b => .given (∀ a ∈ old, name a ≠ name b) (come b),
    .each new fun b => .whenever (fun a => a ∈ old ∧ name a = name b) fun a => both a b]

/-- Names that are gone in the old order, then names that have come in the new order, each
under its rule and quoted in the message. -/
def Plan.names (path : Option String) (gone come : Rule) (old new : List Name) : Plan :=
  .parts [
    .each old fun name => .given (name ∉ new) (.quoting gone path name),
    .each new fun name => .given (name ∉ old) (.quoting come path name)]

theorem map_filter_eq_flatMap {β : Type} (keep : α → Bool) (f : α → β) (members : List α) :
    (members.filter keep).map f = members.flatMap fun a => if keep a then [f a] else [] := by
  induction members with
  | nil => rfl
  | cons a rest ih => by_cases h : keep a = true <;> simp [h, ih]

theorem Plan.filledBy_each_filter {members : List α} {keep : α → Bool} {kept : α → Prop}
    {plan : α → Plan} {report : α → Detection} (hkeep : ∀ a, keep a = true ↔ kept a)
    (h : ∀ a ∈ members, (plan a).FilledBy [report a]) :
    (Plan.each members fun a => .given (kept a) (plan a)).FilledBy
      ((members.filter keep).map report) := by
  rw [map_filter_eq_flatMap]
  refine filledBy_each fun a ha => ?_
  simp only [← hkeep a]
  exact filledBy_given fun _ => h a ha

/-- What is reported of members fills their plan, if what is reported of each fills its
own. -/
theorem Plan.filledBy_members {name : α → Name} {old new : List α} {gone come : α → Plan}
    {both : α → α → Plan} {reportGone reportCome : α → Detection}
    {reportBoth : α × α → List Detection} (hold : (old.map name).Nodup)
    (hgone : ∀ a ∈ old, (gone a).FilledBy [reportGone a])
    (hcome : ∀ b ∈ new, (come b).FilledBy [reportCome b])
    (hboth : ∀ a ∈ old, ∀ b ∈ new, (both a b).FilledBy (reportBoth (a, b))) :
    (Plan.members name old new gone come both).FilledBy
      ((pairByName name old new).removed.map reportGone
        ++ (pairByName name old new).added.map reportCome
        ++ (pairByName name old new).shared.flatMap reportBoth) := by
  have hremoved : (Plan.each old fun a => .given (∀ b ∈ new, name b ≠ name a) (gone a)).FilledBy
      ((pairByName name old new).removed.map reportGone) :=
    filledBy_each_filter (by simp [hasNamed]) hgone
  have hadded : (Plan.each new fun b => .given (∀ a ∈ old, name a ≠ name b) (come b)).FilledBy
      ((pairByName name old new).added.map reportCome) :=
    filledBy_each_filter (by simp [hasNamed]) hcome
  have hshared : (Plan.each new fun b =>
      .whenever (fun a => a ∈ old ∧ name a = name b) fun a => both a b).FilledBy
        ((pairByName name old new).shared.flatMap reportBoth) := by
    simp only [pairByName, List.filterMap_eq_flatMap_toList, List.flatMap_assoc]
    refine filledBy_each fun b hb => ?_
    cases hl : lastNamed? name old (name b) with
    | none =>
      have hnot : hasNamed name old (name b) = false := by rw [← isSome_lastNamed?, hl]; rfl
      refine filledBy_nil fun _ _ hpartner => ?_
      obtain ⟨a, ha, -⟩ := hpartner
      exact hasNamed_eq_false_iff.1 hnot a ha.1 ha.2
    | some partner =>
      have hpartner := (lastNamed?_eq_some_iff hold).1 hl
      refine filledBy_whenever hpartner (fun a ha => ?_) ?_
      · exact eq_of_name_eq hold ha.1 hpartner.1 (ha.2.trans hpartner.2.symm)
      · simpa using hboth partner hpartner.1 b hb
  rw [List.append_assoc]
  exact filledBy_parts_cons hremoved (filledBy_parts_cons hadded (filledBy_parts_singleton hshared))

end Members

theorem Plan.filledBy_names {path : Option String} {gone come : Rule}
    {goneText comeText : String → String} (hgone : ∀ name : Name, Quotes (goneText name.text) name)
    (hcome : ∀ name : Name, Quotes (comeText name.text) name) (old new : List Name) :
    (Plan.names path gone come old new).FilledBy
      (compareNames path gone come goneText comeText old new) := by
  have hremoved : (Plan.each old fun name => .given (name ∉ new) (.quoting gone path name)).FilledBy
      ((namesLeft old new).map fun name => ⟨gone, path, goneText name.text⟩) :=
    filledBy_each_filter (by simp) fun name _ => filledBy_quoting rfl rfl (hgone name)
  have hadded : (Plan.each new fun name => .given (name ∉ old) (.quoting come path name)).FilledBy
      ((namesLeft new old).map fun name => ⟨come, path, comeText name.text⟩) :=
    filledBy_each_filter (by simp) fun name _ => filledBy_quoting rfl rfl (hcome name)
  exact filledBy_parts_cons hremoved (filledBy_parts_singleton hadded)

/-! ## Plans for members -/

section Values

variable {path : Option String} {old new : InputValue}

/-- What is reported under one rule if a text changes. -/
theorem Plan.filledBy_textChange {rule : Rule} {old new : Option String}
    {report : TextChange → Detection}
    (h : ∀ change, (report change).rule = rule ∧ (report change).path = path) :
    (Plan.given (old ≠ new) (.entry rule path)).FilledBy
      ((textChange old new).toList.map report) := by
  cases hc : textChange old new with
  | none => exact filledBy_given_of_false fun hne => hne (textChange_eq_none_iff.1 hc)
  | some change =>
    have hne : old ≠ new := fun he => nomatch hc.symm.trans (textChange_eq_none_iff.2 he)
    exact filledBy_given_of_true hne (filledBy_entry (h change).1 (h change).2)

/-- What is reported of a change under a rule of its own. -/
theorem Plan.filledBy_change {α : Type} (found : Option α) {rule : α → Rule}
    {report : α → Detection} (h : ∀ a, (report a).rule = rule a ∧ (report a).path = path) :
    (Plan.whenever (found = some ·) fun a => .entry (rule a) path).FilledBy
      (found.toList.map report) := by
  cases found with
  | none => exact filledBy_whenever_none
  | some a => exact filledBy_whenever_some (filledBy_entry (h a).1 (h a).2)

/-- The order within an argument or input field: its type, whether it becomes required, its
default, its description. -/
def InputRules.plan (rules : InputRules) (path : Option String) (old new : InputValue) : Plan :=
  .parts [
    .whenever (TypeChange.between old.type new.type = some ·) fun change =>
      .entry (rules.retyped change) path,
    .given (becomesRequired old new (TypeChange.between old.type new.type) = true)
      (.entry rules.becameRequired path),
    .given (old.defaultValue ≠ new.defaultValue) (.entry rules.defaultChanged path),
    .given (old.description ≠ new.description) (.entry rules.descriptionChanged path)]

/-- The order within a list of arguments or of input fields. -/
def InputRules.listPlan (rules : InputRules) (path : Name → Option String)
    (old new : List InputValue) : Plan :=
  .members InputValue.name old new
    (fun a => .entry rules.removed (path a.name))
    (fun b => .entry (rules.added b) (path b.name))
    fun a b => rules.plan (path b.name) a b

theorem InputRules.filledBy_plan {rules : InputRules} {retyped : TypeChange → Detection}
    {required : Detection} {default description : TextChange → Detection}
    (hretyped : ∀ change,
      (retyped change).rule = rules.retyped change ∧ (retyped change).path = path)
    (hrequired : required.rule = rules.becameRequired ∧ required.path = path)
    (hdefault : ∀ change,
      (default change).rule = rules.defaultChanged ∧ (default change).path = path)
    (hdescription : ∀ change,
      (description change).rule = rules.descriptionChanged ∧ (description change).path = path) :
    (rules.plan path old new).FilledBy
      (old.report new retyped required default description) := by
  unfold InputValue.report
  rw [List.append_assoc, List.append_assoc]
  refine filledBy_parts_cons (filledBy_change _ hretyped) (filledBy_parts_cons ?_
    (filledBy_parts_cons (filledBy_textChange hdefault)
      (filledBy_parts_singleton (filledBy_textChange hdescription))))
  exact filledBy_given fun _ => filledBy_entry hrequired.1 hrequired.2

theorem Owner.filledBy_compareArgument (owner : Owner) :
    (InputRules.argument.plan (owner.member new.name) old new).FilledBy
      (owner.compareArgument old new) :=
  InputRules.filledBy_plan (fun _ => ⟨rfl, rfl⟩) ⟨rfl, rfl⟩ (fun _ => ⟨rfl, rfl⟩)
    fun _ => ⟨rfl, rfl⟩

theorem filledBy_compareInputField (typeName : Name) :
    (InputRules.inputField.plan (new.name.within typeName.text) old new).FilledBy
      (compareInputField typeName old new) :=
  InputRules.filledBy_plan (fun _ => ⟨rfl, rfl⟩) ⟨rfl, rfl⟩ (fun _ => ⟨rfl, rfl⟩)
    fun _ => ⟨rfl, rfl⟩

end Values

theorem filledBy_compareArguments (label path : String) {old new : List InputValue}
    (h : (old.map InputValue.name).Nodup) :
    (InputRules.argument.listPlan (fun name => name.within path) old new).FilledBy
      (Owner.compareArguments ⟨label, path⟩ old new) :=
  filledBy_members h (fun _ _ => filledBy_entry rfl rfl)
    (fun b _ => filledBy_entry (Owner.argumentAdded_rule _ b) (Owner.argumentAdded_path _ b))
    fun _ _ _ _ => Owner.filledBy_compareArgument ⟨label, path⟩

theorem filledBy_compareInputFields (typeName : Name) {old new : List InputValue}
    (h : (old.map InputValue.name).Nodup) :
    (InputRules.inputField.listPlan (fun name => name.within typeName.text) old new).FilledBy
      (compareInputFields typeName old new) :=
  filledBy_members h (fun _ _ => filledBy_entry rfl rfl)
    (fun _ _ => filledBy_entry (inputFieldAdded_rule ..) (inputFieldAdded_path ..))
    fun _ _ _ _ => filledBy_compareInputField typeName

/-! ## Plans for fields and enum values -/

/-- The rule under which the flag of a deprecation is reported, if it is set or taken back. -/
def DeprecationRules.flagRule? (rules : DeprecationRules) : TextChange → Option Rule
  | .added _ => some rules.flagAdded
  | .removed _ => some rules.flagRemoved
  | .changed _ _ => none

/-- The rule under which the reason for a deprecation is reported. -/
def DeprecationRules.reasonRule (rules : DeprecationRules) : TextChange → Rule
  | .added _ => rules.reasonAdded
  | .removed _ => rules.reasonRemoved
  | .changed _ _ => rules.reasonChanged

/-- The order within a deprecation: its flag, its reason. -/
def DeprecationRules.plan (rules : DeprecationRules) (path old new : Option String) : Plan :=
  .whenever (textChange old new = some ·) fun change => .parts [
    .whenever (rules.flagRule? change = some ·) fun rule => .entry rule path,
    .entry (rules.reasonRule change) path]

/-- The place of a description that is reported under three rules. -/
def TextRules.plan (rules : TextRules) (path old new : Option String) : Plan :=
  .whenever (textChange old new = some ·) fun change => .entry (rules.of change) path

/-- The order within a field: its type, its description, its deprecation, its arguments. -/
def Field.plan (path : String) (old new : Field) : Plan :=
  .parts [
    .whenever (TypeChange.between old.type new.type = some ·) fun change =>
      .entry change.fieldRule path,
    TextRules.field.plan path old.description new.description,
    DeprecationRules.field.plan path old.deprecation new.deprecation,
    InputRules.argument.listPlan (fun name => name.within path) old.args new.args]

/-- The order within an enum value: its description, its deprecation. -/
def EnumValue.plan (path : String) (old new : EnumValue) : Plan :=
  .parts [
    .given (old.description ≠ new.description) (.entry .enumValueDescriptionChanged path),
    DeprecationRules.enumValue.plan path old.deprecation new.deprecation]

/-- The order within the fields of a type. -/
def Field.listPlan (typeName : Name) (old new : List Field) : Plan :=
  .members Field.name old new
    (fun a => .entry .fieldRemoved (a.name.within typeName.text))
    (fun b => .entry .fieldAdded (b.name.within typeName.text))
    fun a b => Field.plan (b.name.within typeName.text) a b

/-- The order within the values of an enum. -/
def EnumValue.listPlan (typeName : Name) (old new : List EnumValue) : Plan :=
  .members EnumValue.name old new
    (fun a => .entry .enumValueRemoved (a.name.within typeName.text))
    (fun b => .entry .enumValueAdded (b.name.within typeName.text))
    fun a b => EnumValue.plan (b.name.within typeName.text) a b

theorem DeprecationRules.filledBy_compare (rules : DeprecationRules) (path : String)
    (old new : Option String) :
    (rules.plan path old new).FilledBy (rules.compare path old new) := by
  unfold DeprecationRules.compare DeprecationRules.plan
  cases hc : textChange old new with
  | none => exact filledBy_whenever_none
  | some change =>
    refine filledBy_whenever_some ?_
    cases change with
    | added reason | removed reason =>
      show FilledBy _ ([_] ++ [_])
      refine filledBy_parts_cons ?_ (filledBy_parts_singleton (filledBy_entry rfl rfl))
      exact filledBy_whenever_some (filledBy_entry rfl rfl)
    | changed before after =>
      show FilledBy _ ([] ++ [_])
      refine filledBy_parts_cons ?_ (filledBy_parts_singleton (filledBy_entry rfl rfl))
      exact filledBy_whenever_none

theorem filledBy_compareField (typeName : Name) {old new : Field}
    (h : (old.args.map InputValue.name).Nodup) :
    (Field.plan (new.name.within typeName.text) old new).FilledBy
      (compareField typeName old new) := by
  unfold compareField
  dsimp only
  generalize new.name.within typeName.text = path
  simp only [List.append_assoc]
  refine filledBy_parts_cons (filledBy_change _ fun _ => ⟨rfl, rfl⟩) (filledBy_parts_cons ?_
    (filledBy_parts_cons (DeprecationRules.field.filledBy_compare ..)
      (filledBy_parts_singleton (filledBy_compareArguments ("field '" ++ path ++ "'") path h))))
  exact filledBy_change _ fun change => ⟨fieldDescription_rule .., fieldDescription_path ..⟩

theorem filledBy_compareFields (typeName : Name) (label : String) {old new : List Field}
    (h : (old.map Field.name).Nodup) (hargs : ∀ f ∈ old, (f.args.map InputValue.name).Nodup) :
    (Field.listPlan typeName old new).FilledBy (compareFields typeName label old new) :=
  filledBy_members h (fun _ _ => filledBy_entry rfl rfl) (fun _ _ => filledBy_entry rfl rfl)
    fun a ha _ _ => filledBy_compareField typeName (hargs a ha)

theorem filledBy_compareEnumValue (typeName : Name) (old new : EnumValue) :
    (EnumValue.plan (new.name.within typeName.text) old new).FilledBy
      (compareEnumValue typeName old new) :=
  filledBy_parts_cons (filledBy_textChange fun _ => ⟨rfl, rfl⟩)
    (filledBy_parts_singleton (DeprecationRules.enumValue.filledBy_compare ..))

theorem filledBy_compareEnumValues (typeName : Name) {old new : List EnumValue}
    (h : (old.map EnumValue.name).Nodup) :
    (EnumValue.listPlan typeName old new).FilledBy (compareEnumValues typeName old new) :=
  filledBy_members h (fun _ _ => filledBy_entry rfl rfl) (fun _ _ => filledBy_entry rfl rfl)
    fun a _ b _ => filledBy_compareEnumValue typeName a b

/-! ## Plans for definitions -/

namespace Definition

/-- The place of the description of a type or directive. -/
def textPlan (old new : Definition) : Plan :=
  if new.kind = .directive then
    .given (old.description ≠ new.description) (.entry .directiveDescriptionChanged new.key)
  else TextRules.type.plan new.name old.description new.description

/-- The order of the members. -/
def membersPlan (old new : Definition) : Plan :=
  .parts [
    Field.listPlan new.name old.body.fields new.body.fields,
    EnumValue.listPlan new.name old.body.enumValues new.body.enumValues,
    InputRules.inputField.listPlan (fun name => name.within new.name.text)
      old.body.inputFields new.body.inputFields,
    InputRules.argument.listPlan (fun name => name.within new.key.text)
      old.body.args new.body.args]

/-- The order of the lists of names. -/
def listedPlan (old new : Definition) : Plan :=
  .parts [
    .names new.name .interfaceImplementationRemoved .interfaceImplementationAdded
      old.body.interfaces new.body.interfaces,
    .names new.name .unionMemberRemoved .unionMemberAdded
      old.body.unionMembers new.body.unionMembers,
    .names new.key .directiveLocationRemoved .directiveLocationAdded
      old.body.locations new.body.locations]

/-- The order of the single attributes. -/
def flagsPlan (old new : Definition) : Plan :=
  .parts [
    .given (old.body.specifiedBy ≠ new.body.specifiedBy)
      (.entry .scalarSpecifiedByChanged new.name),
    .given (old.body.repeatable ≠ new.body.repeatable)
      (.entry (repeatableRule new.body.repeatable) new.key)]

/-- The order within two definitions of one class: the description, then the members, then
the lists of names, then the single attributes. -/
def plan (old new : Definition) : Plan :=
  .parts [old.textPlan new, old.membersPlan new, old.listedPlan new, old.flagsPlan new]

variable {old new : Definition}

theorem filledBy_compareText : (old.textPlan new).FilledBy (old.compareText new) := by
  unfold textPlan compareText
  by_cases h : new.kind = .directive
  · rw [if_pos h, if_pos h]
    exact filledBy_textChange fun _ => ⟨rfl, rfl⟩
  · rw [if_neg h, if_neg h]
    exact filledBy_change _ fun _ => ⟨typeDescription_rule .., typeDescription_path ..⟩

theorem filledBy_compareMembers (h : old.Intact) :
    (old.membersPlan new).FilledBy (old.compareMembers new) := by
  have hdistinct := h.distinctMembers
  unfold compareMembers
  rw [List.append_assoc, List.append_assoc]
  refine filledBy_parts_cons ?_ (filledBy_parts_cons ?_
    (filledBy_parts_cons ?_ (filledBy_parts_singleton ?_)))
  · exact filledBy_compareFields new.name new.label hdistinct.fields hdistinct.fieldArgs
  · exact filledBy_compareEnumValues new.name hdistinct.enumValues
  · exact filledBy_compareInputFields new.name hdistinct.inputFields
  · exact filledBy_compareArguments new.label new.key.text hdistinct.args

theorem filledBy_compareListed : (old.listedPlan new).FilledBy (old.compareListed new) := by
  unfold compareListed compareInterfaces compareUnionMembers compareLocations
  rw [List.append_assoc]
  refine filledBy_parts_cons ?_ (filledBy_parts_cons ?_ (filledBy_parts_singleton ?_))
  · exact filledBy_names (quotes_interfaceRemoved _) (quotes_interfaceAdded _) _ _
  · exact filledBy_names (quotes_memberRemoved _) (quotes_memberAdded _) _ _
  · exact filledBy_names (quotes_locationRemoved _) (quotes_locationAdded _) _ _

theorem filledBy_compareRepeatable (name : Name) (path : Option String) (old new : Option Bool) :
    (Plan.given (old ≠ new) (.entry (repeatableRule new) path)).FilledBy
      (compareRepeatable name path old new) := by
  unfold compareRepeatable repeatableRule
  by_cases h : old = new
  · rw [if_pos h]
    exact filledBy_given_of_false fun hne => hne h
  · rw [if_neg h]
    refine filledBy_given_of_true h ?_
    by_cases hset : new = some true
    · rw [if_pos hset, if_pos hset]
      exact filledBy_entry rfl rfl
    · rw [if_neg hset, if_neg hset]
      exact filledBy_entry rfl rfl

theorem filledBy_compareFlags : (old.flagsPlan new).FilledBy (old.compareFlags new) :=
  filledBy_parts_cons (filledBy_textChange fun _ => ⟨rfl, rfl⟩)
    (filledBy_parts_singleton (filledBy_compareRepeatable ..))

/-- What is reported of two definitions of one class fills their plan. -/
theorem filledBy_compare (hold : old.Intact) (hkind : old.kind = new.kind) :
    (old.plan new).FilledBy (old.compare new) := by
  rw [compare_of_kind_eq hkind, List.append_assoc, List.append_assoc]
  exact filledBy_parts_cons filledBy_compareText (filledBy_parts_cons (filledBy_compareMembers hold)
    (filledBy_parts_cons filledBy_compareListed (filledBy_parts_singleton filledBy_compareFlags)))

end Definition

/-! ## The plan of the whole -/

/-- The rule under which a definition that is gone is reported. -/
def Kind.removedRule (kind : Kind) : Rule :=
  if kind = .directive then .directiveRemoved else .typeRemoved

/-- The rule under which a definition that has come is reported. -/
def Kind.addedRule (kind : Kind) : Rule :=
  if kind = .directive then .directiveAdded else .typeAdded

/-- The place of two definitions under one key: a change of class if they have one name, and
what is reported of them if they are of one class. -/
def Definition.pairPlan (old new : Definition) : Plan :=
  .parts [
    .given (old.name = new.name ∧ old.kind ≠ new.kind) (.entry .typeKindChanged new.name),
    .given (old.kind = new.kind) (old.plan new)]

/-- The place of a definition of the new version: that it has come, or what is reported of it
and the old one under its key. -/
def TypeMap.planUnder (old : TypeMap) (entry : Name × Definition) : Plan :=
  .parts [
    .given (entry.1 ∉ Keyed.keys old) (.entry entry.2.kind.addedRule entry.1),
    .whenever (fun before => (entry.1, before) ∈ old) fun before => before.pairPlan entry.2]

/-- The order of all detections: the definitions that are gone, as the old version has them,
then the definitions of the new version, as it has them. -/
def TypeMap.plan (old new : TypeMap) : Plan :=
  .parts [
    .each old fun entry => .given (entry.1 ∉ Keyed.keys new)
      (.entry entry.2.kind.removedRule entry.1),
    .each new old.planUnder]

theorem definitionRemoved_rule (kind : Kind) (name : Name) :
    (definitionRemoved kind name).rule = kind.removedRule := by
  cases kind <;> rfl

theorem definitionAdded_rule (kind : Kind) (name : Name) :
    (definitionAdded kind name).rule = kind.addedRule := by
  cases kind <;> rfl

/-- What is reported of two definitions under one key fills their plan. -/
theorem Definition.filledBy_report {old new : Definition} (hold : old.Intact) (hnew : new.Intact)
    (hkey : old.key = new.key) : (old.pairPlan new).FilledBy (old.report new) := by
  have hnames := name_eq_iff_of_key_eq hold.name_ne_none hnew.name_ne_none hkey
  unfold report pairPlan
  by_cases hkind : old.kind = new.kind
  · rw [if_pos (by rw [hkind])]
    have hnone : (Plan.given (old.name = new.name ∧ old.kind ≠ new.kind)
        (.entry .typeKindChanged new.name)).FilledBy [] :=
      filledBy_given_of_false fun h => h.2 hkind
    exact filledBy_parts_cons hnone
      (filledBy_parts_singleton (filledBy_given_of_true hkind (filledBy_compare hold hkind)))
  · have hnone : (Plan.parts [.given (old.kind = new.kind) (old.plan new)]).FilledBy [] :=
      filledBy_parts_singleton (filledBy_given_of_false hkind)
    by_cases hdirective : old.kind = .directive ↔ new.kind = .directive
    · rw [if_pos hdirective, compare_of_kind_ne hkind]
      show FilledBy _ ([_] ++ [])
      exact filledBy_parts_cons
        (filledBy_given_of_true ⟨hnames.2 hdirective, hkind⟩ (filledBy_entry rfl rfl)) hnone
    · rw [if_neg hdirective]
      have hnot : ¬(old.name = new.name ∧ old.kind ≠ new.kind) := fun h =>
        hdirective (hnames.1 h.1)
      exact filledBy_parts_cons (filledBy_given_of_false hnot) hnone

/-- What is reported of a definition of the new version fills its plan. -/
theorem TypeMap.filledBy_reportUnder {old new : TypeMap} (hold : old.Intact) (hnew : new.Intact)
    {entry : Name × Definition} (he : entry ∈ new) :
    (old.planUnder entry).FilledBy (reportUnder old entry) := by
  have hkey := hnew.key entry he
  have hthere : ∀ before, (entry.1, before) ∈ old → entry.1 ∈ Keyed.keys old :=
    fun before hmem => List.mem_map.2 ⟨_, hmem, rfl⟩
  unfold planUnder reportUnder
  cases hb : Keyed.get? old entry.1 with
  | none =>
    have hgone := Keyed.get?_eq_none_iff.1 hb
    have hnone : (Plan.whenever (fun before => (entry.1, before) ∈ old) fun before =>
        before.pairPlan entry.2).FilledBy [] :=
      filledBy_nil fun _ _ ⟨before, hmem, _⟩ => hgone (hthere before hmem)
    show FilledBy _ ([_] ++ [])
    refine filledBy_parts_cons ?_ (filledBy_parts_singleton hnone)
    exact filledBy_given_of_true hgone
      (filledBy_entry (definitionAdded_rule ..) ((definitionAdded_path ..).trans hkey.symm))
  | some before =>
    obtain ⟨hbefore, hbeforeKey⟩ := hold.of_get? hb
    have hmem : (entry.1, before) ∈ old := (Keyed.get?_eq_some_iff hold.nodup).1 hb
    have honly : ∀ other, (entry.1, other) ∈ old → other = before := fun other ho =>
      Option.some.inj (((Keyed.get?_eq_some_iff hold.nodup).2 ho).symm.trans hb)
    have hreport := Definition.filledBy_report hbefore (hnew.definition entry he)
      (hbeforeKey.trans hkey)
    exact filledBy_parts_cons (filledBy_given_of_false (not_not.2 (hthere before hmem)))
      (filledBy_parts_singleton (filledBy_whenever hmem honly hreport))

/-- **The detections come in order.**  They fill the plan of the two versions, and what
belongs to one part of the plan stands together. -/
theorem detections_ordered {old new : TypeMap} (hold : old.Intact) (hnew : new.Intact) :
    (old.plan new).FilledBy (Snapshot.ofTypeMaps old new).detections ∧
      ∀ part, ∃ before block after,
        (Snapshot.ofTypeMaps old new).detections = before ++ block ++ after ∧
          ((old.plan new).below part).FilledBy block := by
  have hremovals : (Plan.each old fun entry => .given (entry.1 ∉ Keyed.keys new)
      (.entry entry.2.kind.removedRule entry.1)).FilledBy
        ((old.filter fun entry => !Keyed.has new entry.1).map fun entry =>
          definitionRemoved entry.2.kind entry.2.name) := by
    refine filledBy_each_filter (fun entry => ?_) fun entry he => ?_
    · rw [← Keyed.has_iff_mem_keys, Bool.not_eq_true', Bool.not_eq_true]
    · exact filledBy_entry (definitionRemoved_rule ..)
        ((definitionRemoved_path ..).trans (hold.key entry he).symm)
  have hreports : (Plan.each new old.planUnder).FilledBy (new.flatMap (reportUnder old)) :=
    filledBy_each fun entry he => TypeMap.filledBy_reportUnder hold hnew he
  have hfilled : (old.plan new).FilledBy (Snapshot.ofTypeMaps old new).detections := by
    rw [Snapshot.detections_of_intact hold hnew]
    exact filledBy_parts_cons hremovals (filledBy_parts_singleton hreports)
  exact ⟨hfilled, hfilled.part⟩

/-- A small schema. -/
def gallery : TypeMap := .ofDefinitions
  [⟨some "Film", none, .object
      [⟨some "title", .named "String", [], none, none⟩,
        ⟨some "length", .named "Int", [], none, none⟩,
        ⟨some "year", .named "Int", [], none, none⟩] [some "Node"]⟩,
    ⟨some "Reel", none, .scalar none⟩]

/-- Another version of it, in another order. -/
def galleryRevised : TypeMap := .ofDefinitions
  [⟨some "auth", none, .directive [some "FIELD"] [] (some false)⟩,
    ⟨some "Film", some "A film", .object
      [⟨some "year", .nonNull (.named "Int"), [], some "The year", none⟩,
        ⟨some "rating", .named "Int", [], none, none⟩,
        ⟨some "title", .named "String", [⟨some "case", .named "Case", none, none⟩], none,
          some "use name"⟩] []⟩]

theorem gallery_ordered :
    gallery.Intact ∧ galleryRevised.Intact ∧
      (Snapshot.ofTypeMaps gallery galleryRevised).detections.map (fun d => (d.rule, d.path)) =
        [(.typeRemoved, some "Reel"),
          (.directiveAdded, some "@auth"),
          (.typeDescriptionAdded, some "Film"),
          (.fieldRemoved, some "Film.length"),
          (.fieldAdded, some "Film.rating"),
          (.fieldNullabilityTightened, some "Film.year"),
          (.fieldDescriptionAdded, some "Film.year"),
          (.fieldDeprecationAdded, some "Film.title"),
          (.fieldDeprecationReasonAdded, some "Film.title"),
          (.optionalArgumentAdded, some "Film.title.case"),
          (.interfaceImplementationRemoved, some "Film")] ∧
      (gallery.plan galleryRevised).FilledBy
        (Snapshot.ofTypeMaps gallery galleryRevised).detections := by
  have hold : gallery.Intact := by decide
  have hnew : galleryRevised.Intact := by decide
  exact ⟨hold, hnew, by decide, (detections_ordered hold hnew).1⟩

end SchemaDrift
