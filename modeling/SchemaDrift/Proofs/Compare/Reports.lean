import Mathlib.Tactic.MkIffOfInductiveProp
import SchemaDrift.Compare.Rules
import SchemaDrift.Proofs.Compare.Members

/-!
# What the rules report

For each family of rules, what it takes that everything it reports has a property of
rule and path.  All that is said of detections elsewhere goes through these statements.

* `textChange_eq_none_iff` and its companions — how an optional text changes.
* `InputRules` — the rules on arguments and on input fields, which differ in nothing
  but their names.
* `Owner.forall_mem_compareArguments`, `forall_mem_compareInputFields`,
  `forall_mem_compareFields`, `forall_mem_compareEnumValues` — the families on members.
* `forall_mem_compareNames` — the families on lists of names.
* `Body.SameClass` — the pairs of bodies that are compared part by part.
-/

namespace SchemaDrift

variable {P : Rule → Option String → Prop}

/-! ## Optional texts -/

section Texts

variable {old new : Option String}

theorem textChange_eq_none_iff : textChange old new = none ↔ old = new := by
  cases old <;> cases new <;> simp [textChange]

theorem textChange_eq_added_iff {text : String} :
    textChange old new = some (.added text) ↔ old = none ∧ new = some text := by
  cases old <;> cases new <;> simp [textChange]

theorem textChange_eq_removed_iff {text : String} :
    textChange old new = some (.removed text) ↔ old = some text ∧ new = none := by
  cases old <;> cases new <;> simp [textChange]

theorem textChange_eq_changed_iff {before after : String} :
    textChange old new = some (.changed before after) ↔
      old = some before ∧ new = some after ∧ before ≠ after := by
  cases old with
  | none => cases new <;> simp [textChange]
  | some o =>
    cases new with
    | none => simp [textChange]
    | some n =>
      by_cases h : o = n
      · subst h
        simp only [textChange, if_true, Option.some.injEq]
        exact ⟨fun hc => (nomatch hc), fun ⟨ho, hn, hne⟩ => absurd (ho.symm.trans hn) hne⟩
      · simp only [textChange, h, if_false, Option.some.injEq, TextChange.changed.injEq]
        exact ⟨fun ⟨ho, hn⟩ => ⟨ho, hn, ho ▸ hn ▸ h⟩, fun ⟨ho, hn, _⟩ => ⟨ho, hn⟩⟩

/-- A statement that does not depend on how a text changes. -/
theorem forall_textChange_iff {p : Prop} :
    (∀ change, textChange old new = some change → p) ↔ (old ≠ new → p) := by
  cases h : textChange old new with
  | none => simp [textChange_eq_none_iff.1 h]
  | some change =>
    have hne : old ≠ new := fun he => by rw [textChange_eq_none_iff.2 he] at h; cases h
    simp [hne]

end Texts

/-- The rules on a text that may be added, removed or changed. -/
structure TextRules where
  added : Rule
  removed : Rule
  changed : Rule

/-- The rule under which a change of a text is reported. -/
def TextRules.of (rules : TextRules) : TextChange → Rule
  | .added _ => rules.added
  | .removed _ => rules.removed
  | .changed _ _ => rules.changed

/-- The rules on the description of a type. -/
def TextRules.type : TextRules :=
  ⟨.typeDescriptionAdded, .typeDescriptionRemoved, .typeDescriptionChanged⟩

/-- The rules on the description of a field. -/
def TextRules.field : TextRules :=
  ⟨.fieldDescriptionAdded, .fieldDescriptionRemoved, .fieldDescriptionChanged⟩

/-- The rules under which a change of a deprecation is reported. -/
def DeprecationRules.of (rules : DeprecationRules) : TextChange → List Rule
  | .added _ => [rules.flagAdded, rules.reasonAdded]
  | .removed _ => [rules.flagRemoved, rules.reasonRemoved]
  | .changed _ _ => [rules.reasonChanged]

theorem forall_mem_toList_map {γ : Type} {change : Option γ} {report : γ → Detection}
    {Q : Detection → Prop} :
    (∀ d ∈ change.toList.map report, Q d) ↔ ∀ c, change = some c → Q (report c) := by
  cases change <;> simp

theorem forall_mem_ite {c : Prop} [Decidable c] {report : Detection} {Q : Detection → Prop} :
    (∀ d ∈ if c then [report] else [], Q d) ↔ (c → Q report) := by
  by_cases h : c <;> simp [h]

theorem DeprecationRules.forall_mem_compare (rules : DeprecationRules) {path : String}
    {old new : Option String} :
    (∀ d ∈ rules.compare path old new, P d.rule d.path) ↔
      ∀ change, textChange old new = some change → ∀ rule ∈ rules.of change, P rule path := by
  unfold DeprecationRules.compare
  cases h : textChange old new with
  | none => simp
  | some change => cases change <;> simp [DeprecationRules.of]

/-! ## Arguments and input fields -/

/-- The rules on lists of arguments or of input fields. -/
structure InputRules where
  removed : Rule
  requiredAdded : Rule
  optionalAdded : Rule
  retyped : TypeChange → Rule
  becameRequired : Rule
  defaultChanged : Rule
  descriptionChanged : Rule

namespace InputRules

/-- The rules on arguments. -/
def argument : InputRules where
  removed := .argumentRemoved
  requiredAdded := .requiredArgumentAdded
  optionalAdded := .optionalArgumentAdded
  retyped := TypeChange.argumentRule
  becameRequired := .argumentRequiredAdded
  defaultChanged := .argumentDefaultChanged
  descriptionChanged := .argumentDescriptionChanged

/-- The rules on input fields. -/
def inputField : InputRules where
  removed := .inputFieldRemoved
  requiredAdded := .requiredInputFieldAdded
  optionalAdded := .optionalInputFieldAdded
  retyped := TypeChange.inputFieldRule
  becameRequired := .inputFieldRequiredAdded
  defaultChanged := .inputFieldDefaultChanged
  descriptionChanged := .inputFieldDescriptionChanged

/-- The rule under which a new value is reported. -/
def added (rules : InputRules) (value : InputValue) : Rule :=
  if value.isRequired then rules.requiredAdded else rules.optionalAdded

/-- The rules that report something of two values of one name all have a property. -/
@[mk_iff] structure OnPair (rules : InputRules) (Q : Rule → Prop) (old new : InputValue) : Prop where
  retyped : ∀ change, TypeChange.between old.type new.type = some change →
    Q (rules.retyped change)
  becameRequired : becomesRequired old new (TypeChange.between old.type new.type) = true →
    Q rules.becameRequired
  defaultChanged : old.defaultValue ≠ new.defaultValue → Q rules.defaultChanged
  descriptionChanged : old.description ≠ new.description → Q rules.descriptionChanged

/-- The rules that report something of two lists of values all have a property of the
rule and the name of the value. -/
@[mk_iff] structure OnLists (rules : InputRules) (Q : Rule → Name → Prop) (old new : List InputValue) :
    Prop where
  removed : ∀ a ∈ old, (∀ b ∈ new, b.name ≠ a.name) → Q rules.removed a.name
  added : ∀ b ∈ new, (∀ a ∈ old, a.name ≠ b.name) → Q (rules.added b) b.name
  shared : ∀ a ∈ old, ∀ b ∈ new, a.name = b.name → rules.OnPair (Q · b.name) a b

end InputRules

theorem Owner.argumentAdded_rule (owner : Owner) (arg : InputValue) :
    (owner.argumentAdded arg).rule = InputRules.argument.added arg := by
  unfold Owner.argumentAdded InputRules.added
  cases arg.isRequired <;> rfl

theorem Owner.argumentAdded_path (owner : Owner) (arg : InputValue) :
    (owner.argumentAdded arg).path = owner.member arg.name := by
  unfold Owner.argumentAdded
  cases arg.isRequired <;> rfl

theorem Owner.forall_mem_compareArgument {owner : Owner} {old new : InputValue} :
    (∀ d ∈ owner.compareArgument old new, P d.rule d.path) ↔
      InputRules.argument.OnPair (P · (owner.member new.name)) old new := by
  simp only [Owner.compareArgument, List.forall_mem_append, forall_mem_toList_map,
    forall_mem_ite, forall_textChange_iff, and_assoc, InputRules.onPair_iff]
  rfl

/-- What is reported of arguments, with their paths below that of their owner. -/
theorem Owner.forall_mem_compareArguments {owner : Owner} {old new : List InputValue}
    (h : (old.map InputValue.name).Nodup) :
    (∀ d ∈ owner.compareArguments old new, P d.rule d.path) ↔
      InputRules.argument.OnLists (fun rule name => P rule (owner.member name)) old new := by
  unfold Owner.compareArguments
  rw [forall_mem_members h, InputRules.onLists_iff]
  simp only [argumentAdded_rule, argumentAdded_path, forall_mem_compareArgument]
  rfl

theorem inputFieldAdded_rule (typeName : Name) (label : String) (value : InputValue) :
    (inputFieldAdded typeName label value).rule = InputRules.inputField.added value := by
  unfold inputFieldAdded InputRules.added
  cases value.isRequired <;> rfl

theorem inputFieldAdded_path (typeName : Name) (label : String) (value : InputValue) :
    (inputFieldAdded typeName label value).path = value.name.within typeName.text := by
  unfold inputFieldAdded
  cases value.isRequired <;> rfl

theorem forall_mem_compareInputField {typeName : Name} {old new : InputValue} :
    (∀ d ∈ compareInputField typeName old new, P d.rule d.path) ↔
      InputRules.inputField.OnPair (P · (new.name.within typeName.text)) old new := by
  simp only [compareInputField, List.forall_mem_append, forall_mem_toList_map,
    forall_mem_ite, forall_textChange_iff, and_assoc, InputRules.onPair_iff]
  rfl

/-- What is reported of input fields, with their paths below that of their type. -/
theorem forall_mem_compareInputFields {typeName : Name} {old new : List InputValue}
    (h : (old.map InputValue.name).Nodup) :
    (∀ d ∈ compareInputFields typeName old new, P d.rule d.path) ↔
      InputRules.inputField.OnLists (fun rule name => P rule (name.within typeName.text))
        old new := by
  unfold compareInputFields
  rw [forall_mem_members h, InputRules.onLists_iff]
  simp only [inputFieldAdded_rule, inputFieldAdded_path, forall_mem_compareInputField]
  rfl

/-! ## Fields and enum values -/

/-- The rules that report something of two fields of one name have a property, and those
on their arguments one of the rule and the name of the argument. -/
@[mk_iff] structure Field.OnPair (Q : Rule → Prop) (R : Rule → Name → Prop) (old new : Field) : Prop where
  retyped : ∀ change, TypeChange.between old.type new.type = some change → Q change.fieldRule
  description : ∀ change, textChange old.description new.description = some change →
    Q (TextRules.field.of change)
  deprecation : ∀ change, textChange old.deprecation new.deprecation = some change →
    ∀ rule ∈ DeprecationRules.field.of change, Q rule
  args : InputRules.argument.OnLists R old.args new.args

/-- Everything reported of two lists of fields of a type has a property of rule and
path. -/
@[mk_iff] structure Field.OnLists (P : Rule → Option String → Prop) (typeName : Name)
    (old new : List Field) : Prop where
  removed : ∀ a ∈ old, (∀ b ∈ new, b.name ≠ a.name) →
    P .fieldRemoved (a.name.within typeName.text)
  added : ∀ b ∈ new, (∀ a ∈ old, a.name ≠ b.name) →
    P .fieldAdded (b.name.within typeName.text)
  shared : ∀ a ∈ old, ∀ b ∈ new, a.name = b.name →
    Field.OnPair (P · (b.name.within typeName.text))
      (fun rule name => P rule (name.within (b.name.within typeName.text))) a b

theorem fieldDescription_rule (path : String) (change : TextChange) :
    (fieldDescription path change).rule = TextRules.field.of change := by
  cases change <;> rfl

theorem fieldDescription_path (path : String) (change : TextChange) :
    (fieldDescription path change).path = path := by
  cases change <;> rfl

theorem forall_mem_compareField {typeName : Name} {old new : Field}
    (h : (old.args.map InputValue.name).Nodup) :
    (∀ d ∈ compareField typeName old new, P d.rule d.path) ↔
      Field.OnPair (P · (new.name.within typeName.text))
        (fun rule name => P rule (name.within (new.name.within typeName.text))) old new := by
  simp only [compareField, List.forall_mem_append, forall_mem_toList_map, fieldDescription_rule,
    fieldDescription_path, DeprecationRules.forall_mem_compare,
    Owner.forall_mem_compareArguments h, Owner.member, and_assoc, Field.onPair_iff]

/-- What is reported of fields, with their paths below that of their type. -/
theorem forall_mem_compareFields {typeName : Name} {label : String} {old new : List Field}
    (h : (old.map Field.name).Nodup) (hargs : ∀ f ∈ old, (f.args.map InputValue.name).Nodup) :
    (∀ d ∈ compareFields typeName label old new, P d.rule d.path) ↔
      Field.OnLists P typeName old new := by
  unfold compareFields
  rw [forall_mem_members h, Field.onLists_iff]
  constructor
  · rintro ⟨hgone, hcome, hboth⟩
    exact ⟨hgone, hcome, fun a ha b hb hname =>
      (forall_mem_compareField (hargs a ha)).1 (hboth a ha b hb hname)⟩
  · rintro ⟨hgone, hcome, hboth⟩
    exact ⟨hgone, hcome, fun a ha b hb hname =>
      (forall_mem_compareField (hargs a ha)).2 (hboth a ha b hb hname)⟩

/-- The rules that report something of two enum values of one name have a property. -/
@[mk_iff] structure EnumValue.OnPair (Q : Rule → Prop) (old new : EnumValue) : Prop where
  description : old.description ≠ new.description → Q .enumValueDescriptionChanged
  deprecation : ∀ change, textChange old.deprecation new.deprecation = some change →
    ∀ rule ∈ DeprecationRules.enumValue.of change, Q rule

/-- Everything reported of two lists of values of an enum has a property of rule and
path. -/
@[mk_iff] structure EnumValue.OnLists (P : Rule → Option String → Prop) (typeName : Name)
    (old new : List EnumValue) : Prop where
  removed : ∀ a ∈ old, (∀ b ∈ new, b.name ≠ a.name) →
    P .enumValueRemoved (a.name.within typeName.text)
  added : ∀ b ∈ new, (∀ a ∈ old, a.name ≠ b.name) →
    P .enumValueAdded (b.name.within typeName.text)
  shared : ∀ a ∈ old, ∀ b ∈ new, a.name = b.name →
    EnumValue.OnPair (P · (b.name.within typeName.text)) a b

/-- What is reported of enum values, with their paths below that of their type. -/
theorem forall_mem_compareEnumValues {typeName : Name} {old new : List EnumValue}
    (h : (old.map EnumValue.name).Nodup) :
    (∀ d ∈ compareEnumValues typeName old new, P d.rule d.path) ↔
      EnumValue.OnLists P typeName old new := by
  unfold compareEnumValues
  rw [forall_mem_members h, EnumValue.onLists_iff]
  simp only [compareEnumValue, List.forall_mem_append, forall_mem_toList_map,
    forall_textChange_iff, DeprecationRules.forall_mem_compare, EnumValue.onPair_iff]

/-! ## Names and single attributes -/

/-- What is reported of two lists of names: the names only one of them has. -/
theorem forall_mem_compareNames {path : Option String} {gone come : Rule}
    {goneText comeText : String → String} {old new : List Name} {Q : Detection → Prop} :
    (∀ d ∈ compareNames path gone come goneText comeText old new, Q d) ↔
      (∀ name ∈ old, name ∉ new → Q ⟨gone, path, goneText name.text⟩) ∧
      ∀ name ∈ new, name ∉ old → Q ⟨come, path, comeText name.text⟩ := by
  simp only [compareNames, namesLeft, List.forall_mem_append, List.forall_mem_map,
    List.mem_filter, List.contains_eq_mem, Bool.not_eq_true', decide_eq_false_iff_not, and_imp]

theorem typeDescription_rule (typeName : Name) (label : String) (change : TextChange) :
    (typeDescription typeName label change).rule = TextRules.type.of change := by
  cases change <;> rfl

theorem typeDescription_path (typeName : Name) (label : String) (change : TextChange) :
    (typeDescription typeName label change).path = typeName := by
  cases change <;> rfl

theorem Definition.forall_mem_compareDescription {old new : Definition} :
    (∀ d ∈ old.compareDescription new, P d.rule d.path) ↔
      ∀ change, textChange old.description new.description = some change →
        P (TextRules.type.of change) new.name := by
  simp only [Definition.compareDescription, forall_mem_toList_map, typeDescription_rule,
    typeDescription_path]

theorem forall_mem_compareSpecifiedBy {typeName : Name} {old new : Option String} :
    (∀ d ∈ compareSpecifiedBy typeName old new, P d.rule d.path) ↔
      (old ≠ new → P .scalarSpecifiedByChanged typeName) := by
  simp only [compareSpecifiedBy, forall_mem_toList_map, forall_textChange_iff]

theorem forall_mem_compareDirectiveDescription {label : String} {path old new : Option String} :
    (∀ d ∈ compareDirectiveDescription label path old new, P d.rule d.path) ↔
      (old ≠ new → P .directiveDescriptionChanged path) := by
  simp only [compareDirectiveDescription, forall_mem_toList_map, forall_textChange_iff]

/-- The rule under which a new repeatable flag is reported. -/
def repeatableRule (new : Option Bool) : Rule :=
  if new = some true then .directiveRepeatableAdded else .directiveRepeatableRemoved

theorem forall_mem_compareRepeatable {name : Name} {path : Option String}
    {old new : Option Bool} :
    (∀ d ∈ compareRepeatable name path old new, P d.rule d.path) ↔
      (old ≠ new → P (repeatableRule new) path) := by
  unfold compareRepeatable repeatableRule
  by_cases h : old = new
  · simp [h]
  · by_cases hset : new = some true <;> simp [h, hset]

/-! ## Definitions -/

theorem definitionRemoved_path (kind : Kind) (name : Name) :
    (definitionRemoved kind name).path = kind.key name := by
  cases kind <;> rfl

theorem definitionAdded_path (kind : Kind) (name : Name) :
    (definitionAdded kind name).path = kind.key name := by
  cases kind <;> rfl

/-- Two bodies of one class. -/
inductive Body.SameClass : Body → Body → Prop where
  | object (oldFields : List Field) (oldInterfaces : List Name) (newFields : List Field)
      (newInterfaces : List Name) :
      SameClass (.object oldFields oldInterfaces) (.object newFields newInterfaces)
  | interface (oldFields : List Field) (oldInterfaces : List Name) (newFields : List Field)
      (newInterfaces : List Name) :
      SameClass (.interface oldFields oldInterfaces) (.interface newFields newInterfaces)
  | union (old new : List Name) : SameClass (.union old) (.union new)
  | enum (old new : List EnumValue) : SameClass (.enum old) (.enum new)
  | input (old new : List InputValue) : SameClass (.input old) (.input new)
  | scalar (old new : Option String) : SameClass (.scalar old) (.scalar new)
  | directive (oldLocations : List Name) (oldArgs : List InputValue) (oldRepeatable : Option Bool)
      (newLocations : List Name) (newArgs : List InputValue) (newRepeatable : Option Bool) :
      SameClass (.directive oldLocations oldArgs oldRepeatable)
        (.directive newLocations newArgs newRepeatable)

theorem Body.sameClass_of_kind_eq {old new : Body} (h : old.kind = new.kind) :
    old.SameClass new := by
  cases old <;> cases new <;> first | constructor | cases h

theorem Body.label_eq_of_kind_eq {old new : Body} (h : old.kind = new.kind) :
    old.label = new.label := by
  cases sameClass_of_kind_eq h <;> rfl

/-- Of definitions of two classes only the classes are compared. -/
theorem Definition.compare_of_kind_ne {old new : Definition} (h : old.kind ≠ new.kind) :
    old.compare new = [kindChanged new.name old.body.label new.body.label] := by
  obtain ⟨oldName, oldDescription, oldBody⟩ := old
  obtain ⟨newName, newDescription, newBody⟩ := new
  cases oldBody <;> cases newBody <;> first | rfl | exact absurd rfl h

end SchemaDrift
