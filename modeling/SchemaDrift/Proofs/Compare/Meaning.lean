import SchemaDrift.Proofs.Locate.Places

/-!
# What the rules say

A rule says something of the element at a place: that it is gone or has come, or in what
it differs.

* `Gone`, `Come`, `Both` — where the element is.
* `Rule.Holds` — what each rule says of the element in the old and in the new version.
* `InputRules.Speaks`, `InputRules.Speaks.onLists` — what is reported of arguments or of
  input fields holds of those that are found by name.
* `DeprecationRules.Speaks` — the rules on deprecation, for fields and enum values alike.
* `Field.onLists_of_holds`, `EnumValue.onLists_of_holds` — the same of fields and of enum
  values.
-/

namespace SchemaDrift

/-! ## What a rule says -/

section Statements

variable {α : Type}

/-- The element is in the old version only. -/
def Gone (make : α → Element) (old new : Option Element) : Prop :=
  (∃ a, old = some (make a)) ∧ new = none

/-- The element is in the new version only, and is such as `p` says. -/
def Come (make : α → Element) (p : α → Prop) (old new : Option Element) : Prop :=
  old = none ∧ ∃ b, new = some (make b) ∧ p b

/-- The element is in both versions, in two forms that differ as `differ` says. -/
def Both (make : α → Element) (differ : α → α → Prop) (old new : Option Element) : Prop :=
  ∃ a b, old = some (make a) ∧ new = some (make b) ∧ differ a b

end Statements

/-- Another reference, which differs from the old one in the given way. -/
def Retyped (change : TypeChange) (old new : TypeRef) : Prop :=
  old ≠ new ∧ TypeChange.between old new = some change

/-- A text that was not there before. -/
def Appears (old new : Option String) : Prop := old = none ∧ new ≠ none

/-- A text that is not there any more. -/
def Vanishes (old new : Option String) : Prop := old ≠ none ∧ new = none

/-- A text in the place of another one. -/
def Rewritten (old new : Option String) : Prop := old ≠ none ∧ new ≠ none ∧ old ≠ new

/-- The message has the name in quotes. -/
def Quotes (message : String) (name : Name) : Prop :=
  ∃ before after, message = before ++ "'" ++ name.text ++ "'" ++ after

/-- The first list holds a name that the second does not, and the message quotes it. -/
def Misses (message : String) (whole rest : List Name) : Prop :=
  ∃ name ∈ whole, name ∉ rest ∧ Quotes message name

namespace Body

/-- The interfaces of an object or interface. -/
def interfaces : Body → List Name
  | .object _ interfaces | .interface _ interfaces => interfaces
  | .union _ | .enum _ | .input _ | .scalar _ | .directive .. => []

/-- The members of a union. -/
def unionMembers : Body → List Name
  | .union members => members
  | .object .. | .interface .. | .enum _ | .input _ | .scalar _ | .directive .. => []

/-- The locations of a directive. -/
def locations : Body → List Name
  | .directive locations _ _ => locations
  | .object .. | .interface .. | .union _ | .enum _ | .input _ | .scalar _ => []

/-- The address of the specification of a scalar. -/
def specifiedBy : Body → Option String
  | .scalar specifiedBy => specifiedBy
  | .object .. | .interface .. | .union _ | .enum _ | .input _ | .directive .. => none

/-- Whether a directive is repeatable. -/
def repeatable : Body → Option Bool
  | .directive _ _ repeatable => repeatable
  | .object .. | .interface .. | .union _ | .enum _ | .input _ | .scalar _ => none

end Body

/-- What a rule says of the element at a place, given what stands there in the old and in
the new version.  The rules on names say of the name in their message that only one of
the versions lists it. -/
def Rule.Holds (rule : Rule) (message : String) : Option Element → Option Element → Prop :=
  match rule with
  | .typeAdded => Come .type fun _ => True
  | .typeRemoved => Gone .type
  | .typeKindChanged => Both .type fun a b => a.kind ≠ b.kind
  | .typeDescriptionAdded => Both .type fun a b => Appears a.description b.description
  | .typeDescriptionRemoved => Both .type fun a b => Vanishes a.description b.description
  | .typeDescriptionChanged => Both .type fun a b => Rewritten a.description b.description
  | .fieldAdded => Come .field fun _ => True
  | .fieldRemoved => Gone .field
  | .fieldTypeChanged => Both .field fun a b => Retyped .retyped a.type b.type
  | .fieldNullabilityTightened => Both .field fun a b => Retyped .tightened a.type b.type
  | .fieldNullabilityLoosened => Both .field fun a b => Retyped .loosened a.type b.type
  | .fieldListWrappingChanged => Both .field fun a b => Retyped .listWrapping a.type b.type
  | .fieldDescriptionAdded => Both .field fun a b => Appears a.description b.description
  | .fieldDescriptionRemoved => Both .field fun a b => Vanishes a.description b.description
  | .fieldDescriptionChanged => Both .field fun a b => Rewritten a.description b.description
  | .fieldDeprecationAdded | .fieldDeprecationReasonAdded =>
      Both .field fun a b => Appears a.deprecation b.deprecation
  | .fieldDeprecationRemoved | .fieldDeprecationReasonRemoved =>
      Both .field fun a b => Vanishes a.deprecation b.deprecation
  | .fieldDeprecationReasonChanged =>
      Both .field fun a b => Rewritten a.deprecation b.deprecation
  | .argumentRemoved => Gone .argument
  | .requiredArgumentAdded => Come .argument fun b => b.isRequired = true
  | .optionalArgumentAdded => Come .argument fun b => b.isRequired = false
  | .argumentRequiredAdded =>
      Both .argument fun a b => a.isRequired = false ∧ b.isRequired = true
  | .argumentTypeChanged => Both .argument fun a b => Retyped .retyped a.type b.type
  | .argumentNullabilityTightened => Both .argument fun a b => Retyped .tightened a.type b.type
  | .argumentNullabilityLoosened => Both .argument fun a b => Retyped .loosened a.type b.type
  | .argumentListWrappingChanged =>
      Both .argument fun a b => Retyped .listWrapping a.type b.type
  | .argumentDefaultChanged => Both .argument fun a b => a.defaultValue ≠ b.defaultValue
  | .argumentDescriptionChanged => Both .argument fun a b => a.description ≠ b.description
  | .enumValueAdded => Come .enumValue fun _ => True
  | .enumValueRemoved => Gone .enumValue
  | .enumValueDescriptionChanged => Both .enumValue fun a b => a.description ≠ b.description
  | .enumValueDeprecationAdded | .enumValueDeprecationReasonAdded =>
      Both .enumValue fun a b => Appears a.deprecation b.deprecation
  | .enumValueDeprecationRemoved | .enumValueDeprecationReasonRemoved =>
      Both .enumValue fun a b => Vanishes a.deprecation b.deprecation
  | .enumValueDeprecationReasonChanged =>
      Both .enumValue fun a b => Rewritten a.deprecation b.deprecation
  | .unionMemberAdded =>
      Both .type fun a b => Misses message b.body.unionMembers a.body.unionMembers
  | .unionMemberRemoved =>
      Both .type fun a b => Misses message a.body.unionMembers b.body.unionMembers
  | .interfaceImplementationAdded =>
      Both .type fun a b => Misses message b.body.interfaces a.body.interfaces
  | .interfaceImplementationRemoved =>
      Both .type fun a b => Misses message a.body.interfaces b.body.interfaces
  | .inputFieldRemoved => Gone .inputField
  | .requiredInputFieldAdded => Come .inputField fun b => b.isRequired = true
  | .optionalInputFieldAdded => Come .inputField fun b => b.isRequired = false
  | .inputFieldRequiredAdded =>
      Both .inputField fun a b => a.isRequired = false ∧ b.isRequired = true
  | .inputFieldTypeChanged => Both .inputField fun a b => Retyped .retyped a.type b.type
  | .inputFieldNullabilityTightened =>
      Both .inputField fun a b => Retyped .tightened a.type b.type
  | .inputFieldNullabilityLoosened =>
      Both .inputField fun a b => Retyped .loosened a.type b.type
  | .inputFieldListWrappingChanged =>
      Both .inputField fun a b => Retyped .listWrapping a.type b.type
  | .inputFieldDefaultChanged => Both .inputField fun a b => a.defaultValue ≠ b.defaultValue
  | .inputFieldDescriptionChanged => Both .inputField fun a b => a.description ≠ b.description
  | .scalarSpecifiedByChanged =>
      Both .type fun a b => a.body.specifiedBy ≠ b.body.specifiedBy
  | .directiveAdded => Come .directive fun _ => True
  | .directiveRemoved => Gone .directive
  | .directiveLocationAdded =>
      Both .directive fun a b => Misses message b.body.locations a.body.locations
  | .directiveLocationRemoved =>
      Both .directive fun a b => Misses message a.body.locations b.body.locations
  | .directiveRepeatableAdded => Both .directive fun a b =>
      a.body.repeatable = some false ∧ b.body.repeatable = some true
  | .directiveRepeatableRemoved => Both .directive fun a b =>
      a.body.repeatable = some true ∧ b.body.repeatable = some false
  | .directiveDescriptionChanged => Both .directive fun a b => a.description ≠ b.description

/-! ## Texts and members -/

theorem retyped_of_between {change : TypeChange} {old new : TypeRef}
    (h : TypeChange.between old new = some change) : Retyped change old new := by
  refine ⟨?_, h⟩
  rintro rfl
  rw [TypeChange.between_self] at h
  exact nomatch h

/-- What a change of a text says of the two texts. -/
def TextChange.Fits (old new : Option String) : TextChange → Prop
  | .added _ => Appears old new
  | .removed _ => Vanishes old new
  | .changed _ _ => Rewritten old new

theorem fits_of_textChange {old new : Option String} {change : TextChange}
    (h : textChange old new = some change) : change.Fits old new := by
  cases change with
  | added text =>
    obtain ⟨rfl, rfl⟩ := textChange_eq_added_iff.1 h
    exact ⟨rfl, Option.some_ne_none text⟩
  | removed text =>
    obtain ⟨rfl, rfl⟩ := textChange_eq_removed_iff.1 h
    exact ⟨Option.some_ne_none text, rfl⟩
  | changed before after =>
    obtain ⟨rfl, rfl, hne⟩ := textChange_eq_changed_iff.1 h
    exact ⟨Option.some_ne_none before, Option.some_ne_none after, by simpa using hne⟩

section Members

variable {α : Type} {name : α → Name} {make : α → Element} {old new : List α}

theorem lastNamed?_eq_none {members : List α} {wanted : Name}
    (h : ∀ member ∈ members, name member ≠ wanted) : lastNamed? name members wanted = none := by
  refine List.find?_eq_none.2 fun member hm => ?_
  simpa using h member (List.mem_reverse.1 hm)

/-- A member whose name is lost is gone. -/
theorem gone_of_mem (hold : (old.map name).Nodup) {a : α} (ha : a ∈ old)
    (h : ∀ b ∈ new, name b ≠ name a) :
    Gone make ((lastNamed? name old (name a)).map make)
      ((lastNamed? name new (name a)).map make) := by
  rw [(lastNamed?_eq_some_iff hold).2 ⟨ha, rfl⟩, lastNamed?_eq_none h]
  exact ⟨⟨a, rfl⟩, rfl⟩

/-- A member whose name is new has come. -/
theorem come_of_mem (hnew : (new.map name).Nodup) {b : α} (hb : b ∈ new)
    (h : ∀ a ∈ old, name a ≠ name b) {p : α → Prop} (hp : p b) :
    Come make p ((lastNamed? name old (name b)).map make)
      ((lastNamed? name new (name b)).map make) := by
  rw [(lastNamed?_eq_some_iff hnew).2 ⟨hb, rfl⟩, lastNamed?_eq_none h]
  exact ⟨rfl, b, rfl, hp⟩

/-- A member whose name both sides have is in both. -/
theorem both_of_mem (hold : (old.map name).Nodup) (hnew : (new.map name).Nodup) {a b : α}
    (ha : a ∈ old) (hb : b ∈ new) (hname : name a = name b) {differ : α → α → Prop}
    (h : differ a b) :
    Both make differ ((lastNamed? name old (name b)).map make)
      ((lastNamed? name new (name b)).map make) := by
  rw [(lastNamed?_eq_some_iff hnew).2 ⟨hb, rfl⟩, (lastNamed?_eq_some_iff hold).2 ⟨ha, hname⟩]
  exact ⟨a, b, rfl, rfl, h⟩

end Members

/-! ## Arguments and input fields -/

/-- The rules say of the elements that `make` makes of values what the rules on
arguments say of arguments. -/
structure InputRules.Speaks (rules : InputRules) (make : InputValue → Element) : Prop where
  removed : ∀ message o n, Gone make o n → rules.removed.Holds message o n
  requiredAdded : ∀ message o n, Come make (fun b => b.isRequired = true) o n →
    rules.requiredAdded.Holds message o n
  optionalAdded : ∀ message o n, Come make (fun b => b.isRequired = false) o n →
    rules.optionalAdded.Holds message o n
  retyped : ∀ change message o n, Both make (fun a b => Retyped change a.type b.type) o n →
    (rules.retyped change).Holds message o n
  becameRequired : ∀ message o n,
    Both make (fun a b => a.isRequired = false ∧ b.isRequired = true) o n →
      rules.becameRequired.Holds message o n
  defaultChanged : ∀ message o n, Both make (fun a b => a.defaultValue ≠ b.defaultValue) o n →
    rules.defaultChanged.Holds message o n
  descriptionChanged : ∀ message o n, Both make (fun a b => a.description ≠ b.description) o n →
    rules.descriptionChanged.Holds message o n

theorem InputRules.argument_speaks : InputRules.argument.Speaks .argument := by
  constructor
  case retyped => intro change; cases change <;> exact fun _ _ _ h => h
  all_goals exact fun _ _ _ h => h

theorem InputRules.inputField_speaks : InputRules.inputField.Speaks .inputField := by
  constructor
  case retyped => intro change; cases change <;> exact fun _ _ _ h => h
  all_goals exact fun _ _ _ h => h

/-- If a property follows for each rule from what it says of the values of a name, then
the rules that report something all have it. -/
theorem InputRules.Speaks.onLists {rules : InputRules} {make : InputValue → Element}
    (h : rules.Speaks make) {old new : List InputValue}
    (hold : MembersWellFormed InputValue.name InputValue.WellFormed old)
    (hnew : MembersWellFormed InputValue.name InputValue.WellFormed new)
    {Q : Rule → Name → Prop}
    (hQ : ∀ rule name, Name.IsProper name →
      (∀ message, rule.Holds message ((lastNamed? InputValue.name old name).map make)
        ((lastNamed? InputValue.name new name).map make)) → Q rule name) :
    rules.OnLists Q old new := by
  refine ⟨fun a ha hne => ?_, fun b hb hne => ?_, fun a ha b hb hname => ?_⟩
  · exact hQ _ _ (hold.each a ha).name fun message =>
      h.removed message _ _ (gone_of_mem hold.nodup ha hne)
  · refine hQ _ _ (hnew.each b hb).name fun message => ?_
    unfold InputRules.added
    cases hb' : b.isRequired with
    | true => exact h.requiredAdded message _ _ (come_of_mem hnew.nodup hb hne hb')
    | false => exact h.optionalAdded message _ _ (come_of_mem hnew.nodup hb hne hb')
  · have hboth : ∀ {differ : InputValue → InputValue → Prop}, differ a b →
        Both make differ ((lastNamed? InputValue.name old b.name).map make)
          ((lastNamed? InputValue.name new b.name).map make) :=
      both_of_mem hold.nodup hnew.nodup ha hb hname
    have hproper := (hnew.each b hb).name
    refine ⟨fun change hc => ?_, fun hbecomes => ?_, fun hne => ?_, fun hne => ?_⟩
    · exact hQ _ _ hproper fun message =>
        h.retyped change message _ _ (hboth (retyped_of_between hc))
    · simp only [becomesRequired, Bool.and_eq_true, Bool.not_eq_true'] at hbecomes
      exact hQ _ _ hproper fun message => h.becameRequired message _ _ (hboth hbecomes.1)
    · exact hQ _ _ hproper fun message => h.defaultChanged message _ _ (hboth hne)
    · exact hQ _ _ hproper fun message => h.descriptionChanged message _ _ (hboth hne)

/-! ## Fields and enum values -/

/-- The rules say of the elements that `make` makes of members how the reason for their
deprecation has changed, those on the flag and those on the reason alike. -/
structure DeprecationRules.Speaks {α : Type} (rules : DeprecationRules) (make : α → Element)
    (reason : α → Option String) : Prop where
  appears : ∀ message o n, Both make (fun a b => Appears (reason a) (reason b)) o n →
    rules.flagAdded.Holds message o n ∧ rules.reasonAdded.Holds message o n
  vanishes : ∀ message o n, Both make (fun a b => Vanishes (reason a) (reason b)) o n →
    rules.flagRemoved.Holds message o n ∧ rules.reasonRemoved.Holds message o n
  rewritten : ∀ message o n, Both make (fun a b => Rewritten (reason a) (reason b)) o n →
    rules.reasonChanged.Holds message o n

theorem DeprecationRules.field_speaks :
    DeprecationRules.field.Speaks .field Field.deprecation :=
  ⟨fun _ _ _ h => ⟨h, h⟩, fun _ _ _ h => ⟨h, h⟩, fun _ _ _ h => h⟩

theorem DeprecationRules.enumValue_speaks :
    DeprecationRules.enumValue.Speaks .enumValue EnumValue.deprecation :=
  ⟨fun _ _ _ h => ⟨h, h⟩, fun _ _ _ h => ⟨h, h⟩, fun _ _ _ h => h⟩

section Elements

variable {o n : Option Element} {change : TextChange}

theorem TextRules.type_holds {a b : Definition}
    (hboth : ∀ differ : Definition → Definition → Prop, differ a b → Both .type differ o n)
    (h : textChange a.description b.description = some change) (message : String) :
    (TextRules.type.of change).Holds message o n := by
  have hfits := fits_of_textChange h
  cases change <;> exact hboth _ hfits

theorem TextRules.field_holds {a b : Field}
    (hboth : ∀ differ : Field → Field → Prop, differ a b → Both .field differ o n)
    (h : textChange a.description b.description = some change) (message : String) :
    (TextRules.field.of change).Holds message o n := by
  have hfits := fits_of_textChange h
  cases change <;> exact hboth _ hfits

theorem DeprecationRules.Speaks.holds {α : Type} {rules : DeprecationRules}
    {make : α → Element} {reason : α → Option String} (hspeaks : rules.Speaks make reason)
    {a b : α} (hboth : ∀ differ : α → α → Prop, differ a b → Both make differ o n)
    (h : textChange (reason a) (reason b) = some change) :
    ∀ rule ∈ rules.of change, ∀ message, rule.Holds message o n := by
  have hfits := fits_of_textChange h
  cases change with
  | added text =>
    have hholds := fun message => hspeaks.appears message o n (hboth _ hfits)
    exact List.forall_mem_cons.2 ⟨fun message => (hholds message).1,
      List.forall_mem_singleton.2 fun message => (hholds message).2⟩
  | removed text =>
    have hholds := fun message => hspeaks.vanishes message o n (hboth _ hfits)
    exact List.forall_mem_cons.2 ⟨fun message => (hholds message).1,
      List.forall_mem_singleton.2 fun message => (hholds message).2⟩
  | changed before after =>
    exact List.forall_mem_singleton.2 fun message =>
      hspeaks.rewritten message o n (hboth _ hfits)

theorem TypeChange.fieldRule_holds {a b : Field} {change : TypeChange}
    (hboth : ∀ differ : Field → Field → Prop, differ a b → Both .field differ o n)
    (h : TypeChange.between a.type b.type = some change) (message : String) :
    change.fieldRule.Holds message o n := by
  have hretyped := retyped_of_between h
  cases change <;> exact hboth _ hretyped

end Elements

section Families

variable {P : Rule → Option String → Prop} {typeName : Name}

/-- If a property follows for each rule from what it says of the fields of a name and of
their arguments, then everything reported of fields has it. -/
theorem Field.onLists_of_holds {old new : List Field}
    (hold : MembersWellFormed Field.name Field.WellFormed old)
    (hnew : MembersWellFormed Field.name Field.WellFormed new)
    (hfield : ∀ rule name, Name.IsProper name →
      (∀ message, rule.Holds message ((lastNamed? Field.name old name).map .field)
        ((lastNamed? Field.name new name).map .field)) → P rule (name.within typeName.text))
    (hargument : ∀ rule field name, Name.IsProper field → Name.IsProper name →
      (∀ message, rule.Holds message ((lastNamed? Field.name old field).bind (·.argument? name))
        ((lastNamed? Field.name new field).bind (·.argument? name))) →
          P rule (name.within (field.within typeName.text))) :
    Field.OnLists P typeName old new := by
  refine ⟨fun a ha hne => ?_, fun b hb hne => ?_, fun a ha b hb hname => ?_⟩
  · exact hfield _ _ (hold.each a ha).name fun _ => gone_of_mem hold.nodup ha hne
  · exact hfield _ _ (hnew.each b hb).name fun _ => come_of_mem hnew.nodup hb hne trivial
  · have hproper := (hnew.each b hb).name
    have hboth : ∀ differ : Field → Field → Prop, differ a b →
        Both .field differ ((lastNamed? Field.name old b.name).map .field)
          ((lastNamed? Field.name new b.name).map .field) :=
      fun _ => both_of_mem hold.nodup hnew.nodup ha hb hname
    refine ⟨fun change hc => ?_, fun change hc => ?_, fun change hc rule hrule => ?_, ?_⟩
    · exact hfield _ _ hproper (TypeChange.fieldRule_holds hboth hc)
    · exact hfield _ _ hproper (TextRules.field_holds hboth hc)
    · exact hfield _ _ hproper (DeprecationRules.field_speaks.holds hboth hc rule hrule)
    · refine InputRules.argument_speaks.onLists (hold.each a ha).args (hnew.each b hb).args ?_
      intro rule name hn hholds
      refine hargument rule b.name name hproper hn fun message => ?_
      rw [(lastNamed?_eq_some_iff hold.nodup).2 ⟨ha, hname⟩,
        (lastNamed?_eq_some_iff hnew.nodup).2 ⟨hb, rfl⟩]
      exact hholds message

/-- The same of enum values. -/
theorem EnumValue.onLists_of_holds {old new : List EnumValue}
    (hold : MembersWellFormed EnumValue.name (fun value => value.name.IsProper) old)
    (hnew : MembersWellFormed EnumValue.name (fun value => value.name.IsProper) new)
    (hvalue : ∀ rule name, Name.IsProper name →
      (∀ message, rule.Holds message ((lastNamed? EnumValue.name old name).map .enumValue)
        ((lastNamed? EnumValue.name new name).map .enumValue)) →
          P rule (name.within typeName.text)) :
    EnumValue.OnLists P typeName old new := by
  refine ⟨fun a ha hne => ?_, fun b hb hne => ?_, fun a ha b hb hname => ?_⟩
  · exact hvalue _ _ (hold.each a ha) fun _ => gone_of_mem hold.nodup ha hne
  · exact hvalue _ _ (hnew.each b hb) fun _ => come_of_mem hnew.nodup hb hne trivial
  · have hproper := hnew.each b hb
    have hboth : ∀ differ : EnumValue → EnumValue → Prop, differ a b →
        Both .enumValue differ ((lastNamed? EnumValue.name old b.name).map .enumValue)
          ((lastNamed? EnumValue.name new b.name).map .enumValue) :=
      fun _ => both_of_mem hold.nodup hnew.nodup ha hb hname
    refine ⟨fun hne => ?_, fun change hc rule hrule => ?_⟩
    · exact hvalue _ _ hproper fun _ => hboth _ hne
    · exact hvalue _ _ hproper (DeprecationRules.enumValue_speaks.holds hboth hc rule hrule)

end Families

end SchemaDrift
