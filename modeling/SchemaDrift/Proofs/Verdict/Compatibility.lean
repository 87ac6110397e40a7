import SchemaDrift.Diff.Engine
import SchemaDrift.Proofs.Compare.Detections
import SchemaDrift.Proofs.Schema.Loosening

/-!
# Success is compatibility

A comparison without an interceptor succeeds exactly if the new version is compatible
with the old one.

* `Rule.fails`, `conclude_changes_eq_success_iff` — the verdict depends only on the rules
  under which something was detected.
* `InputsKept`, `Field.KeptAs`, `Body.CompatibleWith`, `TypeMap.Compatible` — what it
  means that whoever relied on the old version can rely on the new one.
* `forall_not_fails_iff_compatible` — both are the same, for either setting.
* `diff_success_iff_compatible` — the verdict where dangerous changes may pass.

All of this is about versions whose type references a document can write.  For others
the flags of nullability do not tell where the marks of a reference stand.
-/

namespace SchemaDrift

variable {strict : Bool}

/-! ## The verdict in terms of rules -/

/-- Does a detection under the rule make a comparison fail?  If `strict` is set, the
dangerous rules do so, too. -/
def Rule.fails (strict : Bool) (rule : Rule) : Bool :=
  rule.criticality.level == .breaking || (strict && rule.criticality.level == .dangerous)

/-- No detection of the list makes a comparison fail. -/
def NoneFails (strict : Bool) (detections : List Detection) : Prop :=
  ∀ d ∈ detections, d.rule.fails strict = false

theorem noneFails_append {first second : List Detection} :
    NoneFails strict (first ++ second) ↔ NoneFails strict first ∧ NoneFails strict second :=
  List.forall_mem_append

theorem Detection.isBreaking_classify (d : Detection) :
    d.classify.isBreaking = (d.rule.criticality.level == .breaking) := by
  have h : ∀ level : Level, (level.id == Level.breaking.id) = (level == .breaking) := by
    intro level
    cases level <;> decide
  exact h d.rule.criticality.level

theorem Detection.isDangerous_classify (d : Detection) :
    d.classify.isDangerous = (d.rule.criticality.level == .dangerous) := by
  have h : ∀ level : Level, (level.id == Level.dangerous.id) = (level == .dangerous) := by
    intro level
    cases level <;> decide
  exact h d.rule.criticality.level

/-- The verdict is success exactly if no detection is under a rule that fails. -/
theorem conclude_changes_eq_success_iff (strict : Bool) (snapshot : Snapshot) :
    conclude strict snapshot.changes = .success ↔ NoneFails strict snapshot.detections := by
  have hany : (snapshot.changes.any fun change =>
      change.isBreaking || (strict && change.isDangerous)) =
        snapshot.detections.any fun d => d.rule.fails strict := by
    rw [Snapshot.changes, List.any_map]
    refine congrArg (List.any _) (funext fun d => ?_)
    rw [Function.comp_apply, d.isBreaking_classify, d.isDangerous_classify, Rule.fails]
  rw [conclude, hany]
  cases h : snapshot.detections.any fun d => d.rule.fails strict with
  | true =>
    obtain ⟨d, hd, hfails⟩ := List.any_eq_true.1 h
    exact ⟨fun hc => (nomatch hc), fun hall => absurd (hall d hd) (by simp [hfails])⟩
  | false =>
    exact ⟨fun _ d hd => by simpa using List.any_eq_false.1 h d hd, fun _ => rfl⟩

/-- Without an interceptor a comparison always comes to a result, and the verdict in it
is the one on the detected changes. -/
theorem Policy.diff_of_no_interceptor (strict : Bool) (seconds : Double) (sources : Sources)
    (snapshot : Snapshot) (label : Datum) :
    ∃ comparison,
      Policy.diff ⟨strict, none, seconds⟩ sources snapshot label = some comparison ∧
      comparison.result.conclusion = conclude strict snapshot.changes :=
  ⟨_, rfl, rfl⟩

/-! ## Compatibility -/

/-- Every old argument or input field is still there, with a type that has lost nothing
but marks that rule out null, and if `fixed` is set with the same default.  If `guarded` is
set, only those are required that were there and required before. -/
structure InputsKept (fixed guarded : Bool) (old new : List InputValue) : Prop where
  kept : Kept InputValue.name
    (fun a b => a.type.LoosensTo b.type ∧ (fixed = true → a.defaultValue = b.defaultValue))
    old new
  required : guarded = true → ∀ b ∈ new, b.isRequired = true →
    ∃ a ∈ old, a.name = b.name ∧ a.isRequired = true

/-- A field that has kept its type and its arguments. -/
structure Field.KeptAs (strict : Bool) (old new : Field) : Prop where
  type : old.type = new.type
  args : InputsKept strict strict old.args new.args

/-- A body that is compatible with an old one: of the same class, with all members, names
and freedoms that the old one had.  If `strict` is set, defaults have stayed as they
were and no argument has become required; no input field may ever do so. -/
def Body.CompatibleWith (strict : Bool) : Body → Body → Prop
  | .object oldFields oldInterfaces, .object newFields newInterfaces
  | .interface oldFields oldInterfaces, .interface newFields newInterfaces =>
      Kept Field.name (Field.KeptAs strict) oldFields newFields ∧ oldInterfaces ⊆ newInterfaces
  | .union old, .union new => old ⊆ new
  | .enum old, .enum new => old.map EnumValue.name ⊆ new.map EnumValue.name
  | .input old, .input new => InputsKept strict true old new
  | .scalar _, .scalar _ => True
  | .directive oldLocations oldArgs oldRepeatable,
      .directive newLocations newArgs newRepeatable =>
      oldLocations ⊆ newLocations ∧ InputsKept strict strict oldArgs newArgs ∧
        (oldRepeatable = some true → newRepeatable = some true)
  | _, _ => False

/-- Under every old key the new version has a compatible definition. -/
def TypeMap.Compatible (strict : Bool) (old new : TypeMap) : Prop :=
  ∀ key a, Keyed.get? old key = some a →
    ∃ b, Keyed.get? new key = some b ∧ a.body.CompatibleWith strict b.body

/-! ## Arguments and input fields -/

/-- How the rules on arguments or input fields are graded: losing a value and all changes
of type but loosening always fail, new requirements if `guarded` is set, changes of a
default if `fixed` is set. -/
structure InputRules.Graded (rules : InputRules) (strict fixed guarded : Bool) : Prop where
  removed : rules.removed.fails strict = true
  requiredAdded : rules.requiredAdded.fails strict = guarded
  optionalAdded : rules.optionalAdded.fails strict = false
  retyped : ∀ change, (rules.retyped change).fails strict = false ↔ change = .loosened
  becameRequired : rules.becameRequired.fails strict = guarded
  defaultChanged : rules.defaultChanged.fails strict = fixed
  descriptionChanged : rules.descriptionChanged.fails strict = false

theorem InputRules.argument_graded (strict : Bool) :
    InputRules.argument.Graded strict strict strict := by
  constructor
  case retyped => intro change; cases strict <;> cases change <;> decide
  all_goals cases strict <;> rfl

theorem InputRules.inputField_graded (strict : Bool) :
    InputRules.inputField.Graded strict strict true := by
  constructor
  case retyped => intro change; cases strict <;> cases change <;> decide
  all_goals cases strict <;> rfl

namespace InputRules.Graded

variable {rules : InputRules} {fixed guarded : Bool}

/-- No failure between two values of one name. -/
theorem onPair_iff (h : rules.Graded strict fixed guarded) {old new : InputValue}
    (hold : old.type.Proper) (hnew : new.type.Proper) :
    rules.OnPair (fun rule => rule.fails strict = false) old new ↔
      (old.type.LoosensTo new.type ∧ (fixed = true → old.defaultValue = new.defaultValue)) ∧
        (guarded = true → new.isRequired = true → old.isRequired = true) := by
  have hrequired : old.type.LoosensTo new.type →
      (becomesRequired old new (TypeChange.between old.type new.type) = true ↔
        old.isRequired = false ∧ new.isRequired = true) := by
    intro hloosens
    have hchange : TypeChange.between old.type new.type = none ∨
        TypeChange.between old.type new.type = some .loosened := by
      cases hb : TypeChange.between old.type new.type with
      | none => exact .inl rfl
      | some change =>
        exact .inr (congrArg some ((TypeChange.forall_between_loosened_iff hold hnew).2 hloosens _ hb))
    rcases hchange with hb | hb <;> simp [becomesRequired, hb]
  constructor
  · rintro ⟨hretyped, hbecame, hdefault, -⟩
    have hloosens : old.type.LoosensTo new.type :=
      (TypeChange.forall_between_loosened_iff hold hnew).1 fun change hc =>
        (h.retyped change).1 (hretyped change hc)
    refine ⟨⟨hloosens, fun hfixed => ?_⟩, fun hguarded hn => ?_⟩
    · by_contra hne
      have hf := hdefault hne
      rw [h.defaultChanged, hfixed] at hf
      exact nomatch hf
    · by_contra ho
      have hf := hbecame ((hrequired hloosens).2 ⟨by simpa using ho, hn⟩)
      rw [h.becameRequired, hguarded] at hf
      exact nomatch hf
  · rintro ⟨⟨hloosens, hdefault⟩, hbecame⟩
    refine ⟨fun change hc => ?_, fun hb => ?_, fun hne => ?_, fun _ => h.descriptionChanged⟩
    · exact (h.retyped change).2 ((TypeChange.forall_between_loosened_iff hold hnew).2 hloosens _ hc)
    · obtain ⟨ho, hn⟩ := (hrequired hloosens).1 hb
      rw [h.becameRequired]
      by_contra hguarded
      rw [hbecame (by simpa using hguarded) hn] at ho
      exact nomatch ho
    · rw [h.defaultChanged]
      by_contra hfixed
      exact hne (hdefault (by simpa using hfixed))

theorem added_iff (h : rules.Graded strict fixed guarded) (value : InputValue) :
    (rules.added value).fails strict = false ↔ (guarded = true → value.isRequired = false) := by
  unfold InputRules.added
  cases value.isRequired with
  | true => simp [h.requiredAdded]
  | false => simp [h.optionalAdded]

/-- No failure between two lists of values. -/
theorem onLists_iff (h : rules.Graded strict fixed guarded) {old new : List InputValue}
    (hold : (old.map InputValue.name).Nodup) (hnew : (new.map InputValue.name).Nodup)
    (hop : ∀ value ∈ old, value.type.Proper) (hnp : ∀ value ∈ new, value.type.Proper) :
    rules.OnLists (fun rule _ => rule.fails strict = false) old new ↔
      InputsKept fixed guarded old new := by
  constructor
  · rintro ⟨hremoved, hadded, hshared⟩
    have hpair := fun a ha b hb hname =>
      (h.onPair_iff (hop a ha) (hnp b hb)).1 (hshared a ha b hb hname)
    constructor
    · refine (kept_iff hnew).2 ⟨fun a ha hgone => ?_, fun a ha b hb hname =>
        (hpair a ha b hb hname).1⟩
      exact absurd (hremoved a ha hgone) (by simp [h.removed])
    · intro hguarded b hb hrequired
      by_cases hthere : ∀ a ∈ old, a.name ≠ b.name
      · have hoptional := (h.added_iff b).1 (hadded b hb hthere) hguarded
        exact absurd hrequired (by simp [hoptional])
      · push Not at hthere
        obtain ⟨a, ha, hname⟩ := hthere
        exact ⟨a, ha, hname, (hpair a ha b hb hname).2 hguarded hrequired⟩
  · rintro ⟨hkept, hrequired⟩
    obtain ⟨hgone, hboth⟩ := (kept_iff hnew).1 hkept
    refine ⟨fun a ha hne => absurd hne (hgone a ha), fun b hb hne => ?_,
      fun a ha b hb hname => ?_⟩
    · refine (h.added_iff b).2 fun hguarded => ?_
      by_contra hb'
      obtain ⟨a, ha, hname, -⟩ := hrequired hguarded b hb (by simpa using hb')
      exact hne a ha hname
    · refine (h.onPair_iff (hop a ha) (hnp b hb)).2 ⟨hboth a ha b hb hname, ?_⟩
      intro hguarded hb'
      obtain ⟨c, hc, hcname, hcrequired⟩ := hrequired hguarded b hb hb'
      rwa [eq_of_name_eq hold ha hc (hname.trans hcname.symm)]

end InputRules.Graded

/-! ## Fields, enum values and names -/

theorem TypeChange.fieldRule_fails (change : TypeChange) :
    change.fieldRule.fails strict = true := by
  cases change <;> rfl

/-- Under a harmless rule nothing fails, whatever the setting. -/
theorem Rule.not_fails {rule : Rule} (h : rule.criticality = .harmless) :
    rule.fails strict = false := by
  rw [Rule.fails, h]
  cases strict <;> rfl

theorem TextRules.field_not_fails (change : TextChange) :
    (TextRules.field.of change).fails strict = false := by
  refine Rule.not_fails ?_
  cases change <;> rfl

theorem TextRules.type_not_fails (change : TextChange) :
    (TextRules.type.of change).fails strict = false := by
  refine Rule.not_fails ?_
  cases change <;> rfl

theorem DeprecationRules.field_not_fails (change : TextChange) :
    ∀ rule ∈ DeprecationRules.field.of change, rule.fails strict = false := by
  cases change with
  | added text | removed text =>
    exact List.forall_mem_cons.2 ⟨Rule.not_fails rfl, List.forall_mem_singleton.2
      (Rule.not_fails rfl)⟩
  | changed before after => exact List.forall_mem_singleton.2 (Rule.not_fails rfl)

theorem DeprecationRules.enumValue_not_fails (change : TextChange) :
    ∀ rule ∈ DeprecationRules.enumValue.of change, rule.fails strict = false := by
  cases change with
  | added text | removed text =>
    exact List.forall_mem_cons.2 ⟨Rule.not_fails rfl, List.forall_mem_singleton.2
      (Rule.not_fails rfl)⟩
  | changed before after => exact List.forall_mem_singleton.2 (Rule.not_fails rfl)

/-- No failure between two lists of fields. -/
theorem Field.onLists_not_fails_iff {typeName : Name} {old new : List Field}
    (hold : MembersWellFormed Field.name Field.WellFormed old)
    (hnew : MembersWellFormed Field.name Field.WellFormed new)
    (hop : ∀ field ∈ old, ∀ value ∈ field.args, value.type.Proper)
    (hnp : ∀ field ∈ new, ∀ value ∈ field.args, value.type.Proper) :
    Field.OnLists (fun rule _ => rule.fails strict = false) typeName old new ↔
      Kept Field.name (Field.KeptAs strict) old new := by
  rw [kept_iff hnew.nodup]
  have hargs := fun a ha b hb => (InputRules.argument_graded strict).onLists_iff
    (hold.each a ha).args.nodup (hnew.each b hb).args.nodup (hop a ha) (hnp b hb)
  constructor
  · rintro ⟨hremoved, -, hshared⟩
    refine ⟨fun a ha hgone => (nomatch hremoved a ha hgone), fun a ha b hb hname => ?_⟩
    obtain ⟨hretyped, -, -, hvalues⟩ := hshared a ha b hb hname
    have hnone : TypeChange.between a.type b.type = none := by
      refine Option.eq_none_iff_forall_ne_some.2 fun change hc => ?_
      have hfails := hretyped change hc
      rw [change.fieldRule_fails] at hfails
      exact nomatch hfails
    exact ⟨TypeChange.between_eq_none_iff.1 hnone, (hargs a ha b hb).1 hvalues⟩
  · rintro ⟨hgone, hboth⟩
    refine ⟨fun a ha hne => absurd hne (hgone a ha), fun _ _ _ => ?_,
      fun a ha b hb hname => ?_⟩
    · exact Rule.not_fails rfl
    · obtain ⟨htype, hvalues⟩ := hboth a ha b hb hname
      refine ⟨fun change hc => ?_, fun change _ => TextRules.field_not_fails change,
        fun change _ => DeprecationRules.field_not_fails change, (hargs a ha b hb).2 hvalues⟩
      rw [htype, TypeChange.between_self] at hc
      exact nomatch hc

/-- No failure between two lists of enum values. -/
theorem EnumValue.onLists_not_fails_iff {typeName : Name} {old new : List EnumValue} :
    EnumValue.OnLists (fun rule _ => rule.fails strict = false) typeName old new ↔
      old.map EnumValue.name ⊆ new.map EnumValue.name := by
  constructor
  · rintro ⟨hremoved, -, -⟩ name hname
    obtain ⟨a, ha, rfl⟩ := List.mem_map.1 hname
    by_contra hnot
    exact nomatch hremoved a ha fun b hb hba => hnot (List.mem_map.2 ⟨b, hb, hba⟩)
  · intro hsub
    refine ⟨fun a ha hgone => ?_, fun _ _ _ => ?_, fun a _ b _ _ => ⟨fun _ => ?_, ?_⟩⟩
    · obtain ⟨b, hb, hba⟩ := List.mem_map.1 (hsub (List.mem_map_of_mem ha))
      exact absurd hba (hgone b hb)
    · exact Rule.not_fails rfl
    · exact Rule.not_fails rfl
    · exact fun change _ => DeprecationRules.enumValue_not_fails change

/-! ## Families -/

theorem noneFails_compareFields_iff {typeName : Name} {label : String} {old new : List Field}
    (hold : MembersWellFormed Field.name Field.WellFormed old)
    (hnew : MembersWellFormed Field.name Field.WellFormed new)
    (hop : ∀ field ∈ old, ∀ value ∈ field.args, value.type.Proper)
    (hnp : ∀ field ∈ new, ∀ value ∈ field.args, value.type.Proper) :
    NoneFails strict (compareFields typeName label old new) ↔
      Kept Field.name (Field.KeptAs strict) old new :=
  (forall_mem_compareFields (P := fun rule _ => rule.fails strict = false) hold.nodup
    fun field hf => (hold.each field hf).args.nodup).trans
      (Field.onLists_not_fails_iff hold hnew hop hnp)

theorem noneFails_compareArguments_iff {owner : Owner} {old new : List InputValue}
    (hold : (old.map InputValue.name).Nodup) (hnew : (new.map InputValue.name).Nodup)
    (hop : ∀ value ∈ old, value.type.Proper) (hnp : ∀ value ∈ new, value.type.Proper) :
    NoneFails strict (owner.compareArguments old new) ↔ InputsKept strict strict old new :=
  (Owner.forall_mem_compareArguments (P := fun rule _ => rule.fails strict = false) hold).trans
    ((InputRules.argument_graded strict).onLists_iff hold hnew hop hnp)

theorem noneFails_compareInputFields_iff {typeName : Name} {old new : List InputValue}
    (hold : (old.map InputValue.name).Nodup) (hnew : (new.map InputValue.name).Nodup)
    (hop : ∀ value ∈ old, value.type.Proper) (hnp : ∀ value ∈ new, value.type.Proper) :
    NoneFails strict (compareInputFields typeName old new) ↔ InputsKept strict true old new :=
  (forall_mem_compareInputFields (P := fun rule _ => rule.fails strict = false) hold).trans
    ((InputRules.inputField_graded strict).onLists_iff hold hnew hop hnp)

theorem noneFails_compareEnumValues_iff {typeName : Name} {old new : List EnumValue}
    (hold : (old.map EnumValue.name).Nodup) :
    NoneFails strict (compareEnumValues typeName old new) ↔
      old.map EnumValue.name ⊆ new.map EnumValue.name :=
  (forall_mem_compareEnumValues (P := fun rule _ => rule.fails strict = false) hold).trans
    EnumValue.onLists_not_fails_iff

/-- No failure between two lists of names, if losing a name fails and a new name does
not. -/
theorem noneFails_compareNames_iff {path : Option String} {gone come : Rule}
    {goneText comeText : String → String} {old new : List Name}
    (hgone : gone.fails strict = true) (hcome : come.fails strict = false) :
    NoneFails strict (compareNames path gone come goneText comeText old new) ↔ old ⊆ new := by
  refine forall_mem_compareNames.trans ?_
  constructor
  · rintro ⟨hlost, -⟩ name hname
    by_contra hnot
    exact absurd (hlost name hname hnot) (by simp [hgone])
  · intro hsub
    exact ⟨fun name hname hnot => absurd (hsub hname) hnot, fun _ _ _ => hcome⟩

theorem noneFails_compareInterfaces_iff {typeName : Name} {words : String} {old new : List Name} :
    NoneFails strict (compareInterfaces typeName words old new) ↔ old ⊆ new := by
  unfold compareInterfaces
  exact noneFails_compareNames_iff rfl (Rule.not_fails rfl)

theorem noneFails_compareUnionMembers_iff {typeName : Name} {old new : List Name} :
    NoneFails strict (compareUnionMembers typeName old new) ↔ old ⊆ new := by
  unfold compareUnionMembers
  exact noneFails_compareNames_iff rfl (Rule.not_fails rfl)

theorem noneFails_compareLocations_iff {label : String} {path : Option String}
    {old new : List Name} :
    NoneFails strict (compareLocations label path old new) ↔ old ⊆ new := by
  unfold compareLocations
  exact noneFails_compareNames_iff rfl (Rule.not_fails rfl)

theorem noneFails_compareRepeatable_iff {name : Name} {path : Option String}
    {old new : Option Bool} (hold : old ≠ none) (hnew : new ≠ none) :
    NoneFails strict (compareRepeatable name path old new) ↔
      (old = some true → new = some true) := by
  refine (forall_mem_compareRepeatable (P := fun rule _ => rule.fails strict = false)).trans ?_
  obtain ⟨o, rfl⟩ := Option.ne_none_iff_exists'.1 hold
  obtain ⟨n, rfl⟩ := Option.ne_none_iff_exists'.1 hnew
  cases o <;> cases n <;> cases strict <;> decide

theorem noneFails_compareDescription (old new : Definition) :
    NoneFails strict (old.compareDescription new) :=
  (Definition.forall_mem_compareDescription (P := fun rule _ => rule.fails strict = false)).2
    fun change _ => TextRules.type_not_fails change

theorem noneFails_compareSpecifiedBy (typeName : Name) (old new : Option String) :
    NoneFails strict (compareSpecifiedBy typeName old new) :=
  (forall_mem_compareSpecifiedBy (P := fun rule _ => rule.fails strict = false)).2
    fun _ => Rule.not_fails rfl

theorem noneFails_compareDirectiveDescription (label : String) (path old new : Option String) :
    NoneFails strict (compareDirectiveDescription label path old new) :=
  (forall_mem_compareDirectiveDescription (P := fun rule _ => rule.fails strict = false)).2
    fun _ => Rule.not_fails rfl

/-! ## Definitions and versions -/

theorem Body.CompatibleWith.kind_eq {old new : Body} (h : old.CompatibleWith strict new) :
    old.kind = new.kind := by
  cases old <;> cases new <;> first | rfl | exact h.elim

/-- The type references of the arguments of an object or interface. -/
theorem argument_proper {fields : List Field}
    (h : ∀ ref ∈ fields.flatMap fun field => field.type :: field.args.map InputValue.type,
      ref.Proper) : ∀ field ∈ fields, ∀ value ∈ field.args, value.type.Proper := by
  intro field hf value hv
  refine h _ (List.mem_flatMap.2 ⟨field, hf, List.mem_cons_of_mem _ ?_⟩)
  exact List.mem_map_of_mem hv

/-- No failure between two definitions exactly if they are compatible. -/
theorem Definition.noneFails_compare_iff {old new : Definition} (hold : old.WellFormed)
    (hnew : new.WellFormed) (hop : ∀ ref ∈ old.body.typeRefs, ref.Proper)
    (hnp : ∀ ref ∈ new.body.typeRefs, ref.Proper) :
    NoneFails strict (old.compare new) ↔ old.body.CompatibleWith strict new.body := by
  by_cases hk : old.kind = new.kind
  · obtain ⟨oldName, oldDescription, oldBody⟩ := old
    obtain ⟨newName, newDescription, newBody⟩ := new
    have hob : oldBody.WellFormed := hold.body
    have hnb : newBody.WellFormed := hnew.body
    cases Body.sameClass_of_kind_eq hk with
    | object | interface =>
      simp only [compare, noneFails_append, noneFails_compareDescription, true_and,
        noneFails_compareFields_iff hob.1 hnb.1 (argument_proper hop) (argument_proper hnp),
        noneFails_compareInterfaces_iff, Body.CompatibleWith]
    | union =>
      simp only [compare, noneFails_append, noneFails_compareDescription, true_and,
        noneFails_compareUnionMembers_iff, Body.CompatibleWith]
    | enum =>
      simp only [compare, noneFails_append, noneFails_compareDescription, true_and,
        noneFails_compareEnumValues_iff hob.nodup, Body.CompatibleWith]
    | input =>
      simp only [compare, noneFails_append, noneFails_compareDescription, true_and,
        noneFails_compareInputFields_iff hob.nodup hnb.nodup (List.forall_mem_map.1 hop)
          (List.forall_mem_map.1 hnp), Body.CompatibleWith]
    | scalar =>
      simp only [compare, noneFails_append, noneFails_compareDescription, true_and,
        noneFails_compareSpecifiedBy, Body.CompatibleWith]
    | directive =>
      simp only [compare, noneFails_append, noneFails_compareDirectiveDescription, true_and,
        noneFails_compareArguments_iff hob.2.1.nodup hnb.2.1.nodup (List.forall_mem_map.1 hop)
          (List.forall_mem_map.1 hnp), noneFails_compareLocations_iff,
        noneFails_compareRepeatable_iff hob.2.2 hnb.2.2, Body.CompatibleWith, and_assoc,
        and_left_comm]
  · rw [compare_of_kind_ne hk]
    constructor
    · intro h
      exact nomatch h _ List.mem_cons_self
    · intro h
      exact absurd h.kind_eq hk

variable {old new : TypeMap}

theorem TypeMap.Regular.proper_of_get? {types : TypeMap} (h : types.Regular) {key : Name}
    {definition : Definition} (hd : Keyed.get? types key = some definition) :
    ∀ ref ∈ definition.body.typeRefs, ref.Proper :=
  h.proper _ ((Keyed.get?_eq_some_iff h.nodup).1 hd)

theorem definitionRemoved_fails (kind : Kind) (name : Name) :
    (definitionRemoved kind name).rule.fails strict = true := by
  cases kind <;> rfl

theorem definitionAdded_not_fails (kind : Kind) (name : Name) :
    (definitionAdded kind name).rule.fails strict = false := by
  cases kind <;> exact Rule.not_fails rfl

/-- No failure between two versions exactly if they are compatible. -/
theorem noneFails_detections_iff (hold : old.Regular) (hnew : new.Regular) :
    NoneFails strict (Snapshot.ofTypeMaps old new).detections ↔ old.Compatible strict new := by
  have hpair : ∀ key a b, Keyed.get? old key = some a → Keyed.get? new key = some b →
      (NoneFails strict (a.compare b) ↔ a.body.CompatibleWith strict b.body) :=
    fun key a b ha hb => Definition.noneFails_compare_iff
      (hold.toWellFormed.of_get? ha).1 (hnew.toWellFormed.of_get? hb).1
      (hold.proper_of_get? ha) (hnew.proper_of_get? hb)
  refine (forall_mem_detections (Q := fun d => d.rule.fails strict = false)
    hold.toWellFormed hnew.toWellFormed).trans ?_
  constructor
  · rintro ⟨hgone, -, hboth⟩ key a ha
    cases hb : Keyed.get? new key with
    | none =>
      have hfails := hgone key a ha hb
      rw [definitionRemoved_fails] at hfails
      exact nomatch hfails
    | some b => exact ⟨b, rfl, (hpair key a b ha hb).1 (hboth key a b ha hb)⟩
  · intro h
    refine ⟨fun key a ha hnone => ?_, fun key b _ _ => definitionAdded_not_fails _ _,
      fun key a b ha hb => ?_⟩
    · obtain ⟨b, hb, -⟩ := h key a ha
      rw [hnone] at hb
      exact nomatch hb
    · obtain ⟨c, hc, hcompatible⟩ := h key a ha
      rw [hb] at hc
      obtain rfl := Option.some.inj hc
      exact (hpair key a b ha hb).2 hcompatible

/-- **Success is compatibility.**  Where no interceptor is asked and dangerous changes may
pass, the comparison of two versions comes to a result, and succeeds exactly if the new
version is compatible with the old one. -/
theorem diff_success_iff_compatible (hold : old.Regular) (hnew : new.Regular)
    (seconds : Double) (sources : Sources) (label : Datum) :
    ∃ comparison,
      Policy.diff ⟨false, none, seconds⟩ sources (Snapshot.ofTypeMaps old new) label
        = some comparison ∧
      (comparison.result.conclusion = .success ↔ old.Compatible false new) := by
  obtain ⟨comparison, hdiff, hconclusion⟩ := Policy.diff_of_no_interceptor false seconds sources
    (Snapshot.ofTypeMaps old new) label
  refine ⟨comparison, hdiff, ?_⟩
  rw [hconclusion, conclude_changes_eq_success_iff]
  exact noneFails_detections_iff hold hnew

/-- A small schema: a field with an argument, an input type and a directive. -/
def orders : TypeMap := .ofDefinitions
  [⟨some "Query", none, .object
      [⟨some "orders", .list (.named "Order"),
        [⟨some "first", .nonNull (.named "Int"), some "10", none⟩], none, none⟩]
      [some "Node"]⟩,
    ⟨some "Filter", none, .input [⟨some "state", .nonNull (.named "State"), none, none⟩]⟩,
    ⟨some "cached", none, .directive [some "FIELD"] [] (some false)⟩]

/-- The next version of it: types are loosened, a default is another, and an argument that
must be given is new. -/
def ordersNext : TypeMap := .ofDefinitions
  [⟨some "Filter", none, .input [⟨some "state", .named "State", none, none⟩]⟩,
    ⟨some "Query", none, .object
      [⟨some "orders", .list (.named "Order"),
        [⟨some "after", .nonNull (.named "ID"), none, none⟩,
          ⟨some "first", .named "Int", some "20", none⟩], none, none⟩]
      [some "Root", some "Node"]⟩,
    ⟨some "cached", none, .directive [some "QUERY", some "FIELD"] [] (some true)⟩]

theorem orders_compatible_next :
    orders.Regular ∧ ordersNext.Regular ∧ orders.Compatible false ordersNext := by
  have hold : orders.Regular := by decide
  have hnew : ordersNext.Regular := by decide
  refine ⟨hold, hnew, ?_⟩
  obtain ⟨comparison, hdiff, hiff⟩ :=
    diff_success_iff_compatible hold hnew (.ofInt 10) ⟨none, none⟩ .nothing
  refine hiff.1 ?_
  have hconclusion : (Policy.diff ⟨false, none, .ofInt 10⟩ ⟨none, none⟩
      (Snapshot.ofTypeMaps orders ordersNext) .nothing).map (·.result.conclusion)
        = some .success := by decide
  rw [hdiff] at hconclusion
  exact Option.some.inj hconclusion

end SchemaDrift
