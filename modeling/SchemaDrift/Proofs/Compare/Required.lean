import SchemaDrift.Change.Criticality
import SchemaDrift.Proofs.Compare.Families
import SchemaDrift.Proofs.Compare.Justification
import SchemaDrift.Proofs.Schema.Loosening

/-!
# Values that become required

An argument or input field that may be left out in the old version and has to be given in the
new one is reported as such exactly once: by the change of its type, where that breaks
requests, and by a rule of its own otherwise.

* `InputRules.demanding` — the rules that tell that a value has to be given.
* `InputRules.TellsRequired` — what is reported of two values tells it exactly once.
* `InputRules.tellsRequired_report` — it does, whichever the rules, if they are told apart.
* `becoming_required_told_once` — so it does for arguments and for input fields, at the
  levels of the built-in table, and between whole versions for no other values.
-/

namespace SchemaDrift

/-- The value may be left out in the old version and has to be given in the new one. -/
def InputValue.BecomesRequired (old new : InputValue) : Prop :=
  old.isRequired = false ∧ new.isRequired = true

namespace InputRules

/-- The rules that tell that a value has to be given: the changes of its type that break
requests, and that it became required without one of them. -/
def demanding (rules : InputRules) : List Rule :=
  [rules.retyped .tightened, rules.retyped .listWrapping, rules.retyped .retyped,
    rules.becameRequired]

/-- What is reported of two values tells exactly once that the value became required, and
leaves it to the change of the type where that is more than a loosening. -/
structure TellsRequired (rules : InputRules) (old new : InputValue) (reports : List Detection) :
    Prop where
  once : old.BecomesRequired new → reports.countP (·.rule ∈ rules.demanding) = 1
  becameRequired : (∃ d ∈ reports, d.rule = rules.becameRequired) ↔
    old.BecomesRequired new ∧ old.type.LoosensTo new.type

/-- The rules are not mistaken for those that tell that a value has to be given. -/
structure Apart (rules : InputRules) : Prop where
  loosened : rules.retyped .loosened ∉ rules.demanding
  defaultChanged : rules.defaultChanged ∉ rules.demanding
  descriptionChanged : rules.descriptionChanged ∉ rules.demanding
  retyped : ∀ change, rules.retyped change ≠ rules.becameRequired

theorem argument_apart : argument.Apart where
  loosened := by decide
  defaultChanged := by decide
  descriptionChanged := by decide
  retyped change := by cases change <;> decide

theorem inputField_apart : inputField.Apart where
  loosened := by decide
  defaultChanged := by decide
  descriptionChanged := by decide
  retyped change := by cases change <;> decide

variable {rules : InputRules} {old new : InputValue}

/-- The change of a type tells that the value has to be given, unless it loosens the type. -/
theorem retyped_mem_demanding {change : TypeChange} (h : change ≠ .loosened) :
    rules.retyped change ∈ rules.demanding := by
  cases change with
  | loosened => exact absurd rfl h
  | tightened | listWrapping | retyped => simp [demanding]

theorem becameRequired_mem_demanding : rules.becameRequired ∈ rules.demanding := by
  simp [demanding]

theorem countP_textChange {rule : Rule} (h : rule ∉ rules.demanding) {old new : Option String}
    {report : TextChange → Detection} (hrule : ∀ change, (report change).rule = rule) :
    ((textChange old new).toList.map report).countP (·.rule ∈ rules.demanding) = 0 := by
  refine List.countP_eq_zero.2 fun d hd => ?_
  obtain ⟨change, -, rfl⟩ := List.mem_map.1 hd
  rwa [hrule, decide_eq_true_eq]

/-- The rule of its own stands in where the type changes not at all or is loosened. -/
theorem becomesRequired_iff (hold : old.type.Proper) (hnew : new.type.Proper) :
    becomesRequired old new (TypeChange.between old.type new.type) = true ↔
      old.BecomesRequired new ∧ old.type.LoosensTo new.type := by
  rw [← TypeChange.forall_between_loosened_iff hold hnew]
  cases TypeChange.between old.type new.type <;>
    simp [becomesRequired, InputValue.BecomesRequired]

theorem forall_mem_report {retyped : TypeChange → Detection} {required : Detection}
    {default description : TextChange → Detection} {p : Detection → Prop} :
    (∀ d ∈ old.report new retyped required default description, p d) ↔
      (∀ change, TypeChange.between old.type new.type = some change → p (retyped change)) ∧
      (becomesRequired old new (TypeChange.between old.type new.type) = true → p required) ∧
      (∀ change, textChange old.defaultValue new.defaultValue = some change →
        p (default change)) ∧
      ∀ change, textChange old.description new.description = some change →
        p (description change) := by
  simp only [InputValue.report, List.forall_mem_append, forall_mem_toList_map, forall_mem_ite,
    and_assoc]

/-- Whatever the texts of the reports are, the rules tell exactly once that a value became
required. -/
theorem tellsRequired_report (hrules : rules.Apart) (hold : old.type.Proper)
    (hnew : new.type.Proper) {retyped : TypeChange → Detection} {required : Detection}
    {default description : TextChange → Detection}
    (hretyped : ∀ change, (retyped change).rule = rules.retyped change)
    (hrequired : required.rule = rules.becameRequired)
    (hdefault : ∀ change, (default change).rule = rules.defaultChanged)
    (hdescription : ∀ change, (description change).rule = rules.descriptionChanged) :
    rules.TellsRequired old new (old.report new retyped required default description) where
  once := by
    rintro ⟨hleft, hgiven⟩
    unfold InputValue.report
    simp only [List.countP_append, countP_textChange hrules.defaultChanged hdefault,
      countP_textChange hrules.descriptionChanged hdescription, Nat.add_zero]
    -- either the type tells it, or the rule of its own does
    cases TypeChange.between old.type new.type with
    | none => simp [becomesRequired, hleft, hgiven, hrequired, becameRequired_mem_demanding]
    | some change =>
      by_cases hchange : change = .loosened
      · subst hchange
        simp [becomesRequired, hleft, hgiven, hretyped, hrules.loosened, hrequired,
          becameRequired_mem_demanding]
      · simp [becomesRequired, hretyped, retyped_mem_demanding hchange, hchange]
  becameRequired := by
    rw [← becomesRequired_iff hold hnew]
    have hother {rule : Rule} (h : rule ∉ rules.demanding) : rule ≠ rules.becameRequired :=
      fun he => h (he ▸ becameRequired_mem_demanding)
    constructor
    · rintro ⟨d, hd, hrule⟩
      by_contra hbecomes
      refine forall_mem_report (p := fun d => d.rule ≠ rules.becameRequired) |>.2
        ⟨fun change _ => ?_, fun h => absurd h hbecomes, fun change _ => ?_, fun change _ => ?_⟩
        d hd hrule
      · exact hretyped change ▸ hrules.retyped change
      · exact hdefault change ▸ hother hrules.defaultChanged
      · exact hdescription change ▸ hother hrules.descriptionChanged
    · intro hbecomes
      exact ⟨required, by simp [InputValue.report, hbecomes], hrequired⟩

end InputRules

variable {old new : InputValue}

theorem Owner.tellsRequired_compareArgument (owner : Owner) (hold : old.type.Proper)
    (hnew : new.type.Proper) :
    InputRules.argument.TellsRequired old new (owner.compareArgument old new) :=
  InputRules.tellsRequired_report InputRules.argument_apart hold hnew (fun _ => rfl) rfl
    (fun _ => rfl) fun _ => rfl

theorem tellsRequired_compareInputField (typeName : Name) (hold : old.type.Proper)
    (hnew : new.type.Proper) :
    InputRules.inputField.TellsRequired old new (compareInputField typeName old new) :=
  InputRules.tellsRequired_report InputRules.inputField_apart hold hnew (fun _ => rfl) rfl
    (fun _ => rfl) fun _ => rfl

/-! ## Between whole versions -/

/-- A value of which it is reported that it became required did so, and stands at the place of
the report in both versions. -/
theorem forall_mem_detections_required {old new : TypeMap} (hold : old.WellFormed)
    (hnew : new.WellFormed) : ∀ d ∈ (Snapshot.ofTypeMaps old new).detections,
      (d.rule = .argumentRequiredAdded → ∃ place, NamesPlace d.path place ∧
        Both .argument InputValue.BecomesRequired (old.element? place) (new.element? place)) ∧
      (d.rule = .inputFieldRequiredAdded → ∃ place, NamesPlace d.path place ∧
        Both .inputField InputValue.BecomesRequired (old.element? place)
          (new.element? place)) := by
  refine (forall_mem_detections hold hnew).2 ⟨?_, ?_, ?_⟩
  · intro _ a _ _
    unfold definitionRemoved
    split <;> exact ⟨nofun, nofun⟩
  · intro _ b _ _
    unfold definitionAdded
    split <;> exact ⟨nofun, nofun⟩
  · intro key a b ha hb d hd
    obtain ⟨hwa, hka⟩ := hold.of_get? ha
    obtain ⟨hwb, rfl⟩ := hnew.of_get? hb
    obtain ⟨place, hplace, hholds, -⟩ :=
      Paired.justified_compare ⟨hka, ha, hb, hwa, hwb⟩ d hd
    constructor <;> (intro hrule; rw [hrule] at hholds; exact ⟨place, hplace, hholds⟩)

/-- **Becoming required is never silent and never told twice.**  If an argument, of a field or
of a directive, or an input field becomes required, exactly one report says so: that its type
was tightened, stands in another number of lists or is another one, or that it became required.
All of these break requests, other than for an argument that became required, which is
dangerous.  That a value became required is reported for no others, neither of two values nor
between whole versions. -/
theorem becoming_required_told_once {old new : InputValue} (hold : old.type.Proper)
    (hnew : new.type.Proper) :
    (∀ owner : Owner,
      InputRules.argument.TellsRequired old new (owner.compareArgument old new)) ∧
    (∀ typeName : Name,
      InputRules.inputField.TellsRequired old new (compareInputField typeName old new)) ∧
    (∀ rule ∈ InputRules.argument.demanding, rule.criticality.level =
      if rule = .argumentRequiredAdded then .dangerous else .breaking) ∧
    (∀ rule ∈ InputRules.inputField.demanding, rule.criticality.level = .breaking) ∧
    ∀ before after : TypeMap, before.WellFormed → after.WellFormed →
      ∀ d ∈ (Snapshot.ofTypeMaps before after).detections,
        (d.rule = .argumentRequiredAdded → ∃ place, NamesPlace d.path place ∧
          Both .argument InputValue.BecomesRequired (before.element? place)
            (after.element? place)) ∧
        (d.rule = .inputFieldRequiredAdded → ∃ place, NamesPlace d.path place ∧
          Both .inputField InputValue.BecomesRequired (before.element? place)
            (after.element? place)) :=
  ⟨fun owner => owner.tellsRequired_compareArgument hold hnew,
    fun typeName => tellsRequired_compareInputField typeName hold hnew, by decide, by decide,
    fun _ _ => forall_mem_detections_required⟩

/-- A directive and an input object, each with a value that has a default. -/
def paging : TypeMap := .ofDefinitions
  [⟨some "page", none, .directive [some "FIELD"]
      [⟨some "sizes", .nonNull (.list (.nonNull (.named "Int"))), some "[1]", none⟩] (some false)⟩,
    ⟨some "Page", none, .input [⟨some "size", .nonNull (.named "Int"), some "1", none⟩]⟩]

/-- Another version of them, without the defaults; the items of the list may be null. -/
def pagingRevised : TypeMap := .ofDefinitions
  [⟨some "page", none, .directive [some "FIELD"]
      [⟨some "sizes", .nonNull (.list (.named "Int")), none, none⟩] (some false)⟩,
    ⟨some "Page", none, .input [⟨some "size", .nonNull (.named "Int"), none, none⟩]⟩]

theorem paging_told_once :
    (Owner.compareArgument ⟨"directive '@page'", "@page"⟩
        ⟨some "sizes", .nonNull (.list (.nonNull (.named "Int"))), some "[1]", none⟩
        ⟨some "sizes", .nonNull (.list (.named "Int")), none, none⟩).countP
      (·.rule ∈ InputRules.argument.demanding) = 1 ∧
    (Snapshot.ofTypeMaps paging pagingRevised).detections.map (fun d => (d.rule, d.path)) =
      [(.argumentNullabilityLoosened, some "@page.sizes"),
        (.argumentRequiredAdded, some "@page.sizes"),
        (.argumentDefaultChanged, some "@page.sizes"),
        (.inputFieldRequiredAdded, some "Page.size"),
        (.inputFieldDefaultChanged, some "Page.size")] ∧
    ∀ d ∈ (Snapshot.ofTypeMaps paging pagingRevised).detections,
      d.rule = .inputFieldRequiredAdded → ∃ place, NamesPlace d.path place ∧
        Both .inputField InputValue.BecomesRequired (paging.element? place)
          (pagingRevised.element? place) := by
  obtain ⟨hargument, -, -, -, hmaps⟩ := @becoming_required_told_once
    ⟨some "sizes", .nonNull (.list (.nonNull (.named "Int"))), some "[1]", none⟩
    ⟨some "sizes", .nonNull (.list (.named "Int")), none, none⟩
    (by simp [TypeRef.Proper, TypeRef.isNonNull]) (by simp [TypeRef.Proper, TypeRef.isNonNull])
  have hold : paging.WellFormed := by decide
  have hnew : pagingRevised.WellFormed := by decide
  exact ⟨(hargument _).once ⟨rfl, rfl⟩, by decide, fun d hd => (hmaps _ _ hold hnew d hd).2⟩

end SchemaDrift
