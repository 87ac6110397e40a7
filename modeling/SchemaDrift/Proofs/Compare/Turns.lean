import SchemaDrift.Proofs.Compare.Families
import SchemaDrift.Proofs.Compare.Pairings

/-!
# Rules in turn

What is reported of a definition repeats nothing, because the rules on one element take turns
and the reports on several elements tell them apart.

* `nodup_filter_report` — reports on members that tell their members apart.
* `Rule.turn` — when a rule has its turn among those on one definition.
* `Unrepeated` — reports under rules of some turns that repeat nothing, with
  `Unrepeated.append` for those of later turns after them.
* `unrepeated_report` — the same for lists of members.
* `InputRules.InTurn`, `DeprecationRules.unrepeated_compare` — two members of one name.
-/

namespace SchemaDrift

/-! ## Members apart -/

section Members

variable {α : Type} {name : α → Name}

theorem nodup_map_of {of : Detection → Name} {members : List α} {report : α → Detection}
    (h : (members.map name).Nodup) (hof : ∀ a ∈ members, of (report a) = name a) :
    (members.map report).Nodup := by
  refine .of_map of ?_
  rw [List.map_map]
  exact List.map_congr_left hof ▸ h

variable {old new : List α} {gone come : α → Detection} {both : α × α → List Detection}
  {select : Detection → Bool}

/-- Of what is reported of the pairs nothing that is selected is repeated, if the member can be
told from each report and this is so of each pair. -/
theorem nodup_filter_flatMap_shared {of : Detection → Name} (hold : (old.map name).Nodup)
    (hnew : (new.map name).Nodup)
    (hof : ∀ a ∈ old, ∀ b ∈ new, name a = name b → ∀ d ∈ both (a, b), of d = name b)
    (hboth : ∀ a ∈ old, ∀ b ∈ new, name a = name b → ((both (a, b)).filter select).Nodup) :
    (((pairByName name old new).shared.flatMap both).filter select).Nodup := by
  have hpair {pair : α × α} (hp : pair ∈ (pairByName name old new).shared) :=
    (mem_shared_iff hold).1 hp
  have hnames : ((pairByName name old new).shared.map fun pair => name pair.2).Nodup := by
    rw [show (fun pair : α × α => name pair.2) = name ∘ Prod.snd from rfl, ← List.map_map,
      map_snd_shared]
    exact hnew.sublist (List.filter_sublist.map name)
  rw [List.filter_flatMap]
  refine List.nodup_flatMap.2 ⟨fun pair hp => ?_, ?_⟩
  · obtain ⟨ha, hb, hname⟩ := hpair hp
    exact hboth _ ha _ hb hname
  · refine (List.pairwise_map.1 hnames).imp_of_mem fun hp hq hne d hdp hdq => hne ?_
    obtain ⟨ha, hb, hname⟩ := hpair hp
    obtain ⟨ha', hb', hname'⟩ := hpair hq
    rw [← hof _ ha _ hb hname d (List.mem_filter.1 hdp).1,
      hof _ ha' _ hb' hname' d (List.mem_filter.1 hdq).1]

/-- What is reported of two lists of members repeats nothing that is selected, if the member
can be told from each report and this is so of each pair. -/
theorem nodup_filter_report (of : Detection → Name) (hold : (old.map name).Nodup)
    (hnew : (new.map name).Nodup)
    (hgone : ∀ a ∈ old, of (gone a) = name a) (hcome : ∀ b ∈ new, of (come b) = name b)
    (hof : ∀ a ∈ old, ∀ b ∈ new, name a = name b → ∀ d ∈ both (a, b), of d = name b)
    (hboth : ∀ a ∈ old, ∀ b ∈ new, name a = name b → ((both (a, b)).filter select).Nodup) :
    (((pairByName name old new).report gone come both).filter select).Nodup := by
  have hremoved : ((pairByName name old new).removed.map gone).Nodup :=
    nodup_map_of (hold.sublist (List.filter_sublist.map name))
      fun a ha => hgone a (mem_removed.1 ha).1
  have hadded : ((pairByName name old new).added.map come).Nodup :=
    nodup_map_of (hnew.sublist (List.filter_sublist.map name))
      fun b hb => hcome b (mem_added.1 hb).1
  have hshared := nodup_filter_flatMap_shared hold hnew hof hboth
  -- each report tells whether its member is on one side only, and on which
  have hleft : ∀ d ∈ (pairByName name old new).removed.map gone, ∀ b ∈ new, name b ≠ of d := by
    refine List.forall_mem_map.2 fun a ha => ?_
    rw [hgone a (mem_removed.1 ha).1]
    exact hasNamed_eq_false_iff.1 (mem_removed.1 ha).2
  have hright : ∀ d ∈ (pairByName name old new).added.map come,
      (∃ b ∈ new, name b = of d) ∧ ∀ a ∈ old, name a ≠ of d := by
    refine List.forall_mem_map.2 fun b hb => ?_
    obtain ⟨hmem, hnot⟩ := mem_added.1 hb
    rw [hcome b hmem]
    exact ⟨⟨b, hmem, rfl⟩, hasNamed_eq_false_iff.1 hnot⟩
  have hpair : ∀ d ∈ (pairByName name old new).shared.flatMap both,
      (∃ b ∈ new, name b = of d) ∧ ∃ a ∈ old, name a = of d := by
    refine List.forall_mem_flatMap.2 fun pair hp d hd => ?_
    obtain ⟨ha, hb, hname⟩ := (mem_shared_iff hold).1 hp
    rw [hof _ ha _ hb hname d hd]
    exact ⟨⟨_, hb, rfl⟩, ⟨_, ha, hname⟩⟩
  rw [Pairing.report, List.filter_append, List.filter_append]
  refine List.nodup_append'.2 ⟨List.nodup_append'.2 ⟨hremoved.filter _, hadded.filter _, ?_⟩,
    hshared, ?_⟩
  · intro d hd hd'
    obtain ⟨⟨b, hb, hname⟩, -⟩ := hright d (List.mem_filter.1 hd').1
    exact hleft d (List.mem_filter.1 hd).1 b hb hname
  · intro d hd hd'
    obtain ⟨⟨b, hb, hnameb⟩, a, ha, hnamea⟩ := hpair d (List.mem_filter.1 hd').1
    rcases List.mem_append.1 hd with hd | hd
    · exact hleft d (List.mem_filter.1 hd).1 b hb hnameb
    · exact (hright d (List.mem_filter.1 hd).1).2 a ha hnamea

end Members

/-! ## Rules in turn -/

/-- When a rule has its turn among those on one definition: first its description; then its
members, of each the type, then whether it becomes required, its default, its description, its
deprecation and the same of its arguments; then the names it lists and its attributes. -/
def Rule.turn : Rule → Nat
  | .typeDescriptionAdded | .typeDescriptionRemoved | .typeDescriptionChanged
  | .directiveDescriptionChanged => 0
  | .fieldAdded | .fieldRemoved | .fieldTypeChanged | .fieldNullabilityTightened
  | .fieldNullabilityLoosened | .fieldListWrappingChanged | .inputFieldRemoved
  | .requiredInputFieldAdded | .optionalInputFieldAdded | .inputFieldTypeChanged
  | .inputFieldNullabilityTightened | .inputFieldNullabilityLoosened
  | .inputFieldListWrappingChanged => 1
  | .inputFieldRequiredAdded => 2
  | .inputFieldDefaultChanged => 3
  | .fieldDescriptionAdded | .fieldDescriptionRemoved | .fieldDescriptionChanged
  | .inputFieldDescriptionChanged | .enumValueAdded | .enumValueRemoved
  | .enumValueDescriptionChanged => 4
  | .fieldDeprecationAdded | .fieldDeprecationRemoved | .enumValueDeprecationAdded
  | .enumValueDeprecationRemoved => 5
  | .fieldDeprecationReasonAdded | .fieldDeprecationReasonRemoved
  | .fieldDeprecationReasonChanged | .enumValueDeprecationReasonAdded
  | .enumValueDeprecationReasonRemoved | .enumValueDeprecationReasonChanged => 6
  | .argumentRemoved | .requiredArgumentAdded | .optionalArgumentAdded | .argumentTypeChanged
  | .argumentNullabilityTightened | .argumentNullabilityLoosened
  | .argumentListWrappingChanged => 7
  | .argumentRequiredAdded => 8
  | .argumentDefaultChanged => 9
  | .argumentDescriptionChanged => 10
  | .interfaceImplementationAdded | .interfaceImplementationRemoved | .unionMemberAdded
  | .unionMemberRemoved | .directiveLocationAdded | .directiveLocationRemoved => 11
  | .scalarSpecifiedByChanged => 12
  | .directiveRepeatableAdded | .directiveRepeatableRemoved => 13
  | .typeAdded | .typeRemoved | .typeKindChanged | .directiveAdded | .directiveRemoved => 14

/-- Reports under rules that have their turn from the first of two bounds and before the other,
none of which is repeated if it is selected. -/
structure Unrepeated (select : Detection → Bool) (first last : Nat) (reports : List Detection) :
    Prop where
  turn : ∀ d ∈ reports, first ≤ d.rule.turn ∧ d.rule.turn < last
  nodup : (reports.filter select).Nodup

section Turns

variable {select : Detection → Bool} {first last : Nat} {l m : List Detection}

theorem unrepeated_nil : Unrepeated select first last [] := ⟨List.forall_mem_nil _, .nil⟩

theorem Unrepeated.mono {first' last' : Nat} (h : Unrepeated select first' last' l)
    (hturns : first ≤ first' ∧ last' ≤ last) : Unrepeated select first last l where
  turn d hd := by
    have hl := h.turn d hd
    omega
  nodup := h.nodup

/-- Reports under rules of different turns differ. -/
theorem Unrepeated.append {middle next : Nat} (h : Unrepeated select first middle l)
    (h' : Unrepeated select next last m)
    (hturns : first ≤ middle ∧ middle ≤ next ∧ next ≤ last) :
    Unrepeated select first last (l ++ m) where
  turn := by
    refine List.forall_mem_append.2 ⟨fun d hd => ?_, fun d hd => ?_⟩
    · have hl := h.turn d hd
      omega
    · have hm := h'.turn d hd
      omega
  nodup := by
    rw [List.filter_append]
    refine List.nodup_append'.2 ⟨h.nodup, h'.nodup, fun d hd hd' => ?_⟩
    have hl := h.turn d (List.mem_filter.1 hd).1
    have hm := h'.turn d (List.mem_filter.1 hd').1
    omega

theorem unrepeated_singleton {d : Detection} (h : d.rule.turn = first) :
    Unrepeated select first (first + 1) [d] where
  turn := List.forall_mem_singleton.2 ⟨h.ge, by omega⟩
  nodup := (List.nodup_singleton d).filter _

theorem unrepeated_change {α : Type} (change : Option α) {report : α → Detection}
    (h : ∀ a, (report a).rule.turn = first) :
    Unrepeated select first (first + 1) (change.toList.map report) := by
  cases change with
  | none => exact unrepeated_nil
  | some a => exact unrepeated_singleton (h a)

theorem unrepeated_ite {c : Prop} [Decidable c] {d : Detection} (h : d.rule.turn = first) :
    Unrepeated select first (first + 1) (if c then [d] else []) := by
  split
  · exact unrepeated_singleton h
  · exact unrepeated_nil

theorem unrepeated_report {α : Type} {name : α → Name} {old new : List α}
    {gone come : α → Detection} {both : α × α → List Detection} (of : Detection → Name)
    (hlast : first < last) (hold : (old.map name).Nodup) (hnew : (new.map name).Nodup)
    (hgone : ∀ a ∈ old, of (gone a) = name a ∧ (gone a).rule.turn = first)
    (hcome : ∀ b ∈ new, of (come b) = name b ∧ (come b).rule.turn = first)
    (hboth : ∀ a ∈ old, ∀ b ∈ new, name a = name b →
      (∀ d ∈ both (a, b), of d = name b) ∧ Unrepeated select first last (both (a, b))) :
    Unrepeated select first last ((pairByName name old new).report gone come both) where
  turn := by
    refine (forall_mem_members hold).2 ⟨fun a ha _ => ?_, fun b hb _ => ?_,
      fun a ha b hb hname => (hboth a ha b hb hname).2.turn⟩
    · have hturn := (hgone a ha).2
      omega
    · have hturn := (hcome b hb).2
      omega
  nodup := nodup_filter_report of hold hnew (fun a ha => (hgone a ha).1)
    (fun b hb => (hcome b hb).1) (fun a ha b hb hname => (hboth a ha b hb hname).1)
    fun a ha b hb hname => (hboth a ha b hb hname).2.nodup

/-! ## Two members of one name -/

/-- The rules have their turns one after the other. -/
structure InputRules.InTurn (rules : InputRules) (first : Nat) : Prop where
  removed : rules.removed.turn = first
  added : ∀ value, (rules.added value).turn = first
  retyped : ∀ change, (rules.retyped change).turn = first
  becameRequired : rules.becameRequired.turn = first + 1
  defaultChanged : rules.defaultChanged.turn = first + 2
  descriptionChanged : rules.descriptionChanged.turn = first + 3

theorem InputRules.argument_inTurn : InputRules.argument.InTurn 7 where
  removed := rfl
  added value := by unfold InputRules.added; split <;> rfl
  retyped change := by cases change <;> rfl
  becameRequired := rfl
  defaultChanged := rfl
  descriptionChanged := rfl

theorem InputRules.inputField_inTurn : InputRules.inputField.InTurn 1 where
  removed := rfl
  added value := by unfold InputRules.added; split <;> rfl
  retyped change := by cases change <;> rfl
  becameRequired := rfl
  defaultChanged := rfl
  descriptionChanged := rfl

theorem InputRules.InTurn.unrepeated_report {rules : InputRules} (hrules : rules.InTurn first)
    {old new : InputValue} {retyped : TypeChange → Detection} {required : Detection}
    {default description : TextChange → Detection}
    (hretyped : ∀ change, (retyped change).rule = rules.retyped change)
    (hrequired : required.rule = rules.becameRequired)
    (hdefault : ∀ change, (default change).rule = rules.defaultChanged)
    (hdescription : ∀ change, (description change).rule = rules.descriptionChanged) :
    Unrepeated select first (first + 4)
      (old.report new retyped required default description) := by
  have htype : Unrepeated select first (first + 1)
      ((TypeChange.between old.type new.type).toList.map retyped) :=
    unrepeated_change _ fun change => by rw [hretyped, hrules.retyped]
  have hrequires : Unrepeated select (first + 1) (first + 2)
      (if becomesRequired old new (TypeChange.between old.type new.type) then [required] else []) :=
    unrepeated_ite (by rw [hrequired, hrules.becameRequired])
  have hvalue : Unrepeated select (first + 2) (first + 3)
      ((textChange old.defaultValue new.defaultValue).toList.map default) :=
    unrepeated_change _ fun change => by rw [hdefault, hrules.defaultChanged]
  have htext : Unrepeated select (first + 3) (first + 4)
      ((textChange old.description new.description).toList.map description) :=
    unrepeated_change _ fun change => by rw [hdescription, hrules.descriptionChanged]
  exact ((htype.append hrequires (by omega)).append hvalue (by omega)).append htext (by omega)

theorem Owner.unrepeated_compareArgument (owner : Owner) (old new : InputValue) :
    Unrepeated select 7 11 (owner.compareArgument old new) :=
  InputRules.argument_inTurn.unrepeated_report (fun _ => rfl) rfl (fun _ => rfl) fun _ => rfl

theorem unrepeated_compareInputField (typeName : Name) (old new : InputValue) :
    Unrepeated select 1 5 (compareInputField typeName old new) :=
  InputRules.inputField_inTurn.unrepeated_report (fun _ => rfl) rfl (fun _ => rfl) fun _ => rfl

theorem DeprecationRules.unrepeated_compare {rules : DeprecationRules}
    (hflag : rules.flagAdded.turn = 5 ∧ rules.flagRemoved.turn = 5)
    (hreason : rules.reasonAdded.turn = 6 ∧ rules.reasonRemoved.turn = 6 ∧
      rules.reasonChanged.turn = 6) (path : String) (old new : Option String) :
    Unrepeated select 5 7 (rules.compare path old new) := by
  unfold DeprecationRules.compare
  cases textChange old new with
  | none => exact unrepeated_nil
  | some change =>
    cases change with
    | added reason =>
      exact (unrepeated_singleton hflag.1).append (unrepeated_singleton hreason.1) (by decide)
    | removed reason =>
      exact (unrepeated_singleton hflag.2).append (unrepeated_singleton hreason.2.1) (by decide)
    | changed before after =>
      exact (unrepeated_singleton hreason.2.2).mono (by decide)

end Turns

end SchemaDrift
