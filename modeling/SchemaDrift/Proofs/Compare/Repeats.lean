import SchemaDrift.Proofs.Compare.Justification
import SchemaDrift.Proofs.Compare.Turns
import SchemaDrift.Proofs.Schema.Loaded

/-!
# Changes are reported once

Between well-formed versions no change is reported twice, unless a list of names has one of them
twice.

* `partNamed` — the key, the member or the argument that the path of a report names.
* `unrepeated_compareFields` and its companions — what is reported of lists of members.
* `Definition.nodup_compareListed_iff` — the lists of names of two definitions.
* `Definition.nodup_filter_compare_iff` — nothing else is repeated for two definitions.
* `nodup_filter_detections_iff` — nor is it between two versions.
* `reported_once_but_listed_names` — what is reported once, and when all is.
* `changes_reported_once` — the same of versions that are loaded from texts.
-/

namespace SchemaDrift

/-! ## Names in paths -/

namespace ChangePath

/-- The key of the definition at a place, or to which the place belongs. -/
def key : ChangePath → Name
  | .directive name _ => some ("@" ++ String.ofList name)
  | .type name _ _ => some (String.ofList name)

/-- The name of the member at a place, or to which the place belongs. -/
def memberName : ChangePath → Name
  | .directive _ _ => none
  | .type _ member _ => some (String.ofList member)

/-- The name of the argument at a place. -/
def argumentName : ChangePath → Name
  | .directive _ argument | .type _ _ argument => some (String.ofList argument)

end ChangePath

/-- A part of the place that a path names. -/
def partNamed (part : ChangePath → Name) (path : Option String) : Name :=
  (path.bind fun text => ChangePath.ofText? text.toList).bind part

theorem NamesPlace.partNamed_eq {path : Option String} {place : ChangePath}
    (h : NamesPlace path place) (part : ChangePath → Name) : partNamed part path = part place := by
  obtain ⟨text, rfl, hplace⟩ := h
  rw [partNamed, Option.bind_some, hplace, Option.bind_some]

section Places

variable {definition : Definition} {name field : Name}

theorem memberName_member (h : definition.WellFormed) (hn : name.IsProper) :
    partNamed ChangePath.memberName (name.within definition.name.text) = name :=
  ((namesPlace_member h hn).partNamed_eq _).trans (some_ofList_text hn)

/-- The path of an argument names the field too, whatever the argument. -/
theorem memberName_argument (h : definition.WellFormed) (hf : field.IsProper) :
    partNamed ChangePath.memberName (name.within (field.within definition.name.text)) = field :=
  ((namesPlace_argument h hf).partNamed_eq _).trans (some_ofList_text hf)

theorem argumentName_argument (h : definition.WellFormed) (hf : field.IsProper)
    (hn : name.IsProper) :
    partNamed ChangePath.argumentName (name.within (field.within definition.name.text)) = name :=
  ((namesPlace_argument h hf).partNamed_eq _).trans (some_ofList_text hn)

theorem argumentName_directiveArgument (h : definition.WellFormed)
    (hk : definition.kind = .directive) (hn : name.IsProper) :
    partNamed ChangePath.argumentName (name.within definition.key.text) = name :=
  ((namesPlace_directiveArgument h hk).partNamed_eq _).trans (some_ofList_text hn)

theorem key_place (h : definition.WellFormed) : definition.place.key = definition.key := by
  by_cases hk : definition.kind = .directive
  · rw [Definition.place, if_pos hk, ChangePath.key, String.ofList_toList,
      definition.key_eq_of_directive hk]
  · rw [Definition.place, if_neg hk, ChangePath.key, some_ofList_text h.name,
      definition.key_eq_name hk]

end Places

theorem TypeMap.owner?_eq_get? (types : TypeMap) (place : ChangePath) :
    types.owner? place = Keyed.get? types place.key := by
  cases place <;> rfl

/-- Whatever a rule says, it says of something. -/
theorem Rule.Holds.isSome {rule : Rule} {message : String} {old new : Option Element}
    (h : rule.Holds message old new) : old.isSome ∨ new.isSome := by
  have hgone {α : Type} {make : α → Element} (h : Gone make old new) : old.isSome := by
    obtain ⟨⟨a, rfl⟩, -⟩ := h
    rfl
  have hcome {α : Type} {make : α → Element} {p : α → Prop} (h : Come make p old new) :
      new.isSome := by
    obtain ⟨-, b, rfl, -⟩ := h
    rfl
  have hboth {α : Type} {make : α → Element} {differ : α → α → Prop}
      (h : Both make differ old new) : old.isSome := by
    obtain ⟨a, -, rfl, -⟩ := h
    rfl
  cases rule <;> first
    | exact .inl (hgone h)
    | exact .inr (hcome h)
    | exact .inl (hboth h)

/-! ## Families on members -/

theorem InputRules.onPair_of_forall {rules : InputRules} {Q : Rule → Prop} (h : ∀ rule, Q rule)
    (old new : InputValue) : rules.OnPair Q old new :=
  ⟨fun _ _ => h _, fun _ => h _, fun _ => h _, fun _ => h _⟩

theorem InputRules.onLists_of_forall {rules : InputRules} {Q : Rule → Name → Prop}
    (h : ∀ rule name, Q rule name) (old new : List InputValue) : rules.OnLists Q old new :=
  ⟨fun _ _ _ => h _ _, fun _ _ _ => h _ _, fun a _ b _ _ =>
    onPair_of_forall (fun rule => h rule b.name) a b⟩

section Families

variable {select : Detection → Bool} {definition : Definition}

theorem Owner.unrepeated_compareArguments {owner : Owner} {old new : List InputValue}
    (hold : MembersWellFormed InputValue.name InputValue.WellFormed old)
    (hnew : MembersWellFormed InputValue.name InputValue.WellFormed new)
    (hname : ∀ name : Name, name.IsProper →
      partNamed ChangePath.argumentName (owner.member name) = name) :
    Unrepeated select 7 11 (owner.compareArguments old new) := by
  refine unrepeated_report (fun d => partNamed ChangePath.argumentName d.path) (by decide)
    hold.nodup hnew.nodup (fun a ha => ⟨hname _ (hold.each a ha).name, rfl⟩)
    (fun b hb => ⟨?_, ?_⟩) fun a ha b hb _ => ⟨?_, owner.unrepeated_compareArgument a b⟩
  · rw [argumentAdded_path]
    exact hname _ (hnew.each b hb).name
  · rw [argumentAdded_rule]
    exact InputRules.argument_inTurn.added b
  · exact Owner.forall_mem_compareArgument
      (P := fun _ path => partNamed ChangePath.argumentName path = b.name) |>.2
      (InputRules.onPair_of_forall (fun _ => hname _ (hnew.each b hb).name) a b)

theorem unrepeated_compareInputFields (h : definition.WellFormed) {old new : List InputValue}
    (hold : MembersWellFormed InputValue.name InputValue.WellFormed old)
    (hnew : MembersWellFormed InputValue.name InputValue.WellFormed new) :
    Unrepeated select 1 5 (compareInputFields definition.name old new) := by
  refine unrepeated_report (fun d => partNamed ChangePath.memberName d.path) (by decide)
    hold.nodup hnew.nodup (fun a ha => ⟨memberName_member h (hold.each a ha).name, rfl⟩)
    (fun b hb => ⟨?_, ?_⟩) fun a ha b hb _ => ⟨?_, unrepeated_compareInputField _ a b⟩
  · rw [inputFieldAdded_path]
    exact memberName_member h (hnew.each b hb).name
  · rw [inputFieldAdded_rule]
    exact InputRules.inputField_inTurn.added b
  · exact forall_mem_compareInputField
      (P := fun _ path => partNamed ChangePath.memberName path = b.name) |>.2
      (InputRules.onPair_of_forall (fun _ => memberName_member h (hnew.each b hb).name) a b)

theorem unrepeated_compareEnumValue (typeName : Name) (old new : EnumValue) :
    Unrepeated select 4 7 (compareEnumValue typeName old new) := by
  have hdescription : ∀ _ : TextChange, Rule.enumValueDescriptionChanged.turn = 4 := fun _ => rfl
  exact (unrepeated_change _ hdescription).append
    (DeprecationRules.unrepeated_compare ⟨rfl, rfl⟩ ⟨rfl, rfl, rfl⟩ _ _ _) (by decide)

theorem unrepeated_compareEnumValues (h : definition.WellFormed) {old new : List EnumValue}
    (hold : MembersWellFormed EnumValue.name (fun value => value.name.IsProper) old)
    (hnew : MembersWellFormed EnumValue.name (fun value => value.name.IsProper) new) :
    Unrepeated select 4 7 (compareEnumValues definition.name old new) := by
  refine unrepeated_report (fun d => partNamed ChangePath.memberName d.path) (by decide)
    hold.nodup hnew.nodup (fun a ha => ⟨memberName_member h (hold.each a ha), rfl⟩)
    (fun b hb => ⟨memberName_member h (hnew.each b hb), rfl⟩)
    fun a ha b hb _ => ⟨?_, unrepeated_compareEnumValue _ a b⟩
  have hname := memberName_member h (hnew.each b hb)
  refine List.forall_mem_append.2 ⟨forall_mem_toList_map.2 fun _ _ => hname, ?_⟩
  exact DeprecationRules.forall_mem_compare
    (P := fun _ path => partNamed ChangePath.memberName path = b.name) _ |>.2
    fun _ _ _ _ => hname

theorem unrepeated_compareField (h : definition.WellFormed) {old new : Field}
    (hold : old.WellFormed) (hnew : new.WellFormed) :
    Unrepeated select 1 11 (compareField definition.name old new) := by
  show Unrepeated select 1 11 (_ ++ _ ++ _ ++ _)
  refine .append (.append (.append (?type : Unrepeated select 1 2 _)
    (?description : Unrepeated select 4 5 _) (by decide)) (?deprecation : Unrepeated select 5 7 _)
    (by decide)) (?args : Unrepeated select 7 11 _) (by decide)
  case type => exact unrepeated_change _ fun change => by cases change <;> rfl
  case description => exact unrepeated_change _ fun change => by cases change <;> rfl
  case deprecation => exact DeprecationRules.unrepeated_compare ⟨rfl, rfl⟩ ⟨rfl, rfl, rfl⟩ _ _ _
  case args =>
    exact Owner.unrepeated_compareArguments hold.args hnew.args
      fun name hn => argumentName_argument h hnew.name hn

theorem unrepeated_compareFields (h : definition.WellFormed) (label : String)
    {old new : List Field} (hold : MembersWellFormed Field.name Field.WellFormed old)
    (hnew : MembersWellFormed Field.name Field.WellFormed new) :
    Unrepeated select 1 11 (compareFields definition.name label old new) := by
  refine unrepeated_report (fun d => partNamed ChangePath.memberName d.path) (by decide)
    hold.nodup hnew.nodup (fun a ha => ⟨memberName_member h (hold.each a ha).name, rfl⟩)
    (fun b hb => ⟨memberName_member h (hnew.each b hb).name, rfl⟩)
    fun a ha b hb _ => ⟨?_, unrepeated_compareField h (hold.each a ha) (hnew.each b hb)⟩
  have hfield := (hnew.each b hb).name
  have hown := memberName_member h hfield
  refine forall_mem_compareField (hold.each a ha).args.nodup
    (P := fun _ path => partNamed ChangePath.memberName path = b.name) |>.2
    ⟨fun _ _ => hown, fun _ _ => hown, fun _ _ _ _ => hown, ?_⟩
  exact InputRules.onLists_of_forall (fun _ _ => memberName_argument h hfield) _ _

end Families

/-! ## Definitions -/

/-- The names that a body lists: interfaces, members of a union, or locations. -/
def Body.listed (body : Body) : List Name :=
  body.interfaces ++ body.unionMembers ++ body.locations

/-- Is the rule on a name that only one of two lists has? -/
def Rule.isOnNames : Rule → Bool
  | .interfaceImplementationAdded | .interfaceImplementationRemoved | .unionMemberAdded
  | .unionMemberRemoved | .directiveLocationAdded | .directiveLocationRemoved => true
  | _ => false

theorem Rule.turn_of_isOnNames {rule : Rule} (h : rule.isOnNames = true) : rule.turn = 11 := by
  cases rule <;> first | rfl | exact nomatch h

section Names

variable {path : Option String} {gone come : Rule} {goneText comeText : String → String}
  {old new : List Name}

theorem eq_of_text_eq {a b : Name} (ha : a.IsProper) (hb : b.IsProper) (h : a.text = b.text) :
    a = b := by
  rw [← some_text ha, ← some_text hb, h]

/-- What is reported of two lists of names repeats nothing exactly if no name that only one of
them has is in it twice. -/
theorem nodup_compareNames_iff (hrules : gone ≠ come)
    (hgone : Function.Injective goneText) (hcome : Function.Injective comeText)
    (hold : ∀ name ∈ old, Name.IsProper name) (hnew : ∀ name ∈ new, Name.IsProper name) :
    (compareNames path gone come goneText comeText old new).Nodup ↔
      (namesLeft old new).Nodup ∧ (namesLeft new old).Nodup := by
  have hproper {names others : List Name} (h : ∀ name ∈ names, Name.IsProper name) :
      ∀ name ∈ namesLeft names others, Name.IsProper name :=
    fun name hn => h name (List.mem_filter.1 hn).1
  unfold compareNames
  rw [List.nodup_append']
  constructor
  · rintro ⟨hleft, hright, -⟩
    exact ⟨hleft.of_map, hright.of_map⟩
  · rintro ⟨hleft, hright⟩
    refine ⟨hleft.map_on fun a ha b hb he => ?_, hright.map_on fun a ha b hb he => ?_, ?_⟩
    · refine eq_of_text_eq (hproper hold a ha) (hproper hold b hb) (hgone ?_)
      exact congrArg Detection.message he
    · refine eq_of_text_eq (hproper hnew a ha) (hproper hnew b hb) (hcome ?_)
      exact congrArg Detection.message he
    · intro d hd hd'
      obtain ⟨a, -, rfl⟩ := List.mem_map.1 hd
      obtain ⟨b, -, he⟩ := List.mem_map.1 hd'
      exact hrules (congrArg Detection.rule he).symm

/-- A text with the name between two others tells the name. -/
theorem injective_between (front back : String) :
    Function.Injective fun name => front ++ name ++ back := by
  intro a b h
  exact (String.append_right_inj front).1 ((String.append_left_inj back).1 h)

theorem injective_between_append (front back label : String) :
    Function.Injective fun name => front ++ name ++ back ++ label :=
  fun _ _ h => injective_between front back ((String.append_left_inj label).1 h)

end Names

namespace Definition

variable {select : Detection → Bool} {old new : Definition}

theorem unrepeated_compareText : Unrepeated select 0 1 (old.compareText new) := by
  unfold compareText
  split
  · exact unrepeated_change _ fun _ => rfl
  · exact unrepeated_change _ fun change => by cases change <;> rfl

theorem unrepeated_compareFlags : Unrepeated select 12 14 (old.compareFlags new) := by
  refine .append (?specifiedBy : Unrepeated select 12 13 _)
    (?repeatable : Unrepeated select 13 14 _) (by decide)
  case specifiedBy => exact unrepeated_change _ fun _ => rfl
  case repeatable =>
    unfold compareRepeatable
    split
    · exact unrepeated_nil
    · split <;> exact unrepeated_singleton rfl

/-- The members are those of the class, and repeat nothing there. -/
theorem unrepeated_compareMembers (hkind : old.kind = new.kind) (hold : old.WellFormed)
    (hnew : new.WellFormed) : Unrepeated select 1 11 (old.compareMembers new) := by
  obtain ⟨oldName, oldDescription, oldBody⟩ := old
  obtain ⟨newName, newDescription, newBody⟩ := new
  have hob : oldBody.WellFormed := hold.body
  have hnb : newBody.WellFormed := hnew.body
  cases Body.sameClass_of_kind_eq hkind <;>
    simp only [compareMembers, Body.fields, Body.enumValues, Body.inputFields, Body.args,
      compareFields_nil, compareEnumValues_nil, compareInputFields_nil,
      Owner.compareArguments_nil, List.append_nil, List.nil_append]
  case object | interface => exact unrepeated_compareFields hnew _ hob.1 hnb.1
  case enum => exact (unrepeated_compareEnumValues hnew hob hnb).mono (by decide)
  case input => exact (unrepeated_compareInputFields hnew hob hnb).mono (by decide)
  case directive =>
    refine (Owner.unrepeated_compareArguments hob.2.1 hnb.2.1 fun name hn => ?_).mono (by decide)
    exact argumentName_directiveArgument hnew rfl hn
  case union | scalar => exact unrepeated_nil

theorem isOnNames_of_mem_compareListed :
    ∀ d ∈ old.compareListed new, d.rule.isOnNames = true := by
  unfold compareListed compareInterfaces compareUnionMembers compareLocations
  refine List.forall_mem_append.2 ⟨List.forall_mem_append.2 ⟨?_, ?_⟩, ?_⟩
  all_goals exact forall_mem_compareNames.2 ⟨fun _ _ _ => by rfl, fun _ _ _ => by rfl⟩

theorem nodup_compareListed_iff (hkind : old.kind = new.kind) (hold : old.WellFormed)
    (hnew : new.WellFormed) : (old.compareListed new).Nodup ↔
      (namesLeft old.body.listed new.body.listed).Nodup ∧
        (namesLeft new.body.listed old.body.listed).Nodup := by
  obtain ⟨oldName, oldDescription, oldBody⟩ := old
  obtain ⟨newName, newDescription, newBody⟩ := new
  have hob : oldBody.WellFormed := hold.body
  have hnb : newBody.WellFormed := hnew.body
  cases Body.sameClass_of_kind_eq hkind <;>
    simp only [compareListed, Body.listed, Body.interfaces, Body.unionMembers, Body.locations,
      compareInterfaces_nil, compareUnionMembers_nil, compareLocations_nil, List.append_nil,
      List.nil_append]
  case object | interface =>
    unfold compareInterfaces
    exact nodup_compareNames_iff (by decide)
      (injective_between (_ ++ " no longer implements '") "' interface")
      (injective_between (_ ++ " implements '") "' interface") hob.2 hnb.2
  case union =>
    unfold compareUnionMembers
    exact nodup_compareNames_iff (by decide)
      (injective_between_append "Member '" "' was removed from " _)
      (injective_between_append "Member '" "' was added to " _) hob hnb
  case directive =>
    unfold compareLocations
    exact nodup_compareNames_iff (by decide)
      (injective_between_append "Location '" "' was removed from " _)
      (injective_between_append "Location '" "' was added to " _) hob.1 hnb.1
  case enum | input | scalar => exact iff_of_true .nil ⟨.nil, .nil⟩

/-- What is reported of two definitions repeats nothing that is selected exactly if this is so
of the names that they list. -/
theorem nodup_filter_compare_iff (hold : old.WellFormed) (hnew : new.WellFormed) :
    ((old.compare new).filter select).Nodup ↔
      (old.kind = new.kind → ((old.compareListed new).filter select).Nodup) := by
  by_cases hkind : old.kind = new.kind
  · rw [compare_of_kind_eq hkind, forall_prop_of_true hkind]
    constructor
    · refine fun h => h.sublist (List.Sublist.filter _ ?_)
      exact (List.sublist_append_right _ _).trans (List.sublist_append_left _ _)
    · intro h
      have hlisted : Unrepeated select 11 12 (old.compareListed new) := by
        refine ⟨fun d hd => ?_, h⟩
        rw [Rule.turn_of_isOnNames (isOnNames_of_mem_compareListed d hd)]
        decide
      exact (((unrepeated_compareText.append (unrepeated_compareMembers hkind hold hnew)
        (by decide)).append hlisted (by decide)).append unrepeated_compareFlags (by decide)).nodup
  · rw [compare_of_kind_ne hkind]
    exact iff_of_true ((List.nodup_singleton _).filter _) fun h => absurd h hkind

theorem key_of_isSome_element? {key : Name} {definition : Definition} {place : ChangePath}
    (h : (TypeMap.element? [(key, definition)] place).isSome) : place.key = key := by
  rw [TypeMap.element?, TypeMap.owner?_eq_get?, Keyed.get?_cons, Keyed.get?_nil] at h
  by_contra hne
  rw [if_neg (by simpa using Ne.symm hne)] at h
  exact absurd h Bool.false_ne_true

/-- The path of whatever is reported of two definitions starts with their key. -/
theorem key_of_mem_compare (hkey : old.key = new.key) (hold : old.WellFormed)
    (hnew : new.WellFormed) :
    ∀ d ∈ old.compare new, partNamed ChangePath.key d.path = new.key := by
  intro d hd
  -- what a report says of its place is true of the two definitions alone
  have hget (definition : Definition) :
      Keyed.get? [(new.key, definition)] new.key = some definition := by simp [Keyed.get?_cons]
  obtain ⟨place, hplace, hholds, -⟩ :=
    Paired.justified_compare ⟨hkey, hget old, hget new, hold, hnew⟩ d hd
  rw [hplace.partNamed_eq]
  exact hholds.isSome.elim key_of_isSome_element? key_of_isSome_element?

theorem report_eq_compare (hkey : old.key = new.key) (hold : old.WellFormed)
    (hnew : new.WellFormed) : old.report new = old.compare new :=
  if_pos (directive_iff_of_key_eq hold hnew hkey)

end Definition

/-! ## Versions -/

section Versions

variable {old new : TypeMap} {select : Detection → Bool}

/-- What is reported of two definitions under one key is part of the detections. -/
theorem compare_sublist_detections (hold : old.WellFormed) (hnew : new.WellFormed) {key : Name}
    {a b : Definition} (ha : Keyed.get? old key = some a) (hb : Keyed.get? new key = some b) :
    (a.compare b).Sublist (Snapshot.ofTypeMaps old new).detections := by
  have hreport : reportOfNew old (key, b) = a.compare b := by rw [reportOfNew, ha]
  rw [Snapshot.detections_ofTypeMaps hold hnew, ← hreport]
  refine List.Sublist.trans (List.sublist_flatten_of_mem ?_) (List.sublist_append_right _ _)
  exact List.mem_map_of_mem ((Keyed.get?_eq_some_iff hnew.nodup).1 hb)

theorem nodup_filter_typeMap_report (hold : old.WellFormed) (hnew : new.WellFormed)
    (h : ∀ a ∈ old, ∀ b ∈ new, a.1 = b.1 → ((a.2.compare b.2).filter select).Nodup) :
    ((old.report new).filter select).Nodup := by
  have hkey {types : TypeMap} (htypes : types.WellFormed) {entry : Name × Definition}
      (he : entry ∈ types) : partNamed ChangePath.key entry.2.key = entry.1 := by
    have hwf := htypes.definition _ he
    rw [(namesPlace_key hwf).partNamed_eq, key_place hwf, htypes.key _ he]
  have hreport {a b : Name × Definition} (ha : a ∈ old) (hb : b ∈ new) (hname : a.1 = b.1) :
      a.2.key = b.2.key ∧ a.2.report b.2 = a.2.compare b.2 := by
    have he : a.2.key = b.2.key := by rw [← hold.key _ ha, ← hnew.key _ hb, hname]
    exact ⟨he, Definition.report_eq_compare he (hold.definition _ ha) (hnew.definition _ hb)⟩
  refine nodup_filter_report (fun d => partNamed ChangePath.key d.path) hold.nodup hnew.nodup
    (fun a ha => ?_) (fun b hb => ?_) (fun a ha b hb hname d hd => ?_) fun a ha b hb hname => ?_
  · rw [definitionRemoved_path]
    exact hkey hold ha
  · rw [definitionAdded_path]
    exact hkey hnew hb
  · obtain ⟨he, hcompare⟩ := hreport ha hb hname
    rw [hnew.key _ hb]
    exact Definition.key_of_mem_compare he (hold.definition _ ha) (hnew.definition _ hb) d
      (hcompare ▸ hd)
  · rw [(hreport ha hb hname).2]
    exact h a ha b hb hname

/-- The detections repeat nothing that is selected exactly if this is so of the names that the
definitions list. -/
theorem nodup_filter_detections_iff (hold : old.WellFormed) (hnew : new.WellFormed) :
    ((Snapshot.ofTypeMaps old new).detections.filter select).Nodup ↔
      ∀ key a b, Keyed.get? old key = some a → Keyed.get? new key = some b → a.kind = b.kind →
        ((a.compareListed b).filter select).Nodup := by
  constructor
  · intro h key a b ha hb
    refine (Definition.nodup_filter_compare_iff (hold.of_get? ha).1 (hnew.of_get? hb).1).1 ?_
    exact h.sublist ((compare_sublist_detections hold hnew ha hb).filter _)
  · intro h
    refine ((Snapshot.detections_perm_report hold.intact hnew.intact).filter _).nodup_iff.2 ?_
    refine nodup_filter_typeMap_report hold hnew fun a ha b hb hname => ?_
    refine (Definition.nodup_filter_compare_iff (hold.definition _ ha) (hnew.definition _ hb)).2 ?_
    exact h b.1 a.2 b.2 ((Keyed.get?_eq_some_iff hold.nodup).2 (hname ▸ ha))
      ((Keyed.get?_eq_some_iff hnew.nodup).2 hb)

theorem count_eq_one_of_nodup_filter {reports : List Detection}
    (h : (reports.filter select).Nodup) {d : Detection} (hd : d ∈ reports)
    (hselect : select d = true) : reports.count d = 1 := by
  rw [← List.count_filter hselect]
  exact List.count_eq_one_of_mem h (List.mem_filter.2 ⟨hd, hselect⟩)

/-- **No change is reported twice, but for names that a list repeats.**  Between well-formed
versions each detection is the only one of its kind unless it is on a name that only one of two
lists has.  The detections are without repetition exactly if no list of interfaces, of members
of a union or of locations has a name twice that its counterpart in the other version, a
definition of one class under one key, does not have. -/
theorem reported_once_but_listed_names (hold : old.WellFormed) (hnew : new.WellFormed) :
    (∀ d ∈ (Snapshot.ofTypeMaps old new).detections, d.rule.isOnNames = false →
      (Snapshot.ofTypeMaps old new).detections.count d = 1) ∧
    ((Snapshot.ofTypeMaps old new).detections.Nodup ↔
      ∀ key a b, Keyed.get? old key = some a → Keyed.get? new key = some b → a.kind = b.kind →
        (namesLeft a.body.listed b.body.listed).Nodup ∧
          (namesLeft b.body.listed a.body.listed).Nodup) := by
  constructor
  · intro d hd hnames
    have hothers : ((Snapshot.ofTypeMaps old new).detections.filter
        fun d => !d.rule.isOnNames).Nodup := by
      refine (nodup_filter_detections_iff hold hnew).2 fun key a b _ _ _ => ?_
      rw [List.filter_eq_nil_iff.2 fun d hd => by
        simp [Definition.isOnNames_of_mem_compareListed d hd]]
      exact .nil
    exact count_eq_one_of_nodup_filter hothers hd (by rw [hnames]; rfl)
  · have hall : (Snapshot.ofTypeMaps old new).detections.filter (fun _ => true) =
        (Snapshot.ofTypeMaps old new).detections := List.filter_true _
    rw [← hall, nodup_filter_detections_iff hold hnew]
    refine forall₃_congr fun key a b => forall₃_congr fun ha hb hkind => ?_
    rw [List.filter_true, Definition.nodup_compareListed_iff hkind (hold.of_get? ha).1
      (hnew.of_get? hb).1]

/-- So it is between versions that are loaded from texts. -/
theorem changes_reported_once {oldText newText : String}
    (hold : TypeMap.load oldText = .ok old) (hnew : TypeMap.load newText = .ok new) :
    (∀ d ∈ (Snapshot.ofTypeMaps old new).detections, d.rule.isOnNames = false →
      (Snapshot.ofTypeMaps old new).detections.count d = 1) ∧
    ((Snapshot.ofTypeMaps old new).detections.Nodup ↔
      ∀ key a b, Keyed.get? old key = some a → Keyed.get? new key = some b → a.kind = b.kind →
        (namesLeft a.body.listed b.body.listed).Nodup ∧
          (namesLeft b.body.listed a.body.listed).Nodup) :=
  reported_once_but_listed_names (Sdl.lawful_frontEnd.regular_of_load hold).toWellFormed
    (Sdl.lawful_frontEnd.regular_of_load hnew).toWellFormed

end Versions

/-- What is made of the maps of two texts that are loaded. -/
theorem exists_loaded {oldText newText : String} {α : Type} {make : TypeMap → TypeMap → α} {x : α}
    (h : (do
      let before ← (TypeMap.load oldText).toOption
      let after ← (TypeMap.load newText).toOption
      return make before after) = some x) :
    ∃ before after, TypeMap.load oldText = .ok before ∧ TypeMap.load newText = .ok after ∧
      make before after = x := by
  cases hbefore : TypeMap.load oldText with
  | error fault => rw [hbefore] at h; exact absurd h nofun
  | ok before =>
    cases hafter : TypeMap.load newText with
    | error fault => rw [hbefore, hafter] at h; exact absurd h nofun
    | ok after =>
      rw [hbefore, hafter] at h
      exact ⟨before, after, rfl, rfl, Option.some.inj h⟩

/-- A union of two types, one of which it lists twice. -/
def twiceListedText : String :=
  "type A \x7b a: Int \x7d type B \x7b b: Int \x7d union U = A | A | B"

/-- The same union with each type listed once, and other fields. -/
def onceListedText : String :=
  "type A \x7b a: Int! \x7d type B \x7b c: Int \x7d union U = A | B"

/-- The union without the type that was listed twice. -/
def unlistedText : String :=
  "type A \x7b a: Int \x7d type B \x7b b: Int \x7d union U = B"

/-- A name that is listed twice is reported no more than once while it is still listed. -/
theorem listed_once_reported_once :
    ∃ before after, TypeMap.load twiceListedText = .ok before ∧
      TypeMap.load onceListedText = .ok after ∧
      (Snapshot.ofTypeMaps before after).detections.map Detection.rule =
        [.fieldNullabilityTightened, .fieldRemoved, .fieldAdded] ∧
      (∀ d ∈ (Snapshot.ofTypeMaps before after).detections, d.rule.isOnNames = false →
        (Snapshot.ofTypeMaps before after).detections.count d = 1) ∧
      ∀ key a b, Keyed.get? before key = some a → Keyed.get? after key = some b →
        a.kind = b.kind → (namesLeft a.body.listed b.body.listed).Nodup ∧
          (namesLeft b.body.listed a.body.listed).Nodup := by
  obtain ⟨before, after, hbefore, hafter, hrules⟩ :
      ∃ before after, TypeMap.load twiceListedText = .ok before ∧
        TypeMap.load onceListedText = .ok after ∧
        (Snapshot.ofTypeMaps before after).detections.map Detection.rule =
          [.fieldNullabilityTightened, .fieldRemoved, .fieldAdded] :=
    exists_loaded (by decide +kernel)
  obtain ⟨hcount, hnodup⟩ := changes_reported_once hbefore hafter
  refine ⟨before, after, hbefore, hafter, hrules, hcount, hnodup.1 (.of_map Detection.rule ?_)⟩
  exact hrules ▸ by decide

/-- That a member which was listed twice was removed is reported twice. -/
theorem listed_twice_reported_twice :
    ∃ before after, TypeMap.load twiceListedText = .ok before ∧
      TypeMap.load unlistedText = .ok after ∧
      (Snapshot.ofTypeMaps before after).detections = List.replicate 2 ⟨.unionMemberRemoved,
        some "U", "Member 'A' was removed from union type 'U'"⟩ ∧
      ¬(Snapshot.ofTypeMaps before after).detections.Nodup := by
  obtain ⟨before, after, hbefore, hafter, hdetections⟩ :
      ∃ before after, TypeMap.load twiceListedText = .ok before ∧
        TypeMap.load unlistedText = .ok after ∧
        (Snapshot.ofTypeMaps before after).detections = List.replicate 2 ⟨.unionMemberRemoved,
          some "U", "Member 'A' was removed from union type 'U'"⟩ :=
    exists_loaded (by decide +kernel)
  refine ⟨before, after, hbefore, hafter, hdetections, ?_⟩
  rw [hdetections, List.nodup_replicate]
  decide

end SchemaDrift
