import SchemaDrift.Diff.Engine
import SchemaDrift.Proofs.Compare.Completeness
import SchemaDrift.Proofs.Compare.Families
import SchemaDrift.Proofs.Compare.Pairings

/-!
# The order of declarations

What is detected does not depend on the order in which a version declares its definitions
and what belongs to them.

* `Definition.Reordered`, `TypeMap.Reordered` — the same declarations in another order.
* `TypeMap.Intact.reordered` — nothing goes missing by reordering.
* `Definition.Reordered.perm_report` — the same is reported of two definitions.
* `detections_perm_of_reordered` — the same is detected between two versions, with the same
  numbers of changes and the same verdict.
-/

namespace SchemaDrift

/-! ## The same declarations in another order -/

/-- Two definitions that differ in nothing but the order of what they list: their members,
the arguments of their fields, and their names. -/
structure Definition.Reordered (old new : Definition) : Prop where
  name : old.name = new.name
  description : old.description = new.description
  kind : old.kind = new.kind
  fields : SameUpToOrder Field.Same old.body.fields new.body.fields
  enumValues : old.body.enumValues.Perm new.body.enumValues
  inputFields : old.body.inputFields.Perm new.body.inputFields
  args : old.body.args.Perm new.body.args
  interfaces : old.body.interfaces.Perm new.body.interfaces
  unionMembers : old.body.unionMembers.Perm new.body.unionMembers
  locations : old.body.locations.Perm new.body.locations
  specifiedBy : old.body.specifiedBy = new.body.specifiedBy
  repeatable : old.body.repeatable = new.body.repeatable

/-- Two type maps that hold the same definitions under the same keys, up to order. -/
def TypeMap.Reordered (old new : TypeMap) : Prop :=
  SameUpToOrder (fun a b => a.1 = b.1 ∧ a.2.Reordered b.2) old new

/-! ## Nothing goes missing -/

theorem Body.names_perm (body : Body) :
    body.names.Perm
      (body.fields.flatMap (fun field => field.name :: field.args.map InputValue.name)
        ++ body.enumValues.map EnumValue.name ++ body.inputFields.map InputValue.name
        ++ body.args.map InputValue.name ++ body.interfaces ++ body.unionMembers
        ++ body.locations) := by
  cases body <;>
    simp [names, fields, enumValues, inputFields, args, interfaces, unionMembers, locations,
      List.perm_append_comm]

theorem Body.typeRefs_eq (body : Body) :
    body.typeRefs = body.fields.flatMap Field.typeRefs ++ body.inputFields.map InputValue.type
      ++ body.args.map InputValue.type := by
  have hfield : Field.typeRefs = fun field => field.type :: field.args.map InputValue.type := rfl
  cases body <;> simp [typeRefs, fields, inputFields, args, hfield]

theorem Body.leavesOpen_eq (body : Body) :
    body.leavesOpen = (body.kind == .directive && body.repeatable.isNone) := by
  cases body with
  | directive locations args flag => cases flag <;> rfl
  | _ => rfl

section Intact

variable {old new : Definition} (h : old.Reordered new)
include h

theorem Definition.Reordered.names_perm : old.body.names.Perm new.body.names := by
  have hfields := h.fields.perm_flatMap
    (f := fun field : Field => field.name :: field.args.map InputValue.name)
    (g := fun field : Field => field.name :: field.args.map InputValue.name)
    fun a b hab => by
      rw [hab.name]
      exact (hab.args.map _).cons _
  refine old.body.names_perm.trans (List.Perm.trans ?_ new.body.names_perm.symm)
  exact (((((hfields.append (h.enumValues.map _)).append (h.inputFields.map _)).append
    (h.args.map _)).append h.interfaces).append h.unionMembers).append h.locations

theorem Definition.Reordered.typeRefs_perm : old.body.typeRefs.Perm new.body.typeRefs := by
  have hfields := h.fields.perm_flatMap (f := Field.typeRefs) (g := Field.typeRefs)
    fun a b hab => by
      rw [Field.typeRefs, Field.typeRefs, hab.type]
      exact (hab.args.map _).cons _
  rw [Body.typeRefs_eq, Body.typeRefs_eq]
  exact (hfields.append (h.inputFields.map _)).append (h.args.map _)

theorem Definition.Reordered.intact (hold : old.Intact) : new.Intact where
  names := by
    rw [← h.name, ← (h.names_perm.cons old.name).mem_iff]
    exact hold.names
  typeRefs := fun ref hr => hold.typeRefs ref (h.typeRefs_perm.mem_iff.2 hr)
  decided := by
    have hkind : old.body.kind = new.body.kind := h.kind
    rw [Body.leavesOpen_eq, ← hkind, ← h.repeatable, ← Body.leavesOpen_eq]
    exact hold.decided
  distinct := by
    have hdistinct := hold.distinctMembers
    refine Body.forall_nodup_iff.2 ⟨?_, fun field hf => ?_, ?_, ?_, ?_⟩
    · exact (h.fields.perm_map fun a b hab => hab.name).nodup_iff.1 hdistinct.fields
    · obtain ⟨before, hb, hsame⟩ := h.fields.exists_of_mem_new hf
      exact (hsame.args.map _).nodup_iff.1 (hdistinct.fieldArgs before hb)
    · exact (h.enumValues.map _).nodup_iff.1 hdistinct.enumValues
    · exact (h.inputFields.map _).nodup_iff.1 hdistinct.inputFields
    · exact (h.args.map _).nodup_iff.1 hdistinct.args

end Intact

theorem Definition.Reordered.key {old new : Definition} (h : old.Reordered new) :
    old.key = new.key :=
  key_eq h.kind h.name

theorem Definition.Reordered.label {old new : Definition} (h : old.Reordered new) :
    old.label = new.label :=
  label_eq h.kind h.name

/-- Nothing goes missing from an intact type map by reordering. -/
theorem TypeMap.Intact.reordered {old new : TypeMap} (hold : old.Intact) (h : old.Reordered new) :
    new.Intact where
  nodup := (h.perm_map fun _ _ hab => hab.1).nodup_iff.1 hold.nodup
  key := fun entry he => by
    obtain ⟨before, hb, hkey, hsame⟩ := h.exists_of_mem_new he
    rw [← hkey, ← hsame.key]
    exact hold.key before hb
  definition := fun entry he => by
    obtain ⟨before, hb, -, hsame⟩ := h.exists_of_mem_new he
    exact hsame.intact (hold.definition before hb)

/-! ## The same is reported -/

section Families

variable {typeName : Name}

theorem perm_namesLeft {old old' new new' : List Name} (ho : old.Perm old') (hn : new.Perm new') :
    (namesLeft old new).Perm (namesLeft old' new') := by
  unfold namesLeft
  simp only [hn.contains_eq]
  exact ho.filter _

theorem perm_compareNames {path : Option String} {gone come : Rule}
    {goneText comeText : String → String} {old old' new new' : List Name} (ho : old.Perm old')
    (hn : new.Perm new') :
    (compareNames path gone come goneText comeText old new).Perm
      (compareNames path gone come goneText comeText old' new') :=
  ((perm_namesLeft ho hn).map _).append ((perm_namesLeft hn ho).map _)

theorem Owner.perm_compareArguments (owner : Owner) {old old' new new' : List InputValue}
    (hold : (old.map InputValue.name).Nodup) (ho : old.Perm old') (hn : new.Perm new') :
    (owner.compareArguments old new).Perm (owner.compareArguments old' new') :=
  perm_report_of_perm hold ho hn _ _ _

theorem perm_compareInputFields {old old' new new' : List InputValue}
    (hold : (old.map InputValue.name).Nodup) (ho : old.Perm old') (hn : new.Perm new') :
    (compareInputFields typeName old new).Perm (compareInputFields typeName old' new') :=
  perm_report_of_perm hold ho hn _ _ _

theorem perm_compareEnumValues {old old' new new' : List EnumValue}
    (hold : (old.map EnumValue.name).Nodup) (ho : old.Perm old') (hn : new.Perm new') :
    (compareEnumValues typeName old new).Perm (compareEnumValues typeName old' new') :=
  perm_report_of_perm hold ho hn _ _ _

theorem perm_compareField {old old' new new' : Field}
    (hold : (old.args.map InputValue.name).Nodup) (ho : old.Same old') (hn : new.Same new') :
    (compareField typeName old new).Perm (compareField typeName old' new') := by
  unfold compareField
  rw [hn.name, ho.type, hn.type, ho.description, hn.description, ho.deprecation, hn.deprecation]
  exact (Owner.perm_compareArguments _ hold ho.args hn.args).append_left _

theorem perm_compareFields {label : String} {old old' new new' : List Field}
    (hold : (old.map Field.name).Nodup)
    (holdArgs : ∀ f ∈ old, (f.args.map InputValue.name).Nodup)
    (hnewArgs : ∀ f ∈ new, (f.args.map InputValue.name).Nodup)
    (ho : SameUpToOrder Field.Same old old') (hn : SameUpToOrder Field.Same new new') :
    (compareFields typeName label old new).Perm (compareFields typeName label old' new') := by
  refine SameUpToOrder.perm_report (fun a b hab => hab.2.name) hold (ho.and_left holdArgs)
    (hn.and_left hnewArgs) (fun a b hab => ?_) (fun a b hab => ?_) fun a a' b b' ha hb => ?_
  · rw [hab.2.name]
  · rw [hab.2.name]
  · exact perm_compareField ha.1 ha.2 hb.2

end Families

namespace Definition.Reordered

variable {old old' new new' : Definition} (ho : old.Reordered old') (hn : new.Reordered new')
include ho hn

theorem compareText_eq : old.compareText new = old'.compareText new' := by
  unfold compareText compareDescription
  rw [hn.kind, hn.key, hn.label, hn.name, ho.description, hn.description]

theorem perm_compareMembers (hold : old.Intact) (hnew : new.Intact) :
    (old.compareMembers new).Perm (old'.compareMembers new') := by
  have hdistinct := hold.distinctMembers
  unfold compareMembers
  rw [hn.name, hn.label, hn.key]
  refine (((?_ : List.Perm _ _).append ?_).append ?_).append ?_
  · exact perm_compareFields hdistinct.fields hdistinct.fieldArgs hnew.distinctMembers.fieldArgs
      ho.fields hn.fields
  · exact perm_compareEnumValues hdistinct.enumValues ho.enumValues hn.enumValues
  · exact perm_compareInputFields hdistinct.inputFields ho.inputFields hn.inputFields
  · exact Owner.perm_compareArguments _ hdistinct.args ho.args hn.args

theorem perm_compareListed : (old.compareListed new).Perm (old'.compareListed new') := by
  unfold compareListed compareInterfaces compareUnionMembers compareLocations
  rw [hn.name, Body.label_eq_of_kind_eq hn.kind, hn.label, hn.key]
  refine ((?_ : List.Perm _ _).append ?_).append ?_
  · exact perm_compareNames ho.interfaces hn.interfaces
  · exact perm_compareNames ho.unionMembers hn.unionMembers
  · exact perm_compareNames ho.locations hn.locations

theorem compareFlags_eq : old.compareFlags new = old'.compareFlags new' := by
  unfold compareFlags
  rw [hn.name, hn.key, ho.specifiedBy, hn.specifiedBy, ho.repeatable, hn.repeatable]

/-- The same is reported of two definitions whatever the order in which they list things. -/
theorem perm_report (hold : old.Intact) (hnew : new.Intact) :
    (old.report new).Perm (old'.report new') := by
  unfold report
  rw [← ho.kind, ← hn.kind]
  by_cases hdirective : old.kind = .directive ↔ new.kind = .directive
  · rw [if_pos hdirective, if_pos hdirective]
    by_cases hkind : old.kind = new.kind
    · have hkind' : old'.kind = new'.kind := ho.kind.symm.trans (hkind.trans hn.kind)
      rw [compare_of_kind_eq hkind, compare_of_kind_eq hkind', ho.compareText_eq hn,
        ho.compareFlags_eq hn]
      exact (((ho.perm_compareMembers hn hold hnew).append_left _).append
        (ho.perm_compareListed hn)).append_right _
    · have hkind' : old'.kind ≠ new'.kind := fun h => hkind (ho.kind.trans (h.trans hn.kind.symm))
      rw [compare_of_kind_ne hkind, compare_of_kind_ne hkind', Body.label_eq_of_kind_eq ho.kind,
        Body.label_eq_of_kind_eq hn.kind, hn.name]
  · rw [if_neg hdirective, if_neg hdirective]

end Definition.Reordered

/-! ## The same is detected -/

section Versions

variable {old old' new new' : TypeMap}

theorem TypeMap.Reordered.perm_report (ho : old.Reordered old') (hn : new.Reordered new')
    (hold : old.Intact) (hnew : new.Intact) : (old.report new).Perm (old'.report new') := by
  refine SameUpToOrder.perm_report (fun a b hab => hab.2.1) hold.nodup
    (ho.and_left hold.definition) (hn.and_left hnew.definition)
    (fun a b hab => ?_) (fun a b hab => ?_) fun a a' b b' ha hb => ?_
  · rw [hab.2.2.kind, hab.2.2.name]
  · rw [hab.2.2.kind, hab.2.2.name]
  · exact ha.2.2.perm_report hb.2.2 ha.1 hb.1

/-- The numbers of changes and the verdict do not depend on the order of the changes. -/
theorem Stats.ofChanges_eq_of_perm {changes changes' : List Change} (h : changes.Perm changes') :
    Stats.ofChanges changes = Stats.ofChanges changes' := by
  have hcomm (stats : Stats) (first second : Change) :
      (stats.count first).count second = (stats.count second).count first := by
    unfold Stats.count
    cases first.isBreaking <;> cases first.isDangerous <;>
      cases second.isBreaking <;> cases second.isDangerous <;> rfl
  exact h.foldl_eq' (fun first _ second _ stats => hcomm stats first second) {}

theorem conclude_eq_of_perm (strict : Bool) {changes changes' : List Change}
    (h : changes.Perm changes') : conclude strict changes = conclude strict changes' := by
  unfold conclude
  rw [h.any_eq]

/-- **The order of declarations does not matter.**  Between two versions in another order the
same is detected, with the same levels, numbers of changes and verdict. -/
theorem detections_perm_of_reordered (hold : old.Intact) (hnew : new.Intact)
    (ho : old.Reordered old') (hn : new.Reordered new') (strict : Bool) (seconds : Double)
    (sources sources' : Sources) (label label' : Datum) :
    (Snapshot.ofTypeMaps old' new').detections.Perm (Snapshot.ofTypeMaps old new).detections ∧
      (Snapshot.ofTypeMaps old' new').changes.Perm (Snapshot.ofTypeMaps old new).changes ∧
      ∃ comparison comparison',
        Policy.diff ⟨strict, none, seconds⟩ sources (.ofTypeMaps old new) label = some comparison ∧
        Policy.diff ⟨strict, none, seconds⟩ sources' (.ofTypeMaps old' new') label' =
          some comparison' ∧
        comparison'.result.stats = comparison.result.stats ∧
        comparison'.result.conclusion = comparison.result.conclusion := by
  have hbefore := Snapshot.detections_perm_report hold hnew
  have hafter := Snapshot.detections_perm_report (hold.reordered ho) (hnew.reordered hn)
  have hdetections : (Snapshot.ofTypeMaps old' new').detections.Perm
      (Snapshot.ofTypeMaps old new).detections :=
    hafter.trans ((ho.perm_report hn hold hnew).symm.trans hbefore.symm)
  have hchanges : (Snapshot.ofTypeMaps old' new').changes.Perm
      (Snapshot.ofTypeMaps old new).changes := hdetections.map _
  exact ⟨hdetections, hchanges, _, _, rfl, rfl, Stats.ofChanges_eq_of_perm hchanges,
    conclude_eq_of_perm strict hchanges⟩

end Versions

/-- Another version of the shop. -/
def shopRevised : TypeMap := .ofDefinitions
  [⟨some "Item", some "Sold here", .object
      [⟨some "price", .named "Int",
          [⟨some "unit", .nonNull (.named "String"), none, none⟩,
            ⟨some "region", .named "String", none, none⟩], none, none⟩] [some "Node"]⟩,
    ⟨some "Result", none, .union [some "Item", some "Bundle"]⟩]

/-- This version, listed in another order. -/
def shopRevisedReordered : TypeMap := .ofDefinitions
  [⟨some "Result", none, .union [some "Bundle", some "Item"]⟩,
    ⟨some "Item", some "Sold here", .object
      [⟨some "price", .named "Int",
          [⟨some "region", .named "String", none, none⟩,
            ⟨some "unit", .nonNull (.named "String"), none, none⟩], none, none⟩] [some "Node"]⟩]

theorem shop_reordered : shop.Reordered shopReordered := by
  refine ⟨shop.reverse, (List.reverse_perm shop).symm, .cons ⟨rfl, ?_⟩ (.cons ⟨rfl, ?_⟩
    (.cons ⟨rfl, ?_⟩ .nil))⟩
  · constructor
    case fields => exact ⟨[], .nil, .nil⟩
    all_goals decide
  · constructor
    case fields => exact ⟨[], .nil, .nil⟩
    all_goals decide
  · constructor
    case fields =>
      refine ⟨_, List.Perm.swap _ _ [], .cons ?_ (.cons ?_ .nil)⟩
      · exact ⟨rfl, rfl, by decide, rfl, rfl⟩
      · exact ⟨rfl, rfl, by decide, rfl, rfl⟩
    all_goals decide

theorem shopRevised_reordered : shopRevised.Reordered shopRevisedReordered := by
  refine ⟨shopRevised.reverse, (List.reverse_perm shopRevised).symm, .cons ⟨rfl, ?_⟩
    (.cons ⟨rfl, ?_⟩ .nil)⟩
  · constructor
    case fields => exact ⟨[], .nil, .nil⟩
    all_goals decide
  · constructor
    case fields => exact ⟨_, .refl _, .cons ⟨rfl, rfl, by decide, rfl, rfl⟩ .nil⟩
    all_goals decide

theorem shop_detects_reordered :
    shop.Intact ∧ shopRevised.Intact ∧ shop.Reordered shopReordered ∧
      shopRevised.Reordered shopRevisedReordered ∧
      (Snapshot.ofTypeMaps shop shopRevised).detections.map (fun d => (d.rule, d.path)) =
        [(.directiveRemoved, some "@cached"),
          (.fieldRemoved, some "Item.tags"),
          (.fieldNullabilityLoosened, some "Item.price"),
          (.argumentRemoved, some "Item.price.tax"),
          (.optionalArgumentAdded, some "Item.price.region"),
          (.interfaceImplementationRemoved, some "Item"),
          (.unionMemberRemoved, some "Result"),
          (.unionMemberAdded, some "Result")] ∧
      (Snapshot.ofTypeMaps shopReordered shopRevisedReordered).detections.Perm
        (Snapshot.ofTypeMaps shop shopRevised).detections := by
  have hold : shop.Intact := by decide
  have hnew : shopRevised.Intact := by decide
  have hsame := detections_perm_of_reordered hold hnew shop_reordered shopRevised_reordered false
    (.ofInt 10) ⟨none, none⟩ ⟨none, none⟩ .nothing .nothing
  exact ⟨hold, hnew, shop_reordered, shopRevised_reordered, by decide, hsame.1⟩

end SchemaDrift
