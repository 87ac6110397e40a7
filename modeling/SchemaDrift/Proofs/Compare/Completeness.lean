import SchemaDrift.Proofs.Compare.Detections

/-!
# No difference is missed

Two versions are the same up to order if they hold the same keys and under each key
definitions that differ in nothing but the order of what they list.

* `Field.Same`, `Body.Same`, `Definition.Same`, `TypeMap.Same` — sameness up to order.
* `Definition.compare_eq_nil_iff` — nothing is reported of two definitions exactly if
  they are the same.
* `detections_eq_nil_iff` — there is no detection exactly if the versions are the same;
  in particular none between a version and itself.

In each family the argument is one: if no rule reports anything, then every attribute
that the family looks at is equal, and these are all the attributes there are.
-/

namespace SchemaDrift

/-! ## Sameness up to order -/

/-- Two fields that differ in nothing but the order of their arguments. -/
structure Field.Same (old new : Field) : Prop where
  name : old.name = new.name
  type : old.type = new.type
  args : old.args.Perm new.args
  description : old.description = new.description
  deprecation : old.deprecation = new.deprecation

/-- Two lists that hold the same names, however often and in whatever order. -/
def SameNames (old new : List Name) : Prop := ∀ name, name ∈ old ↔ name ∈ new

/-- Two bodies of one class that differ in nothing but the order of their members and
the names they list.  Bodies of two classes are never the same. -/
def Body.Same : Body → Body → Prop
  | .object oldFields oldInterfaces, .object newFields newInterfaces
  | .interface oldFields oldInterfaces, .interface newFields newInterfaces =>
      SameUpToOrder Field.Same oldFields newFields ∧ SameNames oldInterfaces newInterfaces
  | .union old, .union new => SameNames old new
  | .enum old, .enum new => old.Perm new
  | .input old, .input new => old.Perm new
  | .scalar old, .scalar new => old = new
  | .directive oldLocations oldArgs oldRepeatable,
      .directive newLocations newArgs newRepeatable =>
      SameNames oldLocations newLocations ∧ oldArgs.Perm newArgs ∧ oldRepeatable = newRepeatable
  | _, _ => False

/-- Two definitions that are the same up to order. -/
structure Definition.Same (old new : Definition) : Prop where
  name : old.name = new.name
  description : old.description = new.description
  body : old.body.Same new.body

/-- Two type maps with the same keys, and under each key the same definition up to
order. -/
structure TypeMap.Same (old new : TypeMap) : Prop where
  keys : ∀ key, key ∈ Keyed.keys old ↔ key ∈ Keyed.keys new
  definitions : ∀ key a b, Keyed.get? old key = some a → Keyed.get? new key = some b → a.Same b

/-! ## A version is the same as itself -/

theorem Field.Same.refl (field : Field) : field.Same field :=
  ⟨rfl, rfl, .refl _, rfl, rfl⟩

theorem SameUpToOrder.refl {α : Type} {same : α → α → Prop} (h : ∀ a, same a a) (members : List α) :
    SameUpToOrder same members members :=
  ⟨members, .refl _, List.forall₂_same.2 fun a _ => h a⟩

theorem Body.Same.refl (body : Body) : body.Same body := by
  cases body with
  | object fields interfaces | interface fields interfaces =>
    exact ⟨SameUpToOrder.refl Field.Same.refl fields, fun _ => Iff.rfl⟩
  | union members => exact fun _ => Iff.rfl
  | enum values => exact List.Perm.refl values
  | input fields => exact List.Perm.refl fields
  | scalar specifiedBy => exact rfl
  | directive locations args repeatable => exact ⟨fun _ => Iff.rfl, .refl args, rfl⟩

theorem TypeMap.Same.refl (types : TypeMap) : types.Same types where
  keys _ := Iff.rfl
  definitions key a b ha hb := by
    rw [ha] at hb
    obtain rfl := Option.some.inj hb
    exact ⟨rfl, rfl, Body.Same.refl _⟩

/-! ## Silence of the families -/

/-- If nothing is reported of two members of one name exactly if they are the same, then
nothing is reported of two lists exactly if they hold the same members. -/
theorem silent_members_iff {α : Type} {name : α → Name} {same silent : α → α → Prop}
    {old new : List α} (hold : (old.map name).Nodup) (hnew : (new.map name).Nodup)
    (hsame : ∀ a b, same a b → name a = name b)
    (hpair : ∀ a ∈ old, ∀ b ∈ new, name a = name b → (silent a b ↔ same a b)) :
    ((∀ a ∈ old, (∀ b ∈ new, name b ≠ name a) → False) ∧
      (∀ b ∈ new, (∀ a ∈ old, name a ≠ name b) → False) ∧
      ∀ a ∈ old, ∀ b ∈ new, name a = name b → silent a b) ↔ SameUpToOrder same old new := by
  rw [sameUpToOrder_iff hold hnew hsame]
  constructor
  · rintro ⟨hgone, hcome, hboth⟩
    exact ⟨hgone, hcome, fun a ha b hb hname =>
      (hpair a ha b hb hname).1 (hboth a ha b hb hname)⟩
  · rintro ⟨hgone, hcome, hboth⟩
    exact ⟨hgone, hcome, fun a ha b hb hname =>
      (hpair a ha b hb hname).2 (hboth a ha b hb hname)⟩

/-- Nothing is reported of two values of one name exactly if they are equal. -/
theorem InputRules.onPair_never_iff (rules : InputRules) {old new : InputValue}
    (hname : old.name = new.name) : rules.OnPair (fun _ => False) old new ↔ old = new := by
  constructor
  · rintro ⟨htype, -, hdefault, hdescription⟩
    have hnone : TypeChange.between old.type new.type = none :=
      Option.eq_none_iff_forall_ne_some.2 htype
    have htypes := TypeChange.between_eq_none_iff.1 hnone
    have hdefaults := not_not.1 hdefault
    have hdescriptions := not_not.1 hdescription
    cases old
    cases new
    simp_all
  · rintro rfl
    refine ⟨?_, ?_, fun h => h rfl, fun h => h rfl⟩
    · rw [TypeChange.between_self]
      exact fun _ h => nomatch h
    · simp [becomesRequired]

/-- Nothing is reported of two lists of values exactly if they are equal up to order. -/
theorem InputRules.onLists_never_iff (rules : InputRules) {old new : List InputValue}
    (hold : (old.map InputValue.name).Nodup) (hnew : (new.map InputValue.name).Nodup) :
    rules.OnLists (fun _ _ => False) old new ↔ old.Perm new := by
  rw [InputRules.onLists_iff, ← sameUpToOrder_eq_iff]
  refine silent_members_iff hold hnew (fun _ _ h => congrArg _ h) ?_
  intro a _ b _ hname
  exact rules.onPair_never_iff hname

theorem DeprecationRules.forall_never_iff (rules : DeprecationRules) {old new : Option String} :
    (∀ change, textChange old new = some change → ∀ rule ∈ rules.of change, False) ↔
      old = new := by
  have hsome : ∀ change, (∀ rule ∈ rules.of change, False) ↔ False := fun change => by
    refine ⟨fun h => ?_, False.elim⟩
    cases change <;> exact h _ List.mem_cons_self
  simp only [hsome, forall_textChange_iff]
  exact not_not

/-- Nothing is reported of two fields of one name exactly if they are the same. -/
theorem Field.onPair_never_iff {old new : Field} (hname : old.name = new.name)
    (hold : (old.args.map InputValue.name).Nodup) (hnew : (new.args.map InputValue.name).Nodup) :
    Field.OnPair (fun _ => False) (fun _ _ => False) old new ↔ old.Same new := by
  constructor
  · rintro ⟨htype, hdescription, hdeprecation, hargs⟩
    have hnone : TypeChange.between old.type new.type = none :=
      Option.eq_none_iff_forall_ne_some.2 htype
    exact ⟨hname, TypeChange.between_eq_none_iff.1 hnone,
      (InputRules.onLists_never_iff _ hold hnew).1 hargs,
      not_not.1 (forall_textChange_iff.1 hdescription),
      (DeprecationRules.forall_never_iff _).1 hdeprecation⟩
  · rintro ⟨-, htype, hargs, hdescription, hdeprecation⟩
    refine ⟨?_, forall_textChange_iff.2 (not_not.2 hdescription),
      (DeprecationRules.forall_never_iff _).2 hdeprecation,
      (InputRules.onLists_never_iff _ hold hnew).2 hargs⟩
    rw [htype, TypeChange.between_self]
    exact fun _ h => nomatch h

theorem Field.onLists_never_iff {typeName : Name} {old new : List Field}
    (hold : MembersWellFormed Field.name Field.WellFormed old)
    (hnew : MembersWellFormed Field.name Field.WellFormed new) :
    Field.OnLists (fun _ _ => False) typeName old new ↔ SameUpToOrder Field.Same old new := by
  rw [Field.onLists_iff]
  refine silent_members_iff hold.nodup hnew.nodup (fun _ _ h => h.name) ?_
  intro a ha b hb hname
  exact Field.onPair_never_iff hname (hold.each a ha).args.nodup (hnew.each b hb).args.nodup

theorem EnumValue.onPair_never_iff {old new : EnumValue} (hname : old.name = new.name) :
    EnumValue.OnPair (fun _ => False) old new ↔ old = new := by
  constructor
  · rintro ⟨hdescription, hdeprecation⟩
    have hdescriptions := not_not.1 hdescription
    have hdeprecations := (DeprecationRules.forall_never_iff _).1 hdeprecation
    cases old
    cases new
    simp_all
  · rintro rfl
    exact ⟨fun h => h rfl, (DeprecationRules.forall_never_iff _).2 rfl⟩

theorem EnumValue.onLists_never_iff {typeName : Name} {old new : List EnumValue}
    (hold : (old.map EnumValue.name).Nodup) (hnew : (new.map EnumValue.name).Nodup) :
    EnumValue.OnLists (fun _ _ => False) typeName old new ↔ old.Perm new := by
  rw [EnumValue.onLists_iff, ← sameUpToOrder_eq_iff]
  refine silent_members_iff hold hnew (fun _ _ h => congrArg _ h) ?_
  intro a _ b _ hname
  exact EnumValue.onPair_never_iff hname

theorem sameNames_iff {old new : List Name} :
    ((∀ name ∈ old, name ∉ new → False) ∧ ∀ name ∈ new, name ∉ old → False) ↔
      SameNames old new := by
  constructor
  · rintro ⟨hgone, hcome⟩ name
    exact ⟨fun h => not_not.1 (hgone name h), fun h => not_not.1 (hcome name h)⟩
  · intro h
    exact ⟨fun name hn hnot => hnot ((h name).1 hn), fun name hn hnot => hnot ((h name).2 hn)⟩

/-! ## Silence between definitions and between versions -/

theorem compareDescription_eq_nil_iff {old new : Definition} :
    old.compareDescription new = [] ↔ old.description = new.description :=
  List.eq_nil_iff_forall_not_mem.trans
    ((Definition.forall_mem_compareDescription (P := fun _ _ => False)).trans
      (forall_textChange_iff.trans not_not))

theorem compareArguments_eq_nil_iff {owner : Owner} {old new : List InputValue}
    (hold : (old.map InputValue.name).Nodup) (hnew : (new.map InputValue.name).Nodup) :
    owner.compareArguments old new = [] ↔ old.Perm new :=
  List.eq_nil_iff_forall_not_mem.trans
    ((Owner.forall_mem_compareArguments (P := fun _ _ => False) hold).trans
      (InputRules.onLists_never_iff _ hold hnew))

theorem compareInputFields_eq_nil_iff {typeName : Name} {old new : List InputValue}
    (hold : (old.map InputValue.name).Nodup) (hnew : (new.map InputValue.name).Nodup) :
    compareInputFields typeName old new = [] ↔ old.Perm new :=
  List.eq_nil_iff_forall_not_mem.trans
    ((forall_mem_compareInputFields (P := fun _ _ => False) hold).trans
      (InputRules.onLists_never_iff _ hold hnew))

theorem compareFields_eq_nil_iff {typeName : Name} {label : String} {old new : List Field}
    (hold : MembersWellFormed Field.name Field.WellFormed old)
    (hnew : MembersWellFormed Field.name Field.WellFormed new) :
    compareFields typeName label old new = [] ↔ SameUpToOrder Field.Same old new :=
  List.eq_nil_iff_forall_not_mem.trans
    ((forall_mem_compareFields (P := fun _ _ => False) hold.nodup
      fun f hf => (hold.each f hf).args.nodup).trans (Field.onLists_never_iff hold hnew))

theorem compareEnumValues_eq_nil_iff {typeName : Name} {old new : List EnumValue}
    (hold : (old.map EnumValue.name).Nodup) (hnew : (new.map EnumValue.name).Nodup) :
    compareEnumValues typeName old new = [] ↔ old.Perm new :=
  List.eq_nil_iff_forall_not_mem.trans
    ((forall_mem_compareEnumValues (P := fun _ _ => False) hold).trans
      (EnumValue.onLists_never_iff hold hnew))

theorem compareNames_eq_nil_iff {path : Option String} {gone come : Rule}
    {goneText comeText : String → String} {old new : List Name} :
    compareNames path gone come goneText comeText old new = [] ↔ SameNames old new :=
  List.eq_nil_iff_forall_not_mem.trans (forall_mem_compareNames.trans sameNames_iff)

theorem compareSpecifiedBy_eq_nil_iff {typeName : Name} {old new : Option String} :
    compareSpecifiedBy typeName old new = [] ↔ old = new :=
  List.eq_nil_iff_forall_not_mem.trans
    ((forall_mem_compareSpecifiedBy (P := fun _ _ => False)).trans not_not)

theorem compareDirectiveDescription_eq_nil_iff {label : String} {path old new : Option String} :
    compareDirectiveDescription label path old new = [] ↔ old = new :=
  List.eq_nil_iff_forall_not_mem.trans
    ((forall_mem_compareDirectiveDescription (P := fun _ _ => False)).trans not_not)

theorem compareRepeatable_eq_nil_iff {name : Name} {path : Option String}
    {old new : Option Bool} : compareRepeatable name path old new = [] ↔ old = new :=
  List.eq_nil_iff_forall_not_mem.trans
    ((forall_mem_compareRepeatable (P := fun _ _ => False)).trans not_not)

theorem Body.Same.kind_eq {old new : Body} (h : old.Same new) : old.kind = new.kind := by
  cases old <;> cases new <;> first | rfl | exact h.elim

/-- Nothing is reported of well-formed definitions of one name exactly if they are the
same up to order. -/
theorem Definition.compare_eq_nil_iff {old new : Definition} (hold : old.WellFormed)
    (hnew : new.WellFormed) (hname : old.name = new.name) :
    old.compare new = [] ↔ old.Same new := by
  have hsame : old.Same new ↔ old.description = new.description ∧ old.body.Same new.body :=
    ⟨fun h => ⟨h.description, h.body⟩, fun h => ⟨hname, h.1, h.2⟩⟩
  rw [hsame]
  by_cases hk : old.kind = new.kind
  · obtain ⟨oldName, oldDescription, oldBody⟩ := old
    obtain ⟨newName, newDescription, newBody⟩ := new
    have hob : oldBody.WellFormed := hold.body
    have hnb : newBody.WellFormed := hnew.body
    cases Body.sameClass_of_kind_eq hk with
    | object | interface =>
      simp only [compare, List.append_eq_nil_iff, compareDescription_eq_nil_iff,
        compareFields_eq_nil_iff hob.1 hnb.1, compareInterfaces, compareNames_eq_nil_iff,
        Body.Same, and_assoc]
    | union =>
      simp only [compare, List.append_eq_nil_iff, compareDescription_eq_nil_iff,
        compareUnionMembers, compareNames_eq_nil_iff, Body.Same]
    | enum =>
      simp only [compare, List.append_eq_nil_iff, compareDescription_eq_nil_iff,
        compareEnumValues_eq_nil_iff hob.nodup hnb.nodup, Body.Same]
    | input =>
      simp only [compare, List.append_eq_nil_iff, compareDescription_eq_nil_iff,
        compareInputFields_eq_nil_iff hob.nodup hnb.nodup, Body.Same]
    | scalar =>
      simp only [compare, List.append_eq_nil_iff, compareDescription_eq_nil_iff,
        compareSpecifiedBy_eq_nil_iff, Body.Same]
    | directive =>
      simp only [compare, List.append_eq_nil_iff, compareDirectiveDescription_eq_nil_iff,
        compareArguments_eq_nil_iff hob.2.1.nodup hnb.2.1.nodup, compareLocations,
        compareNames_eq_nil_iff, compareRepeatable_eq_nil_iff, Body.Same, and_assoc,
        and_left_comm]
  · rw [compare_of_kind_ne hk]
    exact ⟨fun h => absurd h (List.cons_ne_nil _ _), fun h => absurd h.2.kind_eq hk⟩

/-- Versions are the same if no key is only in one of them and the definitions under
each key are the same. -/
theorem TypeMap.same_iff {old new : TypeMap} :
    old.Same new ↔
      (∀ key a, Keyed.get? old key = some a → Keyed.get? new key = none → False) ∧
      (∀ key b, Keyed.get? new key = some b → Keyed.get? old key = none → False) ∧
      ∀ key a b, Keyed.get? old key = some a → Keyed.get? new key = some b → a.Same b := by
  have hkeys : ∀ {left right : TypeMap} {key : Name},
      (∀ a, Keyed.get? left key = some a → Keyed.get? right key = none → False) ↔
        (key ∈ Keyed.keys left → key ∈ Keyed.keys right) := by
    intro left right key
    rw [← not_imp_not (a := key ∈ _), ← Keyed.get?_eq_none_iff, ← Keyed.get?_eq_none_iff]
    constructor
    · intro h hright
      exact Option.eq_none_iff_forall_ne_some.2 fun a ha => h a ha hright
    · intro h a ha hright
      rw [h hright] at ha
      exact nomatch ha
  simp only [hkeys]
  constructor
  · rintro ⟨h, hboth⟩
    exact ⟨fun key => (h key).1, fun key => (h key).2, hboth⟩
  · rintro ⟨hgone, hcome, hboth⟩
    exact ⟨fun key => ⟨hgone key, hcome key⟩, hboth⟩

theorem silent_iff_same {old new : TypeMap} (hold : old.WellFormed) (hnew : new.WellFormed) :
    (Snapshot.ofTypeMaps old new).detections = [] ↔ old.Same new := by
  rw [List.eq_nil_iff_forall_not_mem, TypeMap.same_iff]
  refine (forall_mem_detections (Q := fun _ => False) hold hnew).trans ?_
  refine and_congr_right' (and_congr_right' ?_)
  -- under one key the names agree, so that silence is sameness
  have hpair : ∀ key a b, Keyed.get? old key = some a → Keyed.get? new key = some b →
      ((∀ d ∈ a.compare b, False) ↔ a.Same b) := by
    intro key a b ha hb
    obtain ⟨hwa, hka⟩ := hold.of_get? ha
    obtain ⟨hwb, hkb⟩ := hnew.of_get? hb
    have hname := Definition.name_eq_of_key_eq hwa hwb (hka.trans hkb.symm)
    exact List.eq_nil_iff_forall_not_mem.symm.trans (Definition.compare_eq_nil_iff hwa hwb hname)
  constructor
  · intro h key a b ha hb
    exact (hpair key a b ha hb).1 (h key a b ha hb)
  · intro h key a b ha hb
    exact (hpair key a b ha hb).2 (h key a b ha hb)

/-- **No difference is missed.**  Between two well-formed versions nothing is detected
exactly if they are the same up to order; so nothing is detected between a version and
itself. -/
theorem detections_eq_nil_iff {old new : TypeMap} (hold : old.WellFormed)
    (hnew : new.WellFormed) :
    ((Snapshot.ofTypeMaps old new).detections = [] ↔ old.Same new) ∧
      (Snapshot.ofTypeMaps old old).detections = [] := by
  constructor
  · exact silent_iff_same hold hnew
  · exact (silent_iff_same hold hold).2 (TypeMap.Same.refl old)

/-- A small schema: an object with arguments, a union and a directive. -/
def shop : TypeMap := .ofDefinitions
  [⟨some "Item", some "Sold here", .object
      [⟨some "price", .nonNull (.named "Int"),
          [⟨some "tax", .named "Float", some "0.2", none⟩,
            ⟨some "unit", .nonNull (.named "String"), none, none⟩], none, none⟩,
        ⟨some "tags", .list (.named "String"), [], none, some "use labels"⟩]
      [some "Node", some "Priced"]⟩,
    ⟨some "Result", none, .union [some "Item", some "Offer"]⟩,
    ⟨some "cached", none, .directive [some "FIELD", some "QUERY"] [] (some true)⟩]

/-- The same schema, listed in another order. -/
def shopReordered : TypeMap := .ofDefinitions
  [⟨some "cached", none, .directive [some "QUERY", some "FIELD"] [] (some true)⟩,
    ⟨some "Result", none, .union [some "Offer", some "Item"]⟩,
    ⟨some "Item", some "Sold here", .object
      [⟨some "tags", .list (.named "String"), [], none, some "use labels"⟩,
        ⟨some "price", .nonNull (.named "Int"),
          [⟨some "unit", .nonNull (.named "String"), none, none⟩,
            ⟨some "tax", .named "Float", some "0.2", none⟩], none, none⟩]
      [some "Priced", some "Node"]⟩]

theorem shop_same_reordered :
    shop.WellFormed ∧ shopReordered.WellFormed ∧ shop.Same shopReordered := by
  have hold : shop.WellFormed := by decide
  have hnew : shopReordered.WellFormed := by decide
  exact ⟨hold, hnew, (detections_eq_nil_iff hold hnew).1.1 (by decide)⟩

end SchemaDrift
