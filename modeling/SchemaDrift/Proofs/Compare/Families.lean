import Mathlib.Tactic.MkIffOfInductiveProp
import SchemaDrift.Proofs.Compare.Meaning

/-!
# The families of rules on a definition

A definition has the parts of its own class and none of the others.  So of two definitions
of one class, whichever it is, all families of rules are applied in one order, and those on
the parts of other classes are silent.

* `Body.fields`, `Body.enumValues`, `Body.inputFields`, `Body.args` — the members of a body,
  beside the names and attributes it has (`Body.interfaces` and so on).
* `InputValue.report` — what is reported of two arguments or of two input fields.
* `Definition.compareText`, `compareMembers`, `compareListed`, `compareFlags` — the families
  on the description, on members, on lists of names and on single attributes.
* `Definition.compare_of_kind_eq` — what is reported of two definitions of one class.
* `Body.Distinct` — the members of each list are told apart by their names.
-/

namespace SchemaDrift

/-! ## The members of a body -/

namespace Body

/-- The fields of an object or interface. -/
def fields : Body → List Field
  | .object fields _ | .interface fields _ => fields
  | .union _ | .enum _ | .input _ | .scalar _ | .directive .. => []

/-- The values of an enum. -/
def enumValues : Body → List EnumValue
  | .enum values => values
  | .object .. | .interface .. | .union _ | .input _ | .scalar _ | .directive .. => []

/-- The fields of an input object. -/
def inputFields : Body → List InputValue
  | .input fields => fields
  | .object .. | .interface .. | .union _ | .enum _ | .scalar _ | .directive .. => []

/-- The arguments of a directive. -/
def args : Body → List InputValue
  | .directive _ args _ => args
  | .object .. | .interface .. | .union _ | .enum _ | .input _ | .scalar _ => []

/-- The members of each list of a body have names of their own. -/
@[mk_iff] structure Distinct (body : Body) : Prop where
  fields : (body.fields.map Field.name).Nodup
  fieldArgs : ∀ field ∈ body.fields, (field.args.map InputValue.name).Nodup
  enumValues : (body.enumValues.map EnumValue.name).Nodup
  inputFields : (body.inputFields.map InputValue.name).Nodup
  args : (body.args.map InputValue.name).Nodup

theorem forall_nodup_iff {body : Body} :
    (∀ names ∈ body.memberNames, names.Nodup) ↔ body.Distinct := by
  cases body <;>
    simp [memberNames, distinct_iff, fields, enumValues, inputFields, args]

end Body

theorem Definition.Intact.distinctMembers {definition : Definition} (h : definition.Intact) :
    definition.body.Distinct :=
  Body.forall_nodup_iff.1 h.distinct

/-! ## Values of one name -/

/-- What is reported of two arguments or input fields of one name: that the type changes, that
the value becomes required, that the default and the description change. -/
def InputValue.report (old new : InputValue) (retyped : TypeChange → Detection)
    (required : Detection) (default description : TextChange → Detection) : List Detection :=
  (TypeChange.between old.type new.type).toList.map retyped
  ++ (if becomesRequired old new (TypeChange.between old.type new.type) then [required] else [])
  ++ (textChange old.defaultValue new.defaultValue).toList.map default
  ++ (textChange old.description new.description).toList.map description

/-! ## Nothing to compare -/

@[simp] theorem compareFields_nil (typeName : Name) (label : String) :
    compareFields typeName label [] [] = [] := rfl

@[simp] theorem compareEnumValues_nil (typeName : Name) :
    compareEnumValues typeName [] [] = [] := rfl

@[simp] theorem compareInputFields_nil (typeName : Name) :
    compareInputFields typeName [] [] = [] := rfl

@[simp] theorem Owner.compareArguments_nil (owner : Owner) :
    owner.compareArguments [] [] = [] := rfl

@[simp] theorem compareInterfaces_nil (typeName : Name) (words : String) :
    compareInterfaces typeName words [] [] = [] := rfl

@[simp] theorem compareUnionMembers_nil (typeName : Name) :
    compareUnionMembers typeName [] [] = [] := rfl

@[simp] theorem compareLocations_nil (label : String) (path : Option String) :
    compareLocations label path [] [] = [] := rfl

@[simp] theorem compareSpecifiedBy_none (typeName : Name) :
    compareSpecifiedBy typeName none none = [] := rfl

@[simp] theorem compareRepeatable_self (name : Name) (path : Option String) (flag : Option Bool) :
    compareRepeatable name path flag flag = [] := if_pos rfl

/-! ## The families -/

namespace Definition

theorem key_eq {old new : Definition} (hkind : old.kind = new.kind) (hname : old.name = new.name) :
    old.key = new.key := by
  rw [key, key, hkind, hname]

theorem label_eq {old new : Definition} (hkind : old.kind = new.kind)
    (hname : old.name = new.name) : old.label = new.label := by
  rw [label, label, Body.label_eq_of_kind_eq hkind, hname]

/-- What changed about the description of a type or directive. -/
def compareText (old new : Definition) : List Detection :=
  if new.kind = .directive then
    compareDirectiveDescription new.label new.key old.description new.description
  else old.compareDescription new

/-- What changed about the members. -/
def compareMembers (old new : Definition) : List Detection :=
  compareFields new.name new.label old.body.fields new.body.fields
  ++ compareEnumValues new.name old.body.enumValues new.body.enumValues
  ++ compareInputFields new.name old.body.inputFields new.body.inputFields
  ++ Owner.compareArguments ⟨new.label, new.key.text⟩ old.body.args new.body.args

/-- What changed about the lists of names. -/
def compareListed (old new : Definition) : List Detection :=
  compareInterfaces new.name new.body.label old.body.interfaces new.body.interfaces
  ++ compareUnionMembers new.name old.body.unionMembers new.body.unionMembers
  ++ compareLocations new.label new.key old.body.locations new.body.locations

/-- What changed about the single attributes. -/
def compareFlags (old new : Definition) : List Detection :=
  compareSpecifiedBy new.name old.body.specifiedBy new.body.specifiedBy
  ++ compareRepeatable new.name new.key old.body.repeatable new.body.repeatable

/-- What is reported of two definitions of one class. -/
theorem compare_of_kind_eq {old new : Definition} (h : old.kind = new.kind) :
    old.compare new = old.compareText new ++ old.compareMembers new ++ old.compareListed new
      ++ old.compareFlags new := by
  obtain ⟨oldName, oldDescription, oldBody⟩ := old
  obtain ⟨newName, newDescription, newBody⟩ := new
  -- in each class, the families on the parts of other classes have nothing to compare
  cases Body.sameClass_of_kind_eq h <;>
    simp [compare, compareText, compareMembers, compareListed, compareFlags, kind, Body.kind,
      Body.fields, Body.enumValues, Body.inputFields, Body.args, Body.interfaces,
      Body.unionMembers, Body.locations, Body.specifiedBy, Body.repeatable]

end Definition

end SchemaDrift
