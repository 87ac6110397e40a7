import SchemaDrift.Schema.TypeMap
import SchemaDrift.Text.Name

/-!
# Well-formed type maps

A type map is well-formed if it looks like one that was read from a schema
document, apart from the shape of its type references:

* `Name.IsProper` — a name is there, and is one of the schema language.
* `TypeRef.Complete` — no part of a type reference is missing.
* `MembersWellFormed` — the members of a list are well-formed, and no two have
  one name.
* `Definition.WellFormed`, `TypeMap.WellFormed` — the same for definitions and
  for maps, in which each definition stands under its own key.
* `TypeMap.Regular` — in addition every type reference is one that a document can
  write (`TypeRef.Proper`).

All of these can be decided.
-/

namespace SchemaDrift

/-! ## Names and type references -/

/-- A name that is there and that the schema language can write. -/
def Name.IsProper (name : Name) : Prop :=
  ∃ word, name = some word ∧ Text.isName word.toList = true

instance Name.decidableIsProper : (name : Name) → Decidable name.IsProper
  | none => isFalse fun ⟨_, h, _⟩ => nomatch h
  | some word =>
      decidable_of_iff (Text.isName word.toList = true)
        ⟨fun h => ⟨word, rfl, h⟩, fun ⟨_, hw, h⟩ => Option.some.inj hw ▸ h⟩

/-- No part of the reference is missing. -/
def TypeRef.Complete : TypeRef → Prop
  | absent => False
  | unnamed => False
  | named _ => True
  | list item => item.Complete
  | nonNull inner => inner.Complete

instance TypeRef.decidableComplete : (ref : TypeRef) → Decidable ref.Complete
  | absent => isFalse id
  | unnamed => isFalse id
  | named _ => isTrue trivial
  | list item => decidableComplete item
  | nonNull inner => decidableComplete inner

instance TypeRef.decidableProper : (ref : TypeRef) → Decidable ref.Proper
  | absent => isFalse id
  | unnamed => isFalse id
  | named name => inferInstanceAs (Decidable (name ≠ ""))
  | list item => decidableProper item
  | nonNull inner =>
      have := decidableProper inner
      inferInstanceAs (Decidable (inner.isNonNull = false ∧ inner.Proper))

/-- A reference of which no part is missing is there. -/
theorem TypeRef.Complete.ne_absent {ref : TypeRef} (h : ref.Complete) : ref ≠ .absent := by
  rintro rfl
  exact h

/-- No part is missing from a reference that a document can write. -/
theorem TypeRef.Proper.complete {ref : TypeRef} (h : ref.Proper) : ref.Complete := by
  induction ref with
  | absent => exact h
  | unnamed => exact h
  | named name => exact trivial
  | list item ih => exact ih h
  | nonNull inner ih => exact ih h.2

/-! ## Members of definitions -/

/-- The members of a list are well-formed, and no two have one name. -/
structure MembersWellFormed {α : Type} (name : α → Name) (each : α → Prop)
    (members : List α) : Prop where
  nodup : (members.map name).Nodup
  each : ∀ member ∈ members, each member

instance MembersWellFormed.decidable {α : Type} (name : α → Name) (each : α → Prop)
    [DecidablePred each] (members : List α) : Decidable (MembersWellFormed name each members) :=
  decidable_of_iff ((members.map name).Nodup ∧ ∀ member ∈ members, each member)
    ⟨fun h => ⟨h.1, h.2⟩, fun h => ⟨h.nodup, h.each⟩⟩

/-- A well-formed argument or input field. -/
structure InputValue.WellFormed (value : InputValue) : Prop where
  name : value.name.IsProper
  type : value.type.Complete

instance InputValue.decidableWellFormed : DecidablePred InputValue.WellFormed := fun value =>
  decidable_of_iff (value.name.IsProper ∧ value.type.Complete)
    ⟨fun h => ⟨h.1, h.2⟩, fun h => ⟨h.name, h.type⟩⟩

/-- A well-formed field. -/
structure Field.WellFormed (field : Field) : Prop where
  name : field.name.IsProper
  type : field.type.Complete
  args : MembersWellFormed InputValue.name InputValue.WellFormed field.args

instance Field.decidableWellFormed : DecidablePred Field.WellFormed := fun field =>
  decidable_of_iff (field.name.IsProper ∧ field.type.Complete ∧
      MembersWellFormed InputValue.name InputValue.WellFormed field.args)
    ⟨fun h => ⟨h.1, h.2.1, h.2.2⟩, fun h => ⟨h.name, h.type, h.args⟩⟩

/-! ## Definitions -/

/-- A well-formed body: its members are, and the names it lists are proper.  Whether a
directive is repeatable is not left open. -/
def Body.WellFormed : Body → Prop
  | .object fields interfaces | .interface fields interfaces =>
      MembersWellFormed Field.name Field.WellFormed fields ∧
        ∀ name ∈ interfaces, Name.IsProper name
  | .union members => ∀ name ∈ members, Name.IsProper name
  | .enum values => MembersWellFormed EnumValue.name (fun value => value.name.IsProper) values
  | .input fields => MembersWellFormed InputValue.name InputValue.WellFormed fields
  | .scalar _ => True
  | .directive locations args repeatable =>
      (∀ name ∈ locations, Name.IsProper name) ∧
        MembersWellFormed InputValue.name InputValue.WellFormed args ∧ repeatable ≠ none

instance Body.decidableWellFormed : (body : Body) → Decidable body.WellFormed
  | .object .. | .interface .. => inferInstanceAs (Decidable (_ ∧ _))
  | .union members => inferInstanceAs (Decidable (∀ name ∈ members, Name.IsProper name))
  | .enum _ => inferInstanceAs (Decidable (MembersWellFormed _ _ _))
  | .input _ => inferInstanceAs (Decidable (MembersWellFormed _ _ _))
  | .scalar _ => isTrue trivial
  | .directive .. => inferInstanceAs (Decidable (_ ∧ _ ∧ _))

/-- The type references of a body. -/
def Body.typeRefs : Body → List TypeRef
  | .object fields _ | .interface fields _ =>
      fields.flatMap fun field => field.type :: field.args.map InputValue.type
  | .input fields => fields.map InputValue.type
  | .directive _ args _ => args.map InputValue.type
  | .union _ | .enum _ | .scalar _ => []

/-- A well-formed definition. -/
structure Definition.WellFormed (definition : Definition) : Prop where
  name : definition.name.IsProper
  body : definition.body.WellFormed

instance Definition.decidableWellFormed : DecidablePred Definition.WellFormed := fun definition =>
  decidable_of_iff (definition.name.IsProper ∧ definition.body.WellFormed)
    ⟨fun h => ⟨h.1, h.2⟩, fun h => ⟨h.name, h.body⟩⟩

/-! ## Type maps -/

/-- A well-formed type map: each key stands once, over the well-formed definition
whose key it is. -/
structure TypeMap.WellFormed (types : TypeMap) : Prop where
  nodup : (Keyed.keys types).Nodup
  key : ∀ entry ∈ types, entry.1 = entry.2.key
  definition : ∀ entry ∈ types, entry.2.WellFormed

instance TypeMap.decidableWellFormed : DecidablePred TypeMap.WellFormed := fun types =>
  decidable_of_iff ((Keyed.keys types).Nodup ∧ (∀ entry ∈ types, entry.1 = entry.2.key) ∧
      ∀ entry ∈ types, entry.2.WellFormed)
    ⟨fun h => ⟨h.1, h.2.1, h.2.2⟩, fun h => ⟨h.nodup, h.key, h.definition⟩⟩

/-- A well-formed type map whose type references are all such as a schema document
can write. -/
structure TypeMap.Regular (types : TypeMap) : Prop extends types.WellFormed where
  proper : ∀ entry ∈ types, ∀ ref ∈ entry.2.body.typeRefs, ref.Proper

instance TypeMap.decidableRegular : DecidablePred TypeMap.Regular := fun types =>
  decidable_of_iff (types.WellFormed ∧
      ∀ entry ∈ types, ∀ ref ∈ entry.2.body.typeRefs, ref.Proper)
    ⟨fun h => ⟨h.1, h.2⟩, fun h => ⟨h.toWellFormed, h.proper⟩⟩

end SchemaDrift
