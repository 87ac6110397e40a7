import SchemaDrift.Schema.Definition

/-!
# Drafts of definitions

A draft is a definition from which parts may be missing: whole lists, members
of lists, and the type references of members (`TypeRef.absent`).  It may also
be of a class that is not one of the known ones, and then its name and the words
for its class may be missing too.

* `Holey` — a list that may be missing, of members that may be missing.
* `Foreign` — what is of none of the known classes.
* `Draft` — definitions with such lists.
* `Draft.name?`, `Draft.label?` — what can be read of any draft.
* `Draft.settle?` — the definition in which the missing parts are left out.
* `Definition.toDraft` — a definition as a draft without missing parts.
-/

namespace SchemaDrift

/-- A list that may be missing, of members each of which may be missing. -/
abbrev Holey (α : Type) := Option (List (Option α))

namespace Holey

variable {α : Type}

/-- A list nothing of which is missing. -/
def whole (members : List α) : Holey α := some (members.map some)

/-- The members that are there. -/
def present (members : Holey α) : List α := (members.getD []).filterMap id

/-- Is the list there, with all its members? -/
def isWhole (members : Holey α) : Bool :=
  match members with
  | none => false
  | some list => list.all Option.isSome

@[simp] theorem present_whole (members : List α) : present (whole members) = members := by
  simp [present, whole, List.filterMap_map]

@[simp] theorem isWhole_whole (members : List α) : isWhole (whole members) = true := by
  simp [isWhole, whole]

end Holey

/-- A field whose arguments may be missing. -/
structure DraftField where
  name : Name
  type : TypeRef
  args : Holey InputValue := some []
  description : Option String := none
  deprecation : Option String := none
  deriving DecidableEq, Repr, Inhabited

/-- The field with the arguments that are there. -/
def DraftField.settle (field : DraftField) : Field where
  name := field.name
  type := field.type
  args := field.args.present
  description := field.description
  deprecation := field.deprecation

/-- A field as a draft from which nothing is missing. -/
def Field.toDraft (field : Field) : DraftField where
  name := field.name
  type := field.type
  args := Holey.whole field.args
  description := field.description
  deprecation := field.deprecation

/-- What is of none of the known classes.  Neither a name nor words for its class need be
there to be read. -/
structure Foreign where
  /-- The class.  Two things are of one class if they have this in common. -/
  className : String := "unsupported"
  /-- Is there a name to be read? -/
  isNamed : Bool := true
  /-- The words for the class, if there are any to be read. -/
  label : Option String := some className
  deriving DecidableEq, Repr, Inhabited

/-- The body of a draft.  In lists of plain names a missing member is no fault: it is
a name like any other. -/
inductive DraftBody where
  | object (fields : Holey DraftField) (interfaces : Option (List Name))
  | interface (fields : Holey DraftField) (interfaces : Option (List Name))
  | union (members : Option (List Name))
  | enum (values : Holey EnumValue)
  | input (fields : Holey InputValue)
  | scalar (specifiedBy : Option String)
  | directive (locations : Option (List Name)) (args : Holey InputValue) (repeatable : Option Bool)
  | unsupported (thing : Foreign := {})
  deriving DecidableEq, Repr, Inhabited

/-- The class of a draft with the given body. -/
def DraftBody.kind : DraftBody → Kind
  | .object .. => .object
  | .interface .. => .interface
  | .union .. => .union
  | .enum .. => .enum
  | .input .. => .input
  | .scalar .. => .scalar
  | .directive .. => .directive
  | .unsupported _ => .unsupported

/-- A definition parts of which may be missing.  The name counts for nothing where there is
none to be read (`Foreign.isNamed`). -/
structure Draft where
  name : Name
  description : Option String := none
  body : DraftBody
  deriving DecidableEq, Repr, Inhabited

/-- The body made of the parts that are there; there is none for an
unsupported class. -/
def DraftBody.settle? : DraftBody → Option Body
  | .object fields interfaces =>
      some (.object (fields.present.map DraftField.settle) (interfaces.getD []))
  | .interface fields interfaces =>
      some (.interface (fields.present.map DraftField.settle) (interfaces.getD []))
  | .union members => some (.union (members.getD []))
  | .enum values => some (.enum values.present)
  | .input fields => some (.input fields.present)
  | .scalar specifiedBy => some (.scalar specifiedBy)
  | .directive locations args repeatable =>
      some (.directive (locations.getD []) args.present repeatable)
  | .unsupported _ => none

/-- A body as a draft from which nothing is missing. -/
def Body.toDraft : Body → DraftBody
  | .object fields interfaces =>
      .object (Holey.whole (fields.map Field.toDraft)) (some interfaces)
  | .interface fields interfaces =>
      .interface (Holey.whole (fields.map Field.toDraft)) (some interfaces)
  | .union members => .union (some members)
  | .enum values => .enum (Holey.whole values)
  | .input fields => .input (Holey.whole fields)
  | .scalar specifiedBy => .scalar specifiedBy
  | .directive locations args repeatable =>
      .directive (some locations) (Holey.whole args) repeatable

namespace Draft

/-- The class of a draft. -/
def kind (draft : Draft) : Kind := draft.body.kind

/-- The key under which a draft is registered. -/
def key (draft : Draft) : Name := draft.kind.key draft.name

/-- The definition made of the parts that are there. -/
def settle? (draft : Draft) : Option Definition :=
  draft.body.settle?.map fun body =>
    { name := draft.name, description := draft.description, body }

/-- The name, if there is one to be read. -/
def name? (draft : Draft) : Option Name :=
  match draft.body with
  | .unsupported thing => if thing.isNamed then some draft.name else none
  | _ => some draft.name

/-- The words for the class, if there are any to be read. -/
def label? (draft : Draft) : Option String :=
  match draft.body with
  | .unsupported thing => thing.label
  | body => body.settle?.map Body.label

/-- Are two drafts of one class? -/
def isAkin (old new : Draft) : Bool :=
  match old.body, new.body with
  | .unsupported one, .unsupported other => one.className == other.className
  | _, _ => old.kind == new.kind

end Draft

/-- A definition as a draft from which nothing is missing. -/
def Definition.toDraft (definition : Definition) : Draft where
  name := definition.name
  description := definition.description
  body := definition.body.toDraft

/-! ## Settling a whole draft -/

@[simp] theorem DraftField.settle_toDraft (field : Field) : field.toDraft.settle = field := by
  simp [Field.toDraft, DraftField.settle]

theorem Body.settle?_toDraft (body : Body) : body.toDraft.settle? = some body := by
  cases body <;>
    simp [Body.toDraft, DraftBody.settle?, Function.comp_def]

/-- A definition comes back from its draft. -/
theorem Draft.settle?_toDraft (definition : Definition) :
    definition.toDraft.settle? = some definition := by
  simp [Draft.settle?, Definition.toDraft, Body.settle?_toDraft]

@[simp] theorem Draft.name?_toDraft (definition : Definition) :
    definition.toDraft.name? = some definition.name := by
  obtain ⟨name, description, body⟩ := definition
  cases body <;> rfl

@[simp] theorem Draft.label?_toDraft (definition : Definition) :
    definition.toDraft.label? = some definition.body.label := by
  obtain ⟨name, description, body⟩ := definition
  cases body <;> rfl

@[simp] theorem Draft.isAkin_toDraft (old new : Definition) :
    old.toDraft.isAkin new.toDraft = (old.kind == new.kind) := by
  obtain ⟨oldName, oldDescription, oldBody⟩ := old
  obtain ⟨newName, newDescription, newBody⟩ := new
  cases oldBody <;> cases newBody <;> rfl

end SchemaDrift
