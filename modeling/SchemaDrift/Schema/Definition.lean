import SchemaDrift.Schema.Name
import SchemaDrift.Schema.TypeRef

/-!
# Definitions of a schema

A schema consists of type definitions and directive definitions.

* `InputValue`, `Field`, `EnumValue` — the members of definitions.
* `Body`, `Definition` — the definitions themselves.
* `Kind`, `Body.label` — the classes of definitions, and the words for them.
* `Definition.key` — the key under which a definition is registered.
-/

namespace SchemaDrift

/-- An argument of a field or directive, or a field of an input object.  The
default is the literal as it is written in a schema document. -/
structure InputValue where
  name : Name
  type : TypeRef
  defaultValue : Option String := none
  description : Option String := none
  deriving DecidableEq, Repr, Inhabited

/-- Must a value be given?  It must if null is ruled out and nothing stands in
for a missing value. -/
def InputValue.isRequired (value : InputValue) : Bool :=
  value.type.isNonNull && value.defaultValue.isNone

/-- A field of an object or interface. -/
structure Field where
  name : Name
  type : TypeRef
  args : List InputValue := []
  description : Option String := none
  deprecation : Option String := none
  deriving DecidableEq, Repr, Inhabited

/-- A value of an enum. -/
structure EnumValue where
  name : Name
  description : Option String := none
  deprecation : Option String := none
  deriving DecidableEq, Repr, Inhabited

/-- The classes of definitions. -/
inductive Kind where
  | object
  | interface
  | union
  | enum
  | input
  | scalar
  | directive
  /-- A definition of none of the other classes. -/
  | unsupported
  deriving DecidableEq, Repr, Inhabited

/-- The key of a definition of the given class and name: the name itself, or for a
directive its text with an at sign in front. -/
def Kind.key (kind : Kind) (name : Name) : Name :=
  match kind with
  | .directive => some ("@" ++ name.text)
  | _ => name

/-- What a definition consists of besides its name and description.  It may be left
open whether a directive is repeatable. -/
inductive Body where
  | object (fields : List Field) (interfaces : List Name)
  | interface (fields : List Field) (interfaces : List Name)
  | union (members : List Name)
  | enum (values : List EnumValue)
  | input (fields : List InputValue)
  | scalar (specifiedBy : Option String)
  | directive (locations : List Name) (args : List InputValue) (repeatable : Option Bool)
  deriving DecidableEq, Repr, Inhabited

/-- The class of a definition with the given body. -/
def Body.kind : Body → Kind
  | .object .. => .object
  | .interface .. => .interface
  | .union .. => .union
  | .enum .. => .enum
  | .input .. => .input
  | .scalar .. => .scalar
  | .directive .. => .directive

/-- The words for the class of a definition with the given body. -/
def Body.label : Body → String
  | .object .. => "object type"
  | .interface .. => "interface type"
  | .union .. => "union type"
  | .enum .. => "enum type"
  | .input .. => "input object type"
  | .scalar .. => "scalar type"
  | .directive .. => "directive"

/-- A definition of a type or directive. -/
structure Definition where
  name : Name
  description : Option String := none
  body : Body
  deriving DecidableEq, Repr, Inhabited

namespace Definition

/-- The class of a definition. -/
def kind (definition : Definition) : Kind := definition.body.kind

/-- The key under which a definition is registered. -/
def key (definition : Definition) : Name := definition.kind.key definition.name

/-- The words for a definition in messages: its class and its name in quotes. -/
def label (definition : Definition) : String :=
  definition.body.label ++ " '" ++ definition.name.text ++ "'"

end Definition

end SchemaDrift
