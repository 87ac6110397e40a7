import SchemaDrift.Sdl.Meaning

/-!
# Built schemas

What the front end for the schema language makes of a document: a schema, the types and
directives of which are no longer statements.  Each knows the node of the document that it is
built from, if it is built from one.

* `Wrapped` — a type in lists and without null.
* `BuiltInput`, `BuiltField`, `BuiltValue` — the members of types and directives.
* `BuiltContent`, `BuiltType`, `BuiltDirective` — types and directives.
* `BuiltSchema` — a schema with all its types and directives.
-/

namespace SchemaDrift

open Sdl

/-- A type by its name, in lists and without null. -/
inductive Wrapped where
  | named (name : String)
  | list (item : Wrapped)
  | nonNull (inner : Wrapped)
  deriving DecidableEq, Repr, Inhabited

/-- An argument or input field.  The default is a value, and it is not there if nothing stands
in for a missing value. -/
structure BuiltInput (Value : Type) where
  type : Wrapped
  /-- What it is built from. -/
  node : Option InputNode
  defaultValue : Option Value
  description : Option String
  deriving Repr, Inhabited

/-- A field of an object or interface. -/
structure BuiltField (Value : Type) where
  type : Wrapped
  args : Keyed String (BuiltInput Value)
  description : Option String
  deprecation : Option String
  deriving Repr, Inhabited

/-- A value of an enum. -/
structure BuiltValue where
  description : Option String
  deprecation : Option String
  deriving Repr, Inhabited

/-- What a type consists of, by its class.  The values of an enum are resolved only when they
are looked at, and then this may fail. -/
inductive BuiltContent (Value : Type) where
  | object (fields : Keyed String (BuiltField Value)) (interfaces : List String)
  | interface (fields : Keyed String (BuiltField Value)) (interfaces : List String)
  | union (members : List String)
  | enum (values : Except Unfit (Keyed String BuiltValue))
  | input (fields : Keyed String (BuiltInput Value))
  | scalar (specifiedBy : Option String)
  /-- A type of another class, as it is shown. -/
  | other (shown : String)

/-- The node that something is built from: where it starts, if its place is known. -/
structure SourceNode where
  start : Option Nat
  deriving DecidableEq, Repr, Inhabited

/-- A type.  What every schema has is built from no node. -/
structure BuiltType (Value : Type) where
  name : String
  origin : Option SourceNode
  description : Option String
  content : BuiltContent Value

/-- A directive. -/
structure BuiltDirective (Value : Type) where
  name : String
  origin : Option SourceNode
  description : Option String
  locations : List Place
  args : Keyed String (BuiltInput Value)
  repeatable : Bool

/-- A schema: its types, those that every schema has among them, and its directives. -/
structure BuiltSchema (Value : Type) where
  types : List (BuiltType Value)
  directives : List (BuiltDirective Value)

end SchemaDrift
