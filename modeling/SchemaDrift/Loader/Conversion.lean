import SchemaDrift.Loader.FrontEnd
import SchemaDrift.Schema.TypeMap

/-!
# From schemas to type maps

A schema is converted definition by definition.  What every schema has is left out.  The types
come first and then the directives, either of them in the order in which they are declared: they
are sorted by the places of their nodes.

* `sortedByPlace` — what is built from nodes, in the order of these.
* `FrontEnd.defaultText` — the default of an argument or input field as text.
* `FrontEnd.typeDefinition`, `FrontEnd.directiveDefinition` — the definitions that are made.
* `FrontEnd.typesInOrder`, `FrontEnd.directivesInOrder` — what is converted of a schema.
* `FrontEnd.typeMap`, `FrontEnd.load` — the type map of a schema, and of a text.
-/

namespace SchemaDrift

open Sdl

/-! ## The order of declaration -/

/-- Where the node starts that something is built from.  Without a node or its place it counts
as beyond all places. -/
def declarationPlace (origin : Option SourceNode) : Option Nat := origin.bind SourceNode.start

/-- Does one place come no later than the other? -/
def isNoLater : Option Nat → Option Nat → Bool
  | _, none => true
  | none, some _ => false
  | some one, some other => one ≤ other

section Sorting

variable {α : Type} (origin : α → Option SourceNode)

/-- A member put in front of the first one that comes no earlier. -/
def insertByPlace (member : α) : List α → List α
  | [] => [member]
  | first :: rest =>
    if isNoLater (declarationPlace (origin member)) (declarationPlace (origin first)) then
      member :: first :: rest
    else first :: insertByPlace member rest

/-- The members in the order of their places; those of one place keep their order. -/
def sortedByPlace : List α → List α
  | [] => []
  | first :: rest => insertByPlace origin first (sortedByPlace rest)

end Sorting

/-! ## Members -/

/-- The reference to a type. -/
def Wrapped.typeRef : Wrapped → TypeRef
  | named name => .named name
  | list item => .list item.typeRef
  | nonNull inner => .nonNull inner.typeRef

/-- The enum value of a name. -/
def BuiltValue.enumValue (entry : String × BuiltValue) : EnumValue where
  name := entry.1
  description := entry.2.description
  deprecation := entry.2.deprecation

namespace FrontEnd

variable {Value : Type} (core : FrontEnd Value)

/-- The default as text: as it is written in the node, or else as the value would be written. -/
def defaultText (input : BuiltInput Value) : Option String :=
  match input.node.bind InputNode.defaultValue with
  | some literal => some (core.print literal)
  | none =>
    match input.defaultValue with
    | none => none
    | some value => (core.literalOf? value input.type).map core.print

/-- The argument or input field of a name. -/
def inputValue (entry : String × BuiltInput Value) : InputValue where
  name := entry.1
  type := entry.2.type.typeRef
  defaultValue := core.defaultText entry.2
  description := entry.2.description

/-- The field of a name. -/
def field (entry : String × BuiltField Value) : Field where
  name := entry.1
  type := entry.2.type.typeRef
  args := entry.2.args.map core.inputValue
  description := entry.2.description
  deprecation := entry.2.deprecation

/-! ## Definitions -/

/-- Why a schema cannot be converted. -/
inductive ConversionFault where
  /-- The values of an enum could not be resolved. -/
  | unfit (fault : Unfit)
  /-- A type is of an unknown class. -/
  | unsupported (shown : String)
  deriving DecidableEq, Repr, Inhabited

/-- What a type consists of. -/
def body : BuiltContent Value → Except ConversionFault Body
  | .object fields interfaces =>
      .ok (.object (fields.map core.field) (interfaces.map some))
  | .interface fields interfaces =>
      .ok (.interface (fields.map core.field) (interfaces.map some))
  | .union members => .ok (.union (members.map some))
  | .enum (.ok values) => .ok (.enum (values.map BuiltValue.enumValue))
  | .enum (.error fault) => .error (.unfit fault)
  | .input fields => .ok (.input (fields.map core.inputValue))
  | .scalar specifiedBy => .ok (.scalar specifiedBy)
  | .other shown => .error (.unsupported shown)

/-- The definition of a type. -/
def typeDefinition (type : BuiltType Value) : Except ConversionFault Definition :=
  (core.body type.content).map fun body =>
    { name := type.name, description := type.description, body }

/-- The definition of a directive. -/
def directiveDefinition (directive : BuiltDirective Value) : Definition where
  name := directive.name
  description := directive.description
  body := .directive (directive.locations.map fun place => some place.id)
    (directive.args.map core.inputValue) directive.repeatable

/-- The definitions of types, up to the first one that cannot be converted. -/
def typeDefinitions : List (BuiltType Value) → Except ConversionFault (List Definition)
  | [] => .ok []
  | first :: rest => do
    let definition ← core.typeDefinition first
    let definitions ← typeDefinitions rest
    return definition :: definitions

/-! ## Schemas -/

/-- Is it the name of a type that not every schema has? -/
def isOwnType (name : String) : Bool :=
  !core.isIntrospectionType name && !core.isStandardScalar name

/-- Is it the name of a directive that not every schema has? -/
def isOwnDirective (name : String) : Bool := !core.isStandardDirective name

/-- The types that not every schema has, in the order in which they are declared. -/
def typesInOrder (schema : BuiltSchema Value) : List (BuiltType Value) :=
  sortedByPlace BuiltType.origin (schema.types.filter fun type => core.isOwnType type.name)

/-- The directives that not every schema has, in the order in which they are declared. -/
def directivesInOrder (schema : BuiltSchema Value) : List (BuiltDirective Value) :=
  sortedByPlace BuiltDirective.origin
    (schema.directives.filter fun directive => core.isOwnDirective directive.name)

/-- The type map of a schema. -/
def typeMap (schema : BuiltSchema Value) : Except ConversionFault TypeMap := do
  let definitions ← core.typeDefinitions (core.typesInOrder schema)
  return TypeMap.ofDefinitions
    (definitions ++ (core.directivesInOrder schema).map core.directiveDefinition)

/-- The fault of a text whose schema cannot be converted. -/
def ConversionFault.ofText (text : String) : ConversionFault → LoadFault
  | unfit fault => .unfitValue fault (fault.spot.bind (excerptAt text))
  | unsupported shown => .unsupported shown

/-- The type map of a text. -/
def load (text : String) : Except LoadFault TypeMap := do
  let schema ← core.schema text
  (core.typeMap schema).mapError (ConversionFault.ofText text)

end FrontEnd

end SchemaDrift
