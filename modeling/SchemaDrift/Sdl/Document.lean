import SchemaDrift.Schema.TypeRef

/-!
# Documents

A document is a list of statements.  Most of them define or extend a part of a
schema.  Operations and fragments, which ask a schema for data, may stand among
them.

* `Literal` — the values that may be written in a document.
* `Spot` — where something stands in a document.
* `Argument`, `Applied` — a value given to a parameter, and a directive applied to
  something.
* `Place` — the places where a directive may be applied.
* `Selection`, `OperationNode`, `FragmentNode` — what asks for data.
* `Statement`, `Document` — the statements, and the whole.
* `Tree` — a document with the places of its statements.
-/

namespace SchemaDrift.Sdl

/-- A value written in a document. -/
inductive Literal where
  /-- A number as it is written. -/
  | number (text : String)
  /-- A name: `true`, `false`, `null` or an enum value. -/
  | word (text : String)
  /-- A string in quotes. -/
  | string (value : String)
  /-- A string in triple quotes. -/
  | block (value : String)
  /-- The value that an operation is given under a name. -/
  | reference (name : String)
  | list (items : List Literal)
  | object (fields : List (String × Literal))
  deriving Repr, Inhabited

/-- Where something stands in a document: the number of tokens from its first one
to the end. -/
abbrev Spot := Nat

/-- A value given to a parameter. -/
structure Argument where
  name : String
  value : Literal
  /-- Where the value stands. -/
  spot : Spot
  deriving Repr, Inhabited

/-- A directive applied with arguments. -/
structure Applied where
  name : String
  args : List Argument := []
  /-- Where the at sign stands. -/
  spot : Spot
  deriving Repr, Inhabited

/-- The places where a directive may be applied. -/
inductive Place where
  | query
  | mutation
  | subscription
  | field
  | fragmentDefinition
  | fragmentSpread
  | inlineFragment
  | variableDefinition
  | fragmentVariableDefinition
  | schema
  | scalar
  | object
  | fieldDefinition
  | argumentDefinition
  | interface
  | union
  | enum
  | enumValue
  | inputObject
  | inputFieldDefinition
  | directiveDefinition
  deriving DecidableEq, Repr, Inhabited

namespace Place

/-- The name of a place in documents. -/
def id : Place → String
  | query => "QUERY"
  | mutation => "MUTATION"
  | subscription => "SUBSCRIPTION"
  | field => "FIELD"
  | fragmentDefinition => "FRAGMENT_DEFINITION"
  | fragmentSpread => "FRAGMENT_SPREAD"
  | inlineFragment => "INLINE_FRAGMENT"
  | variableDefinition => "VARIABLE_DEFINITION"
  | fragmentVariableDefinition => "FRAGMENT_VARIABLE_DEFINITION"
  | schema => "SCHEMA"
  | scalar => "SCALAR"
  | object => "OBJECT"
  | fieldDefinition => "FIELD_DEFINITION"
  | argumentDefinition => "ARGUMENT_DEFINITION"
  | interface => "INTERFACE"
  | union => "UNION"
  | enum => "ENUM"
  | enumValue => "ENUM_VALUE"
  | inputObject => "INPUT_OBJECT"
  | inputFieldDefinition => "INPUT_FIELD_DEFINITION"
  | directiveDefinition => "DIRECTIVE_DEFINITION"

/-- All places. -/
def all : List Place :=
  [query, mutation, subscription, field, fragmentDefinition, fragmentSpread,
   inlineFragment, variableDefinition, fragmentVariableDefinition, schema, scalar,
   object, fieldDefinition, argumentDefinition, interface, union, enum, enumValue,
   inputObject, inputFieldDefinition, directiveDefinition]

/-- The place of a name. -/
def ofId? (text : String) : Option Place := all.find? fun place => place.id == text

/-- The words for a place in messages: its name in lower case, with spaces. -/
def words (place : Place) : String :=
  place.id.map fun c => if c = '_' then ' ' else c.toLower

end Place

/-! ## Parts of a schema -/

/-- An argument or input field. -/
structure InputNode where
  description : Option String
  name : String
  type : TypeRef
  defaultValue : Option Literal
  directives : List Applied
  deriving Repr, Inhabited

/-- A field of an object or interface. -/
structure FieldNode where
  description : Option String
  name : String
  args : List InputNode
  type : TypeRef
  directives : List Applied
  deriving Repr, Inhabited

/-- A value of an enum. -/
structure ValueNode where
  description : Option String
  name : String
  directives : List Applied
  deriving Repr, Inhabited

/-- What a type statement says of a type. -/
inductive Content where
  | scalar
  | object (interfaces : List String) (fields : List FieldNode)
  | interface (interfaces : List String) (fields : List FieldNode)
  | union (members : List String)
  | enum (values : List ValueNode)
  | input (fields : List InputNode)
  deriving Repr, Inhabited

/-- A statement about a type: its definition, or an extension of it. -/
structure TypeNode where
  extending : Bool
  description : Option String
  name : String
  directives : List Applied
  content : Content
  deriving Repr, Inhabited

/-- The definition of a directive. -/
structure DirectiveNode where
  description : Option String
  name : String
  args : List InputNode
  directives : List Applied
  repeatable : Bool
  locations : List Place
  deriving Repr, Inhabited

/-- An extension of a directive: directives applied to it. -/
structure DirectiveExtension where
  name : String
  directives : List Applied
  deriving Repr, Inhabited

/-- The classes of operations. -/
inductive OperationKind where
  | query
  | mutation
  | subscription
  deriving DecidableEq, Repr, Inhabited

namespace OperationKind

/-- The word for a class of operations. -/
def word : OperationKind → String
  | query => "query"
  | mutation => "mutation"
  | subscription => "subscription"

/-- The class of operations of a word. -/
def ofWord? (text : String) : Option OperationKind :=
  [query, mutation, subscription].find? fun kind => kind.word == text

/-- The place of the directives applied to an operation. -/
def place : OperationKind → Place
  | query => .query
  | mutation => .mutation
  | subscription => .subscription

end OperationKind

/-- The definition or extension of the entry points of a schema: for each
class of operations the type that answers it. -/
structure SchemaNode where
  extending : Bool
  directives : List Applied
  operations : List (OperationKind × String)
  deriving Repr, Inhabited

/-! ## What asks for data -/

/-- A parameter of an operation. -/
structure ParameterNode where
  name : String
  type : TypeRef
  defaultValue : Option Literal
  directives : List Applied
  deriving Repr, Inhabited

/-- A part of the data that is asked for. -/
inductive Selection where
  /-- A field, perhaps under another name, with what is asked of its value. -/
  | field (answerName : Option String) (name : String) (args : List Argument)
      (directives : List Applied) (selections : List Selection)
  /-- What the fragment of the name asks for. -/
  | spread (name : String) (directives : List Applied)
  /-- What is asked for on one type, or on any. -/
  | inline (type : Option String) (directives : List Applied)
      (selections : List Selection)
  deriving Repr, Inhabited

/-- An operation on a schema. -/
structure OperationNode where
  kind : OperationKind
  name : Option String := none
  parameters : List ParameterNode := []
  directives : List Applied := []
  selections : List Selection
  deriving Repr, Inhabited

/-- A part of operations with a name of its own. -/
structure FragmentNode where
  name : String
  type : String
  directives : List Applied
  selections : List Selection
  deriving Repr, Inhabited

/-! ## Whole documents -/

/-- A statement of a document. -/
inductive Statement where
  | schema (node : SchemaNode)
  | type (node : TypeNode)
  | directive (node : DirectiveNode)
  | directiveExtension (node : DirectiveExtension)
  | operation (node : OperationNode)
  | fragment (node : FragmentNode)
  deriving Repr, Inhabited

/-- The statements of a document in order. -/
abbrev Document := List Statement

/-- A statement, and where it starts with its description: the number of characters before it. -/
structure PlacedStatement where
  statement : Statement
  offset : Nat
  deriving Repr, Inhabited

/-- The statements of a text in order, each with its place. -/
abbrev Tree := List PlacedStatement

/-- The document without the places. -/
def Tree.document (tree : Tree) : Document := tree.map PlacedStatement.statement

end SchemaDrift.Sdl
