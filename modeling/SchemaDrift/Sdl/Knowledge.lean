import SchemaDrift.Keyed
import SchemaDrift.Sdl.Document

/-!
# What a document says

* `standardTypes`, `standardDirectives` — what every schema has.
* `Signature` — what has to be known of a directive where it is applied.
* `Knowledge` — what a document says about types and directives.
-/

namespace SchemaDrift.Sdl

/-- The scalars that every schema has. -/
def standardScalars : List String := ["String", "Int", "Float", "Boolean", "ID"]

/-- The types that describe schemas in every schema. -/
def introspectionTypes : List String :=
  ["__Schema", "__Directive", "__DirectiveLocation", "__Type", "__Field", "__InputValue",
   "__EnumValue", "__TypeKind"]

/-- The types that every schema has. -/
def standardTypes : List String := standardScalars ++ introspectionTypes

/-- What has to be known of a directive where it is applied. -/
structure Signature where
  places : List Place
  repeatable : Bool
  /-- All arguments. -/
  args : List String
  /-- The types of the arguments that have to be given. -/
  required : Keyed String TypeRef
  deriving Repr, Inhabited

/-- Does an argument have to be given? -/
def InputNode.isRequired (node : InputNode) : Bool :=
  node.type.isNonNull && node.defaultValue.isNone

/-- The signature of a defined directive. -/
def DirectiveNode.signature (node : DirectiveNode) : Signature where
  places := node.locations
  repeatable := node.repeatable
  args := node.args.map InputNode.name
  required := Keyed.ofList
    ((node.args.filter InputNode.isRequired).map fun arg => (arg.name, arg.type))

/-- The directives that every schema has. -/
def standardDirectives : Keyed String Signature :=
  let condition : Signature :=
    ⟨[.field, .fragmentSpread, .inlineFragment], false, ["if"],
      [("if", .nonNull (.named "Boolean"))]⟩
  [("include", condition),
   ("skip", condition),
   ("deprecated",
    ⟨[.fieldDefinition, .argumentDefinition, .inputFieldDefinition, .enumValue,
      .directiveDefinition], false, ["reason"], []⟩),
   ("specifiedBy",
    ⟨[.scalar], false, ["url"], [("url", .nonNull (.named "String"))]⟩),
   ("oneOf", ⟨[.inputObject], false, [], []⟩)]

/-- The words for the class of a content. -/
def Content.words : Content → String
  | .scalar => "scalar"
  | .object .. => "object"
  | .interface .. => "interface"
  | .union _ => "union"
  | .enum _ => "enum"
  | .input _ => "input object"

/-- What a document says about types and directives: the words for the class of
each defined type, and the signature of each directive. -/
structure Knowledge where
  types : Keyed String String
  directives : Keyed String Signature
  deriving Repr, Inhabited

/-- The definition or extension that a statement about a type is. -/
def Statement.typeNode? : Statement → Option TypeNode
  | .type node => some node
  | _ => none

/-- The definition of a directive that a statement is. -/
def Statement.directiveNode? : Statement → Option DirectiveNode
  | .directive node => some node
  | _ => none

/-- The extension of a directive that a statement is. -/
def Statement.directiveExtension? : Statement → Option DirectiveExtension
  | .directiveExtension node => some node
  | _ => none

/-- The statement about the entry points that a statement is. -/
def Statement.schemaNode? : Statement → Option SchemaNode
  | .schema node => some node
  | _ => none

/-- The definition of a type that a statement is. -/
def Statement.typeDefinition? (statement : Statement) : Option TypeNode :=
  statement.typeNode?.filter fun node => !node.extending

/-- What a document says. -/
def Knowledge.ofDocument (document : Document) : Knowledge where
  types := Keyed.ofList
    ((document.filterMap Statement.typeDefinition?).map fun node =>
      (node.name, node.content.words))
  directives := (document.filterMap Statement.directiveNode?).foldl
    (fun known node => known.put node.name node.signature) standardDirectives

namespace Knowledge

/-- Does the document define a type of the name? -/
def defines (known : Knowledge) (name : String) : Bool := known.types.has name

/-- Is there a type of the name? -/
def hasType (known : Knowledge) (name : String) : Bool :=
  known.defines name || standardTypes.contains name

/-- May the directive be applied only once to one thing?  An unknown one may be
applied at will. -/
def isUnique (known : Knowledge) (directive : String) : Bool :=
  match known.directives.get? directive with
  | some signature => !signature.repeatable
  | none => false

end Knowledge

end SchemaDrift.Sdl
