import SchemaDrift.Sdl.Validity.Applied

/-!
# Valid definitions and extensions

For each thing comes first what is wrong with it as a whole, then what is wrong
with its parts.  A thing and its extensions share the names of their members and
the directives applied to them.

* `InputNode.violations`, `FieldNode.violations`, `ValueNode.violations` — what is
  wrong with members.
* `SchemaNode.violations`, `TypeNode.violations`, `DirectiveNode.violations`,
  `DirectiveExtension.violations` — what is wrong with whole statements.
-/

namespace SchemaDrift.Sdl

/-! ## Members -/

/-- What is wrong with references to types by their names. -/
def nameViolations (known : Knowledge) (names : List String) : List Violation :=
  (names.filter fun name => !known.hasType name).map .unknownType

/-- What is wrong with an argument or input field. -/
def InputNode.violations (known : Knowledge) (place : Place) (node : InputNode) :
    List Violation :=
  uniquenessViolations known [] node.directives
    ++ nameViolations known [node.type.namedType]
    ++ itemViolations node.defaultValue.toList
    ++ appliedViolations known place node.directives

/-- What is wrong with a field. -/
def FieldNode.violations (known : Knowledge) (node : FieldNode) : List Violation :=
  uniquenessViolations known [] node.directives
    ++ node.args.flatMap (InputNode.violations known .argumentDefinition)
    ++ nameViolations known [node.type.namedType]
    ++ appliedViolations known .fieldDefinition node.directives

/-- What is wrong with an enum value. -/
def ValueNode.violations (known : Knowledge) (node : ValueNode) : List Violation :=
  uniquenessViolations known [] node.directives
    ++ appliedViolations known .enumValue node.directives

namespace Content

/-- The place of the directives applied to a type of the content. -/
def place : Content → Place
  | scalar => .scalar
  | object .. => .object
  | interface .. => .interface
  | union _ => .union
  | enum _ => .enum
  | input _ => .inputObject

/-- The names of the fields. -/
def fieldNames : Content → List String
  | object _ fields => fields.map FieldNode.name
  | interface _ fields => fields.map FieldNode.name
  | input fields => fields.map InputNode.name
  | _ => []

/-- The names of the enum values. -/
def valueNames : Content → List String
  | enum values => values.map ValueNode.name
  | _ => []

/-- The enum values. -/
def values : Content → List ValueNode
  | enum values => values
  | _ => []

/-- The fields that may have arguments. -/
def outputFields : Content → List FieldNode
  | object _ fields => fields
  | interface _ fields => fields
  | _ => []

/-- The fields of an input object. -/
def inputFields : Content → List InputNode
  | input fields => fields
  | _ => []

/-- The members of a union. -/
def unionMembers : Content → List String
  | union members => members
  | _ => []

/-- The interfaces. -/
def interfaceNames : Content → List String
  | object interfaces _ => interfaces
  | interface interfaces _ => interfaces
  | _ => []

/-- What is wrong with the members. -/
def memberViolations (known : Knowledge) : Content → List Violation
  | scalar => []
  | object _ fields => fields.flatMap (FieldNode.violations known)
  | interface _ fields => fields.flatMap (FieldNode.violations known)
  | union members => nameViolations known members
  | enum values => values.flatMap (ValueNode.violations known)
  | input fields => fields.flatMap (InputNode.violations known .inputFieldDefinition)

end Content

/-! ## Definitions and extensions -/

/-- What is wrong with a statement about the entry points. -/
def SchemaNode.violations (known : Knowledge) (before : Document) (node : SchemaNode) :
    List Violation :=
  let earlier := before.filterMap Statement.schemaNode?
  let second : List Violation :=
    if !node.extending && earlier.any (fun other => !other.extending) then [.secondSchema]
    else []
  let operations (node : SchemaNode) := node.operations.map fun entry => entry.1.word
  let applied := (earlier.flatMap SchemaNode.directives).map Applied.name
  second
    ++ (repeats (earlier.flatMap operations) (operations node)).map .secondOperation
    ++ uniquenessViolations known applied node.directives
    ++ appliedViolations known .schema node.directives
    ++ nameViolations known (node.operations.map (·.2))

/-- What is wrong with an extension as such. -/
def TypeNode.extensionViolations (known : Knowledge) (node : TypeNode) : List Violation :=
  if !node.extending then []
  else
    match known.types.get? node.name with
    | none => [.extendedNothing node.name]
    | some words =>
        if words = node.content.words then []
        else [.extendedOther node.content.words node.name]

/-- What is wrong with a statement about a type. -/
def TypeNode.violations (known : Knowledge) (before : Document) (node : TypeNode) :
    List Violation :=
  let earlier := (before.filterMap Statement.typeNode?).filter fun other =>
    other.name == node.name
  let second : List Violation :=
    if !node.extending && earlier.any (fun other => !other.extending) then
      [.secondType node.name]
    else []
  let values := earlier.flatMap fun other => other.content.valueNames
  let fields := earlier.flatMap fun other => other.content.fieldNames
  let applied := (earlier.flatMap TypeNode.directives).map Applied.name
  second
    ++ (repeats values node.content.valueNames).map (.secondEnumValue node.name)
    ++ (repeats fields node.content.fieldNames).map (.secondField node.name)
    ++ node.content.outputFields.flatMap (fun field =>
        (repeated (field.args.map InputNode.name)).map
          (.secondArgument (node.name ++ "." ++ field.name)))
    ++ uniquenessViolations known applied node.directives
    ++ node.extensionViolations known
    ++ nameViolations known node.content.interfaceNames
    ++ appliedViolations known node.content.place node.directives
    ++ node.content.memberViolations known

/-- The directives applied to the directive of the name by statements. -/
def appliedToDirective (statements : Document) (name : String) : List Applied :=
  statements.flatMap fun statement =>
    match statement with
    | .directive node => if node.name == name then node.directives else []
    | .directiveExtension node => if node.name == name then node.directives else []
    | _ => []

/-- What is wrong with the definition of a directive. -/
def DirectiveNode.violations (known : Knowledge) (before : Document)
    (node : DirectiveNode) : List Violation :=
  let earlier := (before.filterMap Statement.directiveNode?).map DirectiveNode.name
  let applied := (appliedToDirective before node.name).map Applied.name
  (repeated (node.args.map InputNode.name)).map (.secondArgument ("@" ++ node.name))
    ++ (if earlier.contains node.name then [.secondDirective node.name] else [])
    ++ uniquenessViolations known applied node.directives
    ++ node.args.flatMap (InputNode.violations known .argumentDefinition)
    ++ appliedViolations known .directiveDefinition node.directives

/-- What is wrong with an extension of a directive. -/
def DirectiveExtension.violations (known : Knowledge) (before : Document)
    (node : DirectiveExtension) : List Violation :=
  let applied := (appliedToDirective before node.name).map Applied.name
  uniquenessViolations known applied node.directives
    ++ appliedViolations known .directiveDefinition node.directives

end SchemaDrift.Sdl
