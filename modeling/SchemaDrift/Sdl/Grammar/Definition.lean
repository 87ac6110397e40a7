import SchemaDrift.Sdl.Grammar.Operation

/-!
# Definitions and extensions of parts of a schema

* `inputNode`, `fieldNode`, `valueNode` — the readers of members.
* `typeDefinition`, `schemaDefinition`, `directiveDefinition` — the readers of
  definitions.
* `typeExtension`, `schemaExtension`, `directiveExtension` — the readers of
  extensions.
-/

namespace SchemaDrift.Sdl

open Reader

/-! ## Members -/

/-- An argument or input field. -/
def inputNode : Reader InputNode := do
  let description ← description
  let name ← name
  expect .colon
  let type ← type
  let defaultValue ← if ← accept (.punct .equals) then some <$> value else pure none
  let directives ← directives
  return { description, name, type, defaultValue, directives }

/-- The arguments of a field or directive. -/
def arguments : Reader (List InputNode) := optionalMany .parenOpen .parenClose inputNode

/-- A field of an object or interface. -/
def fieldNode : Reader FieldNode := do
  let description ← description
  let name ← name
  let args ← arguments
  expect .colon
  let type ← type
  let directives ← directives
  return { description, name, args, type, directives }

/-- The words that name no enum value. -/
def reservedWords : List String := ["true", "false", "null"]

/-- A value of an enum. -/
def valueNode : Reader ValueNode := do
  let description ← description
  let token ← peek
  if (token.value?.map reservedWords.contains).getD false then refuse (.reserved token)
  let name ← name
  let directives ← directives
  return { description, name, directives }

/-- The place named by the next token. -/
def place : Reader Place := do
  let token ← peek
  let spot ← spot
  match Place.ofId? (← name) with
  | some place => return place
  | none => throw ⟨.unexpected token, spot⟩

/-- A class of operations with the type that answers it. -/
def entryPoint : Reader (OperationKind × String) := do
  let kind ← operationKind
  expect .colon
  return (kind, ← name)

/-! ## Definitions and extensions -/

/-- The interfaces of an object or interface. -/
def interfaces : Reader (List String) := do
  if ← accept (.name "implements") then delimited .amp name else return []

/-- The fields of an object or interface. -/
def fields : Reader (List FieldNode) := optionalMany .braceOpen .braceClose fieldNode

/-- The words that open the definition of a type. -/
def typeWords : List String := ["scalar", "type", "interface", "union", "enum", "input"]

/-- The directives and content of a type that the given word opens. -/
def typeContent (word : String) : Reader (List Applied × Content) := do
  match word with
  | "type" => do
      let interfaces ← interfaces
      let directives ← directives
      return (directives, .object interfaces (← fields))
  | "interface" => do
      let interfaces ← interfaces
      let directives ← directives
      return (directives, .interface interfaces (← fields))
  | "union" => do
      let directives ← directives
      let members ← if ← accept (.punct .equals) then delimited .pipe name else pure []
      return (directives, .union members)
  | "enum" => do
      let directives ← directives
      return (directives, .enum (← optionalMany .braceOpen .braceClose valueNode))
  | "input" => do
      let directives ← directives
      return (directives, .input (← optionalMany .braceOpen .braceClose inputNode))
  | _ => return (← directives, .scalar)

/-- Is there nothing in a content? -/
def Content.isEmpty : Content → Bool
  | .scalar => true
  | .object interfaces fields => interfaces.isEmpty && fields.isEmpty
  | .interface interfaces fields => interfaces.isEmpty && fields.isEmpty
  | .union members => members.isEmpty
  | .enum values => values.isEmpty
  | .input fields => fields.isEmpty

/-- The definition of a type that the given word opens. -/
def typeDefinition (word : String) : Reader Statement := do
  let description ← description
  expectWord word
  let name ← name
  let (directives, content) ← typeContent word
  return .type { extending := false, description, name, directives, content }

/-- An extension of a type that the given word opens.  It has to add something. -/
def typeExtension (word : String) : Reader Statement := do
  expectWord "extend"
  expectWord word
  let name ← name
  let (directives, content) ← typeContent word
  if directives.isEmpty && content.isEmpty then unexpected
  return .type { extending := true, description := none, name, directives, content }

/-- The definition of a schema. -/
def schemaDefinition : Reader Statement := do
  let _ ← description
  expectWord "schema"
  let directives ← directives
  let operations ← many .braceOpen .braceClose entryPoint
  return .schema { extending := false, directives, operations }

/-- An extension of a schema.  It has to add something. -/
def schemaExtension : Reader Statement := do
  expectWord "extend"
  expectWord "schema"
  let directives ← directives
  let operations ← optionalMany .braceOpen .braceClose entryPoint
  if directives.isEmpty && operations.isEmpty then unexpected
  return .schema { extending := true, directives, operations }

/-- The definition of a directive. -/
def directiveDefinition : Reader Statement := do
  let description ← description
  expectWord "directive"
  expect .atSign
  let name ← name
  let args ← arguments
  let directives ← directives
  let repeatable ← accept (.name "repeatable")
  expectWord "on"
  let locations ← delimited .pipe place
  return .directive { description, name, args, directives, repeatable, locations }

/-- An extension of a directive.  It has to add something. -/
def directiveExtension : Reader Statement := do
  expectWord "extend"
  expectWord "directive"
  expect .atSign
  let name ← name
  let directives ← directives
  if directives.isEmpty then unexpected
  return .directiveExtension { name, directives }

end SchemaDrift.Sdl
