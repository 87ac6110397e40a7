import SchemaDrift.Loader.Built
import SchemaDrift.Loader.Fault
import SchemaDrift.Sdl.Validity

/-!
# Building schemas

A valid document stands for a schema.  What extensions add to a type comes after what its
definition has.  A definition of what every schema has counts for nothing with types; with
directives it takes the place of the standard one.

* `InputNode.built`, `FieldNode.built`, `ValueNode.built` — the members.
* `TypeNode.builtContent` — what a type gets from its definition and its extensions.
* `Tree.schema` — the schema of a tree.
* `Document.unfit?` — why no schema can be built.
-/

namespace SchemaDrift.Sdl

/-! ## Members -/

/-- The type that a reference means.  The grammar has no references without a name. -/
def wrapped : TypeRef → Wrapped
  | .absent | .unnamed => .named ""
  | .named name => .named name
  | .list item => .list (wrapped item)
  | .nonNull inner => .nonNull (wrapped inner)

/-- The argument or input field of a node, under its name. -/
def InputNode.built (node : InputNode) : String × BuiltInput Literal :=
  (node.name,
    { type := wrapped node.type
      node := some node
      defaultValue := node.defaultValue
      description := node.description })

/-- The field of a node, under its name. -/
def FieldNode.built (node : FieldNode) : String × BuiltField Literal :=
  (node.name,
    { type := wrapped node.type
      args := node.args.map InputNode.built
      description := node.description
      deprecation := deprecationOf node.directives })

/-- The enum value of a node, under its name. -/
def ValueNode.built (node : ValueNode) : String × BuiltValue :=
  (node.name, { description := node.description, deprecation := deprecationOf node.directives })

/-! ## Types and directives -/

/-- The address at which a scalar is specified: that of the last extension that gives one, or
else that of the definition.  An empty address adds nothing. -/
def TypeNode.address (node : TypeNode) (extensions : List TypeNode) : Option String :=
  extensions.foldl
    (fun address extension =>
      ((specifiedByOf extension.directives).filter (· != "")).or address)
    (specifiedByOf node.directives)

/-- What a type consists of: the members of its definition, and then those of its extensions. -/
def TypeNode.builtContent (node : TypeNode) (extensions : List TypeNode) : BuiltContent Literal :=
  let parts := (node :: extensions).map TypeNode.content
  let fields := (parts.flatMap Content.outputFields).map FieldNode.built
  match node.content with
  | .scalar => .scalar (node.address extensions)
  | .object .. => .object fields (parts.flatMap Content.interfaceNames)
  | .interface .. => .interface fields (parts.flatMap Content.interfaceNames)
  | .union _ => .union (parts.flatMap Content.unionMembers)
  | .enum _ =>
      .enum (match parts.findSome? Content.unfitValue? with
        | some fault => .error fault
        | none => .ok ((parts.flatMap Content.values).map ValueNode.built))
  | .input _ => .input ((parts.flatMap Content.inputFields).map InputNode.built)

/-- The type that a statement defines, unless every schema has it. -/
def PlacedStatement.builtType? (document : Document) (placed : PlacedStatement) :
    Option (BuiltType Literal) :=
  match placed.statement with
  | .type node =>
      if !node.extending && !standardTypes.contains node.name then
        some
          { name := node.name
            origin := some ⟨some placed.offset⟩
            description := node.description
            content := node.builtContent (document.extensionsOf node.name) }
      else none
  | _ => none

/-- The directive that a statement defines. -/
def PlacedStatement.builtDirective? (placed : PlacedStatement) : Option (BuiltDirective Literal) :=
  match placed.statement with
  | .directive node =>
      some
        { name := node.name
          origin := some ⟨some placed.offset⟩
          description := node.description
          locations := node.locations
          args := node.args.map InputNode.built
          repeatable := node.repeatable }
  | _ => none

/-! ## Schemas -/

/-- A type that every schema has.  Its name is all that is made use of. -/
def standardType (name : String) : BuiltType Literal where
  name := name
  origin := none
  description := none
  content := if standardScalars.contains name then .scalar none else .object [] []

/-- A directive that every schema has.  Its name is all that is made use of. -/
def standardDirective (entry : String × Signature) : BuiltDirective Literal where
  name := entry.1
  origin := none
  description := none
  locations := entry.2.places
  args := []
  repeatable := entry.2.repeatable

/-- The schema of a tree. -/
def Tree.schema (tree : Tree) : BuiltSchema Literal :=
  let defined := tree.filterMap PlacedStatement.builtDirective?
  { types := tree.filterMap (PlacedStatement.builtType? tree.document)
      ++ standardTypes.map standardType
    directives := defined
      ++ (standardDirectives.filter fun entry =>
          !(defined.map BuiltDirective.name).contains entry.1).map standardDirective }

/-- What is wrong first with the remarks in a document of the given text, those on the values of
enums aside. -/
def Document.unfit? (document : Document) (text : String) : Option LoadFault :=
  let placeOf (fault : Unfit) : Option Text.Excerpt := fault.spot.bind (excerptAt text)
  ((document.unfitAddress?.or document.unfitReason?).map fun fault =>
      .unfit fault (placeOf fault)).or <|
    document.unfitField?.map fun (type, fault) => .unfitField type fault (placeOf fault)

end SchemaDrift.Sdl
