import SchemaDrift.Loader.Conversion
import SchemaDrift.Proofs.Loader.Definitions
import SchemaDrift.Sdl.Lexeme

/-!
# What front ends are relied on for

A type map depends on a front end only as far as this does what is documented of it.  Each of
these facts has a name of its own here, and none of them is about type maps.

* `Wrapped.Follows`, `BuiltInput.Follows`, `BuiltField.Follows`, `BuiltContent.Follows`,
  `BuiltType.Follows`, `BuiltDirective.Follows` — a part of a schema is built as the document has
  it.
* `BuiltSchema.Merges` — a schema has what its tree defines, with the extensions merged into it,
  in whichever order.
* `Tree.moved`, `BuiltSchema.moved` — a tree and a schema at other places.
* `TakesAlong` — places are moved along with the tokens that stand there.
* `FrontEnd.Lawful` — what a front end has to do.
-/

namespace SchemaDrift

open Sdl

variable {Value : Type}

/-! ## Built as written -/

/-- The type is wrapped as a reference has it. -/
inductive Wrapped.Follows : Wrapped → TypeRef → Prop where
  | named (name : String) : Follows (.named name) (.named name)
  | list {item : Wrapped} {ref : TypeRef} : Follows item ref → Follows (.list item) (.list ref)
  | nonNull {inner : Wrapped} {ref : TypeRef} :
      Follows inner ref → Follows (.nonNull inner) (.nonNull ref)

/-- An argument or input field is built from a node, and stands under the name of this.  Without
a default in the node it has none. -/
structure BuiltInput.Follows (node : InputNode) (entry : String × BuiltInput Value) : Prop where
  name : entry.1 = node.name
  type : entry.2.type.Follows node.type
  origin : entry.2.node = some node
  noDefault : node.defaultValue = none → entry.2.defaultValue = none

/-- So is a field, with its arguments in the order in which they are written. -/
structure BuiltField.Follows (node : FieldNode) (entry : String × BuiltField Value) : Prop where
  name : entry.1 = node.name
  type : entry.2.type.Follows node.type
  args : List.Forall₂ BuiltInput.Follows node.args entry.2.args

/-- The class of a type, if it is one of the known ones. -/
def BuiltContent.kind? : BuiltContent Value → Option Kind
  | .object .. => some .object
  | .interface .. => some .interface
  | .union _ => some .union
  | .enum _ => some .enum
  | .input _ => some .input
  | .scalar _ => some .scalar
  | .other _ => none

/-- A type has the members that the parts of it list, one part after the other. -/
def BuiltContent.Follows (parts : List Content) : BuiltContent Value → Prop
  | .object fields interfaces | .interface fields interfaces =>
      List.Forall₂ BuiltField.Follows (parts.flatMap Content.outputFields) fields ∧
        interfaces = parts.flatMap Content.interfaceNames
  | .union members => members = parts.flatMap Content.unionMembers
  | .enum values => ∀ found, values = .ok found →
      found.map Prod.fst = parts.flatMap Content.valueNames
  | .input fields => List.Forall₂ BuiltInput.Follows (parts.flatMap Content.inputFields) fields
  | .scalar _ => True
  | .other _ => False

/-- A type is built from the statement that defines it, at its place, and from the extensions of
the type. -/
def BuiltType.Follows (document : Document) (placed : PlacedStatement) (type : BuiltType Value) :
    Prop :=
  ∃ node, placed.statement = .type node ∧ type.name = node.name ∧
    type.origin = some ⟨some placed.offset⟩ ∧ type.content.kind? = some node.content.kind ∧
      type.content.Follows (document.partsOf node)

/-- A directive is built from the statement that defines it, at its place. -/
def BuiltDirective.Follows (placed : PlacedStatement) (directive : BuiltDirective Value) : Prop :=
  ∃ node, placed.statement = .directive node ∧ directive.name = node.name ∧
    directive.origin = some ⟨some placed.offset⟩ ∧ directive.locations = node.locations ∧
      List.Forall₂ BuiltInput.Follows node.args directive.args ∧
        directive.repeatable = node.repeatable

/-! ## What is defined -/

namespace FrontEnd

variable (core : FrontEnd Value)

/-- A definition of a type that not every schema has. -/
def definesType : Statement → Bool
  | .type node => !node.extending && core.isOwnType node.name
  | _ => false

/-- A definition of a directive that not every schema has. -/
def definesDirective : Statement → Bool
  | .directive node => core.isOwnDirective node.name
  | _ => false

/-- A definition of what not every schema has. -/
def defines (statement : Statement) : Bool :=
  core.definesType statement || core.definesDirective statement

/-- The definitions of types in a tree. -/
def ownTypes (tree : Tree) : List PlacedStatement :=
  tree.filter fun placed => core.definesType placed.statement

/-- The definitions of directives in a tree. -/
def ownDirectives (tree : Tree) : List PlacedStatement :=
  tree.filter fun placed => core.definesDirective placed.statement

variable {core}

theorem exists_node_of_definesType {statement : Statement}
    (h : core.definesType statement = true) :
    ∃ node, statement = .type node ∧ node.extending = false ∧ core.isOwnType node.name = true := by
  cases statement with
  | type node =>
    obtain ⟨hextending, hown⟩ := Bool.and_eq_true_iff.1 h
    exact ⟨node, rfl, Bool.not_eq_true' _ ▸ hextending, hown⟩
  | _ => exact absurd h nofun

theorem exists_node_of_definesDirective {statement : Statement}
    (h : core.definesDirective statement = true) :
    ∃ node, statement = .directive node ∧ core.isOwnDirective node.name = true := by
  cases statement with
  | directive node => exact ⟨node, rfl, h⟩
  | _ => exact absurd h nofun

end FrontEnd

/-- A schema has the types and directives that a tree defines, each built from its statement, and
besides only what every schema has.  Nothing is said of the order in which they come. -/
structure BuiltSchema.Merges (core : FrontEnd Value) (tree : Tree) (schema : BuiltSchema Value) :
    Prop where
  types : ∃ own standard, schema.types.Perm (own ++ standard) ∧
    List.Forall₂ (BuiltType.Follows tree.document) (core.ownTypes tree) own ∧
      ∀ type ∈ standard, core.isOwnType type.name = false
  directives : ∃ own standard, schema.directives.Perm (own ++ standard) ∧
    List.Forall₂ BuiltDirective.Follows (core.ownDirectives tree) own ∧
      ∀ directive ∈ standard, core.isOwnDirective directive.name = false

/-! ## Other places -/

namespace Sdl.Tree

/-- The same statements at other places: each is where its old place is moved to. -/
def moved (move : Nat → Nat) (tree : Tree) : Tree :=
  tree.map fun placed => { placed with offset := move placed.offset }

@[simp] theorem document_moved (move : Nat → Nat) (tree : Tree) :
    (tree.moved move).document = tree.document := by
  simp [document, moved]

end Sdl.Tree

/-- The same node at another place. -/
def SourceNode.moved (move : Nat → Nat) (origin : SourceNode) : SourceNode := ⟨origin.start.map move⟩

/-- The same type, built from a node at another place. -/
def BuiltType.moved (move : Nat → Nat) (type : BuiltType Value) : BuiltType Value :=
  { type with origin := type.origin.map (SourceNode.moved move) }

/-- The same directive, built from a node at another place. -/
def BuiltDirective.moved (move : Nat → Nat) (directive : BuiltDirective Value) :
    BuiltDirective Value :=
  { directive with origin := directive.origin.map (SourceNode.moved move) }

/-- The same schema, built from nodes at other places. -/
def BuiltSchema.moved (move : Nat → Nat) (schema : BuiltSchema Value) : BuiltSchema Value where
  types := schema.types.map (BuiltType.moved move)
  directives := schema.directives.map (BuiltDirective.moved move)

/-- A token of the one text stands at some place; the same token of the other text stands where
this place is moved to. -/
def TakesAlong (old new : String) (move : Nat → Nat) : Prop :=
  ∀ (index : Nat) (one other : Lexeme), (lexemes old.toList)[index]? = some one →
    (lexemes new.toList)[index]? = some other → move one.offset = other.offset

/-! ## Front ends -/

/-- What a front end has to do.  This is documented of graphql-core, and it holds of the front
end of release 3.3.2. -/
structure FrontEnd.Lawful (core : FrontEnd Value) : Prop where
  /-- The statements that are read are such as the grammar has. -/
  grammar : ∀ {text tree}, core.parse text = .ok tree →
    ∀ statement ∈ tree.document, statement.Sound
  /-- Each of them starts after those before it, -/
  order : ∀ {text tree}, core.parse text = .ok tree →
    tree.Pairwise fun one other => one.offset < other.offset
  /-- and with a token of the text. -/
  places : ∀ {text tree}, core.parse text = .ok tree →
    ∀ placed ∈ tree, ∃ lexeme ∈ lexemes text.toList, lexeme.offset = placed.offset
  /-- Only their places depend on more than the tokens of the text, and they are at the same
  tokens. -/
  tokens : ∀ {old new tree}, core.parse old = .ok tree →
    (lexemes new.toList).map Lexeme.token = (lexemes old.toList).map Lexeme.token →
      ∃ move, TakesAlong old new move ∧ core.parse new = .ok (tree.moved move)
  /-- The rules for documents keep names apart. -/
  rules : ∀ {tree}, core.check tree = [] → tree.document.Coherent
  /-- They are not about places. -/
  check_moved : ∀ (move : Nat → Nat) (tree : Tree), core.check (tree.moved move) = core.check tree
  /-- Extensions are merged into the types that they extend. -/
  merging : ∀ {text tree schema}, core.parse text = .ok tree → core.check tree = [] →
    core.build text tree = .ok schema → schema.Merges core tree
  /-- A schema knows places from its tree only. -/
  build_moved : ∀ {old new tree schema} (move : Nat → Nat), core.build old tree = .ok schema →
    core.build new (tree.moved move) = .ok (schema.moved move)

end SchemaDrift
