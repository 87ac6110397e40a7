import SchemaDrift.Loader.Built
import SchemaDrift.Loader.Fault

/-!
# Front ends

What reads the schema language is a part of its own: it makes a tree of a text, looks for what
is wrong with the tree, and builds a schema of it, in which extensions are merged into the types
that they extend.  This is the work of graphql-core, of which release 3.2 or later is required.

* `FrontEnd` — what is asked of a front end.
* `FrontEnd.schema` — the schema of a text, or why there is none.
-/

namespace SchemaDrift

open Sdl

/-- A front end for the schema language.  Its schemas hold default values of the given type. -/
structure FrontEnd (Value : Type) where
  /-- The statements of a text. -/
  parse : String → Except LocatedFault Tree
  /-- What is wrong with a tree. -/
  check : Tree → List Violation
  /-- The schema of a tree with which nothing is wrong.  The text serves to show faults. -/
  build : String → Tree → Except LoadFault (BuiltSchema Value)
  /-- A literal as text. -/
  print : Literal → String
  /-- The literal for a value of a type, if there is one. -/
  literalOf? : Value → Wrapped → Option Literal
  /-- Is it the name of a type that describes schemas? -/
  isIntrospectionType : String → Bool
  /-- Is it the name of a scalar that every schema has? -/
  isStandardScalar : String → Bool
  /-- Is it the name of a directive that every schema has? -/
  isStandardDirective : String → Bool

/-- The schema of a text. -/
def FrontEnd.schema {Value : Type} (core : FrontEnd Value) (text : String) :
    Except LoadFault (BuiltSchema Value) :=
  match core.parse text with
  | .error fault => .error (.grammar fault)
  | .ok tree =>
    match core.check tree with
    | [] => core.build text tree
    | violations => .error (.invalid violations)

end SchemaDrift
