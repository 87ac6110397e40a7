import SchemaDrift.Loader.Conversion
import SchemaDrift.Sdl.Build
import SchemaDrift.Sdl.Literal

/-!
# Loading schema documents

The front end that is run: it reads the schema language as release 3.3.2 of graphql-core does.

* `Sdl.frontEnd` — the front end.
* `TypeMap.load` — the type map of a text.
-/

namespace SchemaDrift

/-- The schema of a tree with which nothing is wrong, or what is wrong with its remarks. -/
def Sdl.Tree.build (text : String) (tree : Tree) : Except LoadFault (BuiltSchema Literal) :=
  match tree.document.unfit? text with
  | none => .ok tree.schema
  | some fault => .error fault

/-- The front end of release 3.3.2 of graphql-core.  The value that a literal stands for is kept
as the literal. -/
def Sdl.frontEnd : FrontEnd Sdl.Literal where
  parse := Tree.ofText
  check tree := tree.document.violations
  build := Tree.build
  print := Literal.text
  literalOf? value _ := some value
  isIntrospectionType name := introspectionTypes.contains name
  isStandardScalar name := standardScalars.contains name
  isStandardDirective name := standardDirectives.has name

/-- The type map of a text. -/
def TypeMap.load (text : String) : Except LoadFault TypeMap := Sdl.frontEnd.load text

end SchemaDrift
