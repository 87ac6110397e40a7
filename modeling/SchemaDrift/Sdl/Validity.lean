import SchemaDrift.Sdl.Validity.Definition
import SchemaDrift.Sdl.Validity.Operation

/-!
# Valid documents

A document is valid if its names are unique where they have to be and everything
it refers to is there.  Violations are reported in the order of the document:
for each thing first what is wrong with it as a whole, then what is wrong with
its parts.

* `Document.violations` — all that is wrong with a document.
-/

namespace SchemaDrift.Sdl

/-- What is wrong with a statement that comes after others. -/
def Statement.violations (known : Knowledge) (before : Document) :
    Statement → List Violation
  | .schema node => node.violations known before
  | .type node => node.violations known before
  | .directive node => node.violations known before
  | .directiveExtension node => node.violations known before
  | .operation node => node.violations known
  | .fragment node => node.violations known

/-- What is wrong with statements that come after others. -/
def violationsAfter (known : Knowledge) : (before : Document) → Document → List Violation
  | _, [] => []
  | before, statement :: rest =>
      statement.violations known before
        ++ violationsAfter known (before ++ [statement]) rest

/-- All that is wrong with a document, in order. -/
def Document.violations (document : Document) : List Violation :=
  violationsAfter (Knowledge.ofDocument document) [] document

end SchemaDrift.Sdl
