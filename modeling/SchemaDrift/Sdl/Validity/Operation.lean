import SchemaDrift.Sdl.Validity.Applied

/-!
# Valid operations and fragments

Only what a document says by itself counts here: which fields there are, and which
fragments, is not looked into.  The types that every schema has count as unknown
unless the document defines them.

* `Selection.violations` — what is wrong with a part of what is asked for.
* `OperationNode.violations`, `FragmentNode.violations` — what is wrong with whole
  statements.
-/

namespace SchemaDrift.Sdl

/-- What is wrong with a reference to a type by its name, where the document has to
define the type. -/
def undefinedViolations (known : Knowledge) (name : String) : List Violation :=
  if known.defines name then [] else [.unknownType name]

/-- What is wrong with a parameter of an operation. -/
def ParameterNode.violations (known : Knowledge) (node : ParameterNode) : List Violation :=
  uniquenessViolations known [] node.directives
    ++ undefinedViolations known node.type.namedType
    ++ itemViolations node.defaultValue.toList
    ++ appliedViolations known .variableDefinition node.directives

mutual

/-- What is wrong with a part of what is asked for. -/
def Selection.violations (known : Knowledge) : Selection → List Violation
  | .field _ _ args directives selections =>
    uniquenessViolations known [] directives
      ++ (repeated (args.map Argument.name)).map .repeatedArgument
      ++ itemViolations (args.map Argument.value)
      ++ appliedViolations known .field directives
      ++ selectionViolations known selections
  | .spread _ directives =>
    uniquenessViolations known [] directives
      ++ appliedViolations known .fragmentSpread directives
  | .inline type directives selections =>
    uniquenessViolations known [] directives
      ++ type.toList.flatMap (undefinedViolations known)
      ++ appliedViolations known .inlineFragment directives
      ++ selectionViolations known selections

/-- What is wrong with what is asked for between braces. -/
def selectionViolations (known : Knowledge) : List Selection → List Violation
  | [] => []
  | selection :: rest => selection.violations known ++ selectionViolations known rest

end

/-- What is wrong with an operation. -/
def OperationNode.violations (known : Knowledge) (node : OperationNode) : List Violation :=
  uniquenessViolations known [] node.directives
    ++ node.parameters.flatMap (ParameterNode.violations known)
    ++ appliedViolations known node.kind.place node.directives
    ++ selectionViolations known node.selections

/-- What is wrong with a fragment. -/
def FragmentNode.violations (known : Knowledge) (node : FragmentNode) : List Violation :=
  uniquenessViolations known [] node.directives
    ++ undefinedViolations known node.type
    ++ appliedViolations known .fragmentDefinition node.directives
    ++ selectionViolations known node.selections

end SchemaDrift.Sdl
