import SchemaDrift.Sdl.Knowledge
import SchemaDrift.Sdl.Violation

/-!
# Valid values and applied directives

* `repeats`, `repeated` — names that occur again.
* `Literal.violations` — what is wrong with a value.
* `Applied.violations` — what is wrong with a directive where it is applied.
* `uniquenessViolations` — which directives are applied too often.
-/

namespace SchemaDrift.Sdl

/-! ## Names that occur again -/

/-- The names that occur in the list seen before or earlier in their own list. -/
def repeats : (seen : List String) → List String → List String
  | _, [] => []
  | seen, name :: rest =>
    if seen.contains name then name :: repeats seen rest
    else repeats (name :: seen) rest

/-- The names that occur more than once, each given once, in the order in which
they first occur. -/
def repeated : List String → List String
  | [] => []
  | name :: rest =>
    let others := repeated rest
    if rest.contains name then name :: others.filter (· != name) else others

/-! ## Values and applied directives -/

mutual

/-- What is wrong with a value: input fields given twice, the outer ones first
where they come first. -/
def Literal.violations : Literal → List Violation
  | .list items => itemViolations items
  | .object fields => fieldViolations [] fields
  | _ => []

/-- What is wrong with the items of a list. -/
def itemViolations : List Literal → List Violation
  | [] => []
  | item :: rest => item.violations ++ itemViolations rest

/-- What is wrong with the fields of an object, some names of which were seen. -/
def fieldViolations : List String → List (String × Literal) → List Violation
  | _, [] => []
  | seen, (name, value) :: rest =>
    (if seen.contains name then [.repeatedInputField name] else [])
      ++ value.violations ++ fieldViolations (name :: seen) rest

end

/-- What is wrong with a directive where it is applied. -/
def Applied.violations (known : Knowledge) (place : Place) (applied : Applied) :
    List Violation :=
  let given := applied.args.map Argument.name
  let signature := known.directives.get? applied.name
  let placing : List Violation :=
    match signature with
    | none => [.unknownDirective applied.name]
    | some s =>
        if s.places.contains place then [] else [.misplacedDirective applied.name place]
  let unknown : List Violation :=
    match signature with
    | none => []
    | some s => (given.filter fun arg => !s.args.contains arg).map
        (Violation.unknownArgument applied.name)
  let missing : List Violation :=
    match signature with
    | none => []
    | some s => (s.required.filter fun arg => !given.contains arg.1).map fun arg =>
        .missingArgument applied.name arg.1 arg.2
  placing ++ unknown ++ (repeated given).map .repeatedArgument
    ++ itemViolations (applied.args.map Argument.value) ++ missing

/-- What is wrong with the directives applied to one thing, each by itself. -/
def appliedViolations (known : Knowledge) (place : Place) (directives : List Applied) :
    List Violation :=
  directives.flatMap (Applied.violations known place)

/-- The directives that may be applied to one thing only once and are applied to
it again, given the names of those that were applied to it elsewhere. -/
def uniquenessViolations (known : Knowledge) (seen : List String)
    (directives : List Applied) : List Violation :=
  let names := (directives.map Applied.name).filter known.isUnique
  (repeats seen names).map .repeatedDirective

end SchemaDrift.Sdl
