import SchemaDrift.Sdl.Grammar.Value

/-!
# Operations and fragments

* `selectionsWithin` — the reader of what is asked for between braces.
* `operationDefinition`, `fragmentDefinition` — the readers of the statements that
  ask for data.
-/

namespace SchemaDrift.Sdl

open Reader

/-! ## Selections -/

/-- The name of a fragment, which is any but `on`. -/
def fragmentName : Reader String := do
  if (← peek).value? = some "on" then unexpected
  name

/-- The readers of what stands inside a selection: values, and the selections
between its own braces. -/
structure Inner where
  value : Reader Literal
  selections : Reader (List Selection)

/-- A field. -/
def fieldSelection (inner : Inner) : Reader Selection := do
  let first ← name
  let (answerName, name) ←
    if ← accept (.punct .colon) then do pure (some first, ← name) else pure (none, first)
  let args ← argumentsOf inner.value
  let directives ← directivesOf inner.value
  let selections ← if (← peek) = .punct .braceOpen then inner.selections else pure []
  return .field answerName name args directives selections

/-- What comes of a fragment of the given type, or of any. -/
def inlineSelection (inner : Inner) (type : Option String) : Reader Selection := do
  let directives ← directivesOf inner.value
  return .inline type directives (← inner.selections)

/-- What comes of a fragment: one written in place, or that of a name. -/
def fragmentSelection (inner : Inner) : Reader Selection := do
  expect .spread
  if ← accept (.name "on") then inlineSelection inner (some (← name))
  else
    match ← peek with
    | .name _ => do
        let name ← fragmentName
        return .spread name (← directivesOf inner.value)
    | _ => inlineSelection inner none

/-- A field, or what comes of a fragment. -/
def selection (inner : Inner) : Reader Selection := do
  if (← peek) = .punct .spread then fragmentSelection inner else fieldSelection inner

/-- What is asked for between braces, with at most so many lists, objects and braces
inside one another. -/
def selectionsWithin : Nat → Reader (List Selection)
  | 0 => refuse .tooDeep
  | room + 1 =>
    any .braceOpen .braceClose
      (selection ⟨valueWithin .varying room, selectionsWithin room⟩)

/-- What is asked for between braces. -/
def selections : Reader (List Selection) := selectionsWithin nestingLimit

/-! ## Statements -/

/-- The directives applied to what asks for data. -/
def varyingDirectives : Reader (List Applied) :=
  directivesOf (valueWithin .varying nestingLimit)

/-- A parameter of an operation. -/
def parameter : Reader ParameterNode := do
  let _ ← description
  expect .dollar
  let name ← name
  expect .colon
  let type ← type
  let defaultValue ← if ← accept (.punct .equals) then some <$> value else pure none
  return { name, type, defaultValue, directives := ← directives }

/-- The class of operations that comes next. -/
def operationKind : Reader OperationKind := do
  let token ← peek
  let spot ← spot
  match OperationKind.ofWord? (← name) with
  | some kind => return kind
  | none => throw ⟨.unexpected token, spot⟩

/-- The name that may come next. -/
def optionalName : Reader (Option String) := do
  match ← peek with
  | .name _ => some <$> name
  | _ => return none

/-- An operation, or the selections of a query by themselves. -/
def operationDefinition : Reader Statement := do
  if (← peek) = .punct .braceOpen then
    return .operation { kind := .query, selections := ← selections }
  let _ ← description
  let kind ← operationKind
  let name ← optionalName
  let parameters ← optionalMany .parenOpen .parenClose parameter
  let directives ← varyingDirectives
  return .operation { kind, name, parameters, directives, selections := ← selections }

/-- A fragment. -/
def fragmentDefinition : Reader Statement := do
  let _ ← description
  expectWord "fragment"
  let name ← fragmentName
  expectWord "on"
  let type ← Reader.name
  let directives ← varyingDirectives
  return .fragment { name, type, directives, selections := ← selections }

end SchemaDrift.Sdl
