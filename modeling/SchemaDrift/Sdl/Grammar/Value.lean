import SchemaDrift.Sdl.Reader

/-!
# Types, values and applied directives

Lists, objects and selections may stand inside one another, but only to a certain
depth; the room left is passed inwards and is the measure of the readers.

* `nestingLimit` — how deep they may stand inside one another.
* `type`, `value` — the readers of types and values.
* `description`, `directives` — the readers of what stands around other things.
-/

namespace SchemaDrift.Sdl

open Reader

/-- The most lists, objects or selections that may stand inside one another. -/
def nestingLimit : Nat := 200

/-! ## Types -/

/-- A type reference, given the reader of the items of a list. -/
def typeRefOf (item : Reader TypeRef) : Reader TypeRef := do
  let inner ←
    if ← accept (.punct .bracketOpen) then do
      let item ← item
      expect .bracketClose
      pure (TypeRef.list item)
    else do pure (TypeRef.named (← name))
  if ← accept (.punct .bang) then return .nonNull inner else return inner

/-- A type reference with at most so many lists.  One more is refused after its
opening bracket. -/
def typeRefWithin : Nat → Reader TypeRef
  | 0 => typeRefOf (refuse .tooDeep)
  | room + 1 => typeRefOf (typeRefWithin room)

/-- A type reference. -/
def type : Reader TypeRef := typeRefWithin nestingLimit

/-! ## Values -/

/-- May values differ from one run of an operation to the next?  Then they may hold
references. -/
inductive Constancy where
  | constant
  | varying
  deriving DecidableEq, Repr

/-- A reference to a value, where there may be one. -/
def reference (constancy : Constancy) : Reader Literal := do
  let start ← spot
  advance
  match constancy, ← peek with
  | .varying, _ => return .reference (← name)
  | .constant, .name text => throw ⟨.strayVariable text, start⟩
  | .constant, _ => throw ⟨.unexpected (.punct .dollar), start⟩

/-- A value that is no list and no object. -/
def simpleValue (constancy : Constancy) : Reader Literal := do
  match ← peek with
  | .int text => do advance; return .number text
  | .float text => do advance; return .number text
  | .string content => do advance; return .string content
  | .block content => do advance; return .block content
  | .name text => do advance; return .word text
  | .punct .dollar => reference constancy
  | _ => unexpected

/-- A key and a value, given the reader of the value. -/
def entry (item : Reader Literal) : Reader (String × Literal) := do
  let key ← name
  expect .colon
  return (key, ← item)

/-- A value with at most so many lists and objects inside one another. -/
def valueWithin (constancy : Constancy) : Nat → Reader Literal
  | 0 => do
    match ← peek with
    | .punct .bracketOpen => refuse .tooDeep
    | .punct .braceOpen => refuse .tooDeep
    | _ => simpleValue constancy
  | room + 1 => do
    match ← peek with
    | .punct .bracketOpen =>
        return .list (← any .bracketOpen .bracketClose (valueWithin constancy room))
    | .punct .braceOpen =>
        return .object (← any .braceOpen .braceClose (entry (valueWithin constancy room)))
    | _ => simpleValue constancy

/-- A value that is always the same. -/
def value : Reader Literal := valueWithin .constant nestingLimit

/-! ## Applied directives -/

/-- An argument, given the reader of its value. -/
def argument (item : Reader Literal) : Reader Argument := do
  let name ← name
  expect .colon
  let spot ← spot
  return { name, value := ← item, spot }

/-- Arguments in parentheses, or none, given the reader of their values. -/
def argumentsOf (item : Reader Literal) : Reader (List Argument) :=
  optionalMany .parenOpen .parenClose (argument item)

/-- An applied directive, given the reader of the values in it. -/
def applied (item : Reader Literal) : Reader Applied := do
  let spot ← spot
  expect .atSign
  let name ← name
  return { name, args := ← argumentsOf item, spot }

/-- Applied directives up to the first token that starts none, at most so many. -/
def appliedWithin (item : Reader Literal) : Nat → Reader (List Applied)
  | 0 => unexpected
  | bound + 1 => do
    if (← peek) = .punct .atSign then do
      let first ← applied item
      let rest ← appliedWithin item bound
      return first :: rest
    else return []

/-- The directives applied to something, given the reader of the values in them. -/
def directivesOf (item : Reader Literal) : Reader (List Applied) := do
  appliedWithin item (← bound)

/-- The directives applied to a part of a schema. -/
def directives : Reader (List Applied) := directivesOf value

/-! ## Descriptions -/

/-- The description that may stand before something. -/
def description : Reader (Option String) := do
  match ← peek with
  | .string content => do advance; return some content
  | .block content => do advance; return some content
  | _ => return none

end SchemaDrift.Sdl
