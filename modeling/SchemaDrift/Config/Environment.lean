import SchemaDrift.Config.Given
import SchemaDrift.Config.VariableRules
import SchemaDrift.Json.Reader

/-!
# Settings in the environment

A variable names a setting by the names that lead to it, with two underscores
between them.  A variable that names a whole group holds it as JSON.  Upper and
lower case make no difference.  All of this is so unless other rules are given.  Variables are
read like this by pydantic-settings, of which release 2.1 or later is required.

* `Environment` — the variables with their values.
* `VariableFault` — why variables give nothing.
* `Environment.given` — what the variables give.
-/

namespace SchemaDrift

/-- The variables with their values. -/
abbrev Environment := List (String × String)

/-- A text in lower case, as far as its letters are ASCII. -/
def lowerCase (text : String) : String := String.ofList (text.toList.map Char.toLower)

/-- The parts of a text between delimiters, of which the first so many count if there
is a limit.  The first so many characters belong to a delimiter already found. -/
def partsBetween (delimiter : List Char) : Option Nat → Nat → List Char → List (List Char)
  | _, _, [] => [[]]
  | limit, taken + 1, _ :: rest => partsBetween delimiter limit taken rest
  | limit, 0, c :: rest =>
    if limit != some 0 && delimiter.isPrefixOf (c :: rest) then
      [] :: partsBetween delimiter (limit.map fun times => times - 1) (delimiter.length - 1) rest
    else
      match partsBetween delimiter limit 0 rest with
      | [] => [[c]]
      | part :: parts => (c :: part) :: parts

/-! ## Values in groups -/

/-- A value as it is given by a variable. -/
structure Placed where
  value : Given
  /-- Does a value that is there already stay in its place? -/
  yields : Bool := false

namespace Given

/-- Is a value there that another one would replace, though it may yield to it? -/
def occupies : Given → Bool
  | group [] => false
  | _ => true

/-- A value put into nested groups under the names that lead to it.  Where a value
that is no group is in the way, nothing changes. -/
def place (placed : Placed) : List String → Keyed String Given → Keyed String Given
  | [], members => members
  | [name], members =>
      if placed.yields && (members.get? name).any occupies then members
      else members.put name placed.value
  | name :: next :: rest, members =>
    match members.get? name with
    | none => members.put name (group (place placed (next :: rest) []))
    | some (group inner) => members.put name (group (place placed (next :: rest) inner))
    | some _ => members

/-- A group with its members under the names that they are equal to but for case. -/
def renamed (names : List (String × List String)) (members : Keyed String Given) :
    Keyed String Given :=
  Keyed.ofList (members.map fun member =>
    match names.find? fun name => name.1 == lowerCase member.1 with
    | none => member
    | some (name, inner) =>
      match member.2 with
      | group others =>
          (name, group (Keyed.ofList (others.map fun other =>
            if inner.contains (lowerCase other.1) then (lowerCase other.1, other.2) else other)))
      | value => (name, value))

end Given

/-- A group of settings as it is named in the environment. -/
structure VariableGroup where
  name : String
  /-- The names of its settings, each with those below it if it is a group. -/
  names : List (String × List String)

/-- The groups of settings. -/
def variableGroups : List VariableGroup :=
  [⟨"diff", [("fail_on_dangerous", []), ("interceptor", ["url", "timeout_seconds"])]⟩,
   ⟨"output", [("format", []), ("path_label", [])]⟩]

/-! ## Reading variables -/

/-- Why variables give nothing. -/
inductive VariableFault where
  /-- A variable that should hold JSON does not, or no name can be made up. -/
  | malformed
  /-- A name cannot be split. -/
  | unsplittable
  /-- A variable holds JSON that is nested too deep. -/
  | tooDeep
  deriving DecidableEq, Repr, Inhabited

namespace VariableRules

/-- A name as it is compared with others. -/
def folded (rules : VariableRules) (name : String) : String :=
  if rules.caseMatters then name else lowerCase name

/-- The name of a setting that is in no group. -/
def nameOf (rules : VariableRules) (start setting : String) : String :=
  rules.folded (start ++ setting)

/-- The variables under the names by which they are compared; a value that stands for
null is left out of it. -/
def compared (rules : VariableRules) (environment : Environment) : Keyed String (Option String) :=
  let counting := environment.filter fun entry => !(rules.ignoresEmpty && entry.2 == "")
  Keyed.ofList (counting.map fun entry =>
    (rules.folded entry.1, some entry.2 |>.filter fun value => rules.nullWord != some value))

/-- The names that the rest of a variable's name leads through. -/
def pathOf (rules : VariableRules) (rest : List Char) : Except VariableFault (List String) :=
  let parts (limit : Option Nat) : List String :=
    (partsBetween rules.delimiter.toList limit 0 rest).map String.ofList
  match rules.limit with
  | .unlimited => .ok (parts none)
  | .atMost times => .ok (parts (some times))
  | .fractional => .error .unsplittable

/-- How deep the JSON in a variable may be nested. -/
def depthLimit : Nat := 984

/-- The JSON that a variable holds. -/
def jsonOf (value : String) : Except VariableFault Given :=
  match Json.read? .loose value with
  | some json => if json.depth ≤ depthLimit then .ok (.ofJson json) else .error .tooDeep
  | none => .error .malformed

/-- The value of a variable below a group.  One that names a group itself holds
JSON, unless it is empty. -/
def valueBelow (rules : VariableRules) (start : String) (group : VariableGroup)
    (path : List String) (value : Option String) : Except VariableFault Placed :=
  let isGroup (name : String) : Bool := group.names.any fun inner =>
    !inner.2.isEmpty && (inner.1 == name || rules.nameOf start inner.1 == name)
  match path with
  | [name] => do
      let text := value.getD (rules.nullWord.getD "")
      if text != "" && isGroup name then return { value := ← jsonOf text }
      else return { value := (value.map Given.text).getD .nothing, yields := value.isNone }
  | _ => return { value := (value.map Given.text).getD .nothing, yields := value.isNone }

/-- What the variables below a group give. -/
def below (rules : VariableRules) (known : Keyed String (Option String)) (start : String)
    (group : VariableGroup) : Except VariableFault (Keyed String Given) :=
  let opening := (rules.nameOf start group.name ++ rules.delimiter).toList
  let chosen := known.filter fun entry =>
    rules.delimiter != "" && opening.isPrefixOf entry.1.toList
  chosen.foldlM (fun members entry => do
    let path ← rules.pathOf (entry.1.toList.drop opening.length)
    return Given.place (← rules.valueBelow start group path entry.2) path members) []

/-- What the variables give for a group. -/
def group (rules : VariableRules) (known : Keyed String (Option String)) (start : String)
    (group : VariableGroup) : Except VariableFault (List (String × Given)) := do
  let named (members : Keyed String Given) : List (String × Given) :=
    [(group.name, .group (if rules.caseMatters then members
      else Given.renamed group.names members))]
  match known.get? (rules.nameOf start group.name) with
  | none =>
    match ← rules.below known start group with
    | [] => return []
    | members => return named members
  | some none => return [(group.name, .nothing)]
  | some (some value) =>
    match ← jsonOf value with
    | .group members =>
        return named (Given.merge members (← rules.below known start group))
    | .nothing => return []
    | given => return [(group.name, given)]

end VariableRules

/-- What the variables give for all settings. -/
def Environment.given (environment : Environment) (rules : VariableRules) :
    Except VariableFault (Keyed String Given) := do
  match rules.start with
  | none => throw .malformed
  | some start =>
    let known := rules.compared environment
    let groups ← variableGroups.mapM (rules.group known start)
    let version := (known.get? (rules.nameOf start "version")).toList.map fun value =>
      ("version", (value.map Given.text).getD .nothing)
    return version ++ groups.flatten

end SchemaDrift
