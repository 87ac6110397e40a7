import SchemaDrift.Json.Basic
import SchemaDrift.Keyed
import SchemaDrift.Toml.Basic

/-!
# Values given for settings

Settings are given in files and in the environment.  Both are brought to one form
before they are merged and read.

* `Given` — the values.
* `Given.ofJson`, `Given.ofToml` — the values as they come.
* `Given.merge` — two groups of values, of which one goes before the other.
-/

namespace SchemaDrift

/-- A value given for a setting. -/
inductive Given where
  /-- The null of JSON. -/
  | nothing
  | bool (value : Bool)
  | int (value : Int)
  | real (value : Double)
  | text (value : String)
  | group (members : List (String × Given))
  /-- What no setting can be: a list, a date or a time, a string that is no text. -/
  | other
  deriving Repr, Inhabited

namespace Given

mutual

/-- A JSON value as it is given for a setting.  Of several members of one name the
last counts, in the place of the first. -/
def ofJson : Json → Given
  | .null => nothing
  | .bool value => bool value
  | .int value => int value
  | .real value => real value
  | .text value => text value
  | .broken => other
  | .array _ => other
  | .object members => group (Keyed.ofList (ofJsonMembers members))

/-- Members of a JSON object. -/
def ofJsonMembers : List (String × Json) → List (String × Given)
  | [] => []
  | (name, value) :: rest => (name, ofJson value) :: ofJsonMembers rest

end

mutual

/-- A TOML value as it is given for a setting. -/
def ofToml : Toml → Given
  | .bool value => bool value
  | .int value => int value
  | .real value => real value
  | .text value => text value
  | .moment _ => other
  | .array _ => other
  | .table members => group (ofTomlMembers members)

/-- Members of a TOML table. -/
def ofTomlMembers : List (String × Toml) → List (String × Given)
  | [] => []
  | (name, value) :: rest => (name, ofToml value) :: ofTomlMembers rest

end

mutual

/-- A value that goes before another one.  Two groups are merged member by
member. -/
def before (below : Option Given) : Given → Given
  | group members =>
    match below with
    | some (group others) => group (merge others members)
    | _ => group members
  | nothing => nothing
  | bool value => bool value
  | int value => int value
  | real value => real value
  | text value => text value
  | other => other

/-- Members of one group with those of another that goes before it. -/
def merge (below : Keyed String Given) : List (String × Given) → Keyed String Given
  | [] => below
  | (name, value) :: rest => merge (below.put name (before (below.get? name) value)) rest

end

end Given

end SchemaDrift
