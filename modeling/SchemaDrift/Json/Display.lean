import SchemaDrift.Decimal.Shortest
import SchemaDrift.Json.Basic
import SchemaDrift.Text.Quoted

/-!
# Values in messages

* `Json.shown` — a value as it is shown inside another one.
* `Json.display` — a value as it is shown by itself.
-/

namespace SchemaDrift.Json

mutual

/-- A value as it is shown inside another one: texts stand in quotes. -/
def shown : Json → String
  | null => "None"
  | bool value => if value then "True" else "False"
  | int value => toString value
  | real value => value.text
  | text value => Text.quoted value
  | broken => Text.quoted ""
  | array items => "[" ++ String.intercalate ", " (shownItems items) ++ "]"
  | object members =>
      "\x7b" ++ String.intercalate ", " (shownMembers members) ++ "\x7d"

/-- Items as they are shown. -/
def shownItems : List Json → List String
  | [] => []
  | item :: rest => item.shown :: shownItems rest

/-- Members as they are shown. -/
def shownMembers : List (String × Json) → List String
  | [] => []
  | (name, value) :: rest => (Text.quoted name ++ ": " ++ value.shown) :: shownMembers rest

end

/-- A value as it is shown by itself: a text as it is. -/
def display : Json → String
  | text value => value
  | json => json.shown

end SchemaDrift.Json
