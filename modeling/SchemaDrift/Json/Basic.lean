import SchemaDrift.Decimal.Basic

/-!
# JSON values

* `Json` — the values.
* `Json.get?` — a member of an object; of several of one name the last counts.
* `Json.depth` — how deep arrays and objects are nested.
-/

namespace SchemaDrift

/-- A JSON value. -/
inductive Json where
  | null
  | bool (value : Bool)
  | int (value : Int)
  /-- A number with a fraction or exponent. -/
  | real (value : Double)
  | text (value : String)
  /-- A string with half of a surrogate pair in it, which is no text. -/
  | broken
  | array (items : List Json)
  | object (members : List (String × Json))
  deriving Repr, Inhabited

namespace Json

/-- The value of the last member of the given name, if the value is an object
that has one. -/
def get? (json : Json) (name : String) : Option Json :=
  match json with
  | object members => (members.reverse.find? fun member => member.1 == name).map (·.2)
  | _ => none

mutual

/-- How deep arrays and objects are nested.  Empty ones do not count. -/
def depth : Json → Nat
  | array [] => 0
  | array (first :: rest) => max first.depth (depthOfItems rest) + 1
  | object [] => 0
  | object ((_, first) :: rest) => max first.depth (depthOfMembers rest) + 1
  | _ => 0

/-- How deep the deepest of some items is. -/
def depthOfItems : List Json → Nat
  | [] => 0
  | item :: rest => max item.depth (depthOfItems rest)

/-- How deep the deepest of some members is. -/
def depthOfMembers : List (String × Json) → Nat
  | [] => 0
  | (_, value) :: rest => max value.depth (depthOfMembers rest)

end

/-- A text that may be missing. -/
def ofOption : Option String → Json
  | some value => text value
  | none => null

end Json

end SchemaDrift
