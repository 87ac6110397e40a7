import SchemaDrift.Keyed
import SchemaDrift.Toml.Basic

/-!
# How variables name settings

A file with settings may also say how variables are read: how their names are made
up, and which values count for nothing.  It says so under names that start with an
underscore.  These are the rules of pydantic-settings, of which release 2.1 or later is
required.

* `SplitLimit` — how often names are split.
* `VariableRules` — how variables are read.
* `VariableRules.ofToml` — the rules that a file gives.
-/

namespace SchemaDrift

/-- How often the name of a variable is split. -/
inductive SplitLimit where
  | unlimited
  | atMost (times : Nat)
  /-- The limit is no whole number, so that no name can be split. -/
  | fractional
  deriving DecidableEq, Repr, Inhabited

/-- How variables are read. -/
structure VariableRules where
  /-- Does the case of names matter? -/
  caseMatters : Bool := false
  /-- Are empty variables left out? -/
  ignoresEmpty : Bool := false
  /-- What all names start with, unless it is no text. -/
  start : Option String := some "SCHEMAGUARD_"
  /-- What stands between the names that lead to a setting; names are not split if it
  is empty. -/
  delimiter : String := "__"
  limit : SplitLimit := .unlimited
  /-- The value that stands for null. -/
  nullWord : Option String := none
  deriving DecidableEq, Repr, Inhabited

namespace Toml

/-- Does a value count as yes?  It does unless it is no, zero or empty. -/
def isTruthy : Toml → Bool
  | bool value => value
  | int value => value != 0
  | real value => !value.isZero
  | text value => value != ""
  | moment _ => true
  | array items => !items.isEmpty
  | table members => !members.isEmpty

end Toml

/-- A rule that a file gives is of a kind that the rule cannot be. -/
inductive MisfitRule where
  | misfit
  deriving DecidableEq, Repr, Inhabited

/-- How often names are split if they have at most so many parts.  No number stands
for no limit, and so does one below one. -/
def SplitLimit.ofToml : Toml → Except MisfitRule SplitLimit
  | .int parts =>
      .ok (if parts ≤ 0 then .unlimited else .atMost (parts.toNat - 1))
  | .bool parts => .ok (if parts then .atMost 0 else .unlimited)
  | .real parts => .ok (if parts.isZero then .unlimited else .fractional)
  | other => if other.isTruthy then .error .misfit else .ok .unlimited

namespace VariableRules

/-- What all names start with, from what a file gives. -/
def startOf : Toml → Except MisfitRule (Option String)
  | .text value => .ok (some value)
  | .array _ => .ok none
  | .table _ => .ok none
  | _ => .error .misfit

/-- What stands between names, from what a file gives; what is no text stands between
none. -/
def delimiterOf : Toml → String
  | .text value => value
  | _ => ""

/-- The text that a value is. -/
def textOf? : Toml → Option String
  | .text value => some value
  | _ => none

/-- The rules that a file with the given members gives. -/
def ofToml (members : Keyed String Toml) : Except MisfitRule VariableRules := do
  let standard : VariableRules := {}
  let limit ← ((members.get? "_env_nested_max_split").map SplitLimit.ofToml).getD
    (.ok standard.limit)
  let start ← ((members.get? "_env_prefix").map startOf).getD (.ok standard.start)
  return {
    caseMatters := (members.get? "_case_sensitive").any Toml.isTruthy
    ignoresEmpty := (members.get? "_env_ignore_empty").any Toml.isTruthy
    start
    delimiter := ((members.get? "_env_nested_delimiter").map delimiterOf).getD standard.delimiter
    limit
    nullWord := (members.get? "_env_parse_none_str").bind textOf? }

end VariableRules

end SchemaDrift
