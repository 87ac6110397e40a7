import SchemaDrift.Change.Level

/-!
# Detections and changes

A detection is a difference as a rule reports it; a change is a detection with
a level and a reason.

* `Datum` — a text, or what may stand in its place in changes from outside.
* `Detection`, `Change` — the two kinds of records.
* `Change.isBreaking`, `Change.isDangerous` — the tests on the level.
-/

namespace SchemaDrift

/-- A text, or what an unchecked record may hold in its place. -/
inductive Datum where
  | text (content : String)
  | number (value : Int)
  | nothing
  deriving DecidableEq, Repr, Inhabited

namespace Datum

/-- A datum written out as part of a line. -/
def written : Datum → String
  | .text content => content
  | .number value => toString value
  | .nothing => "None"

/-- Is there something to show: a text that is not empty, a number other than
zero? -/
def isGiven : Datum → Bool
  | .text content => content != ""
  | .number value => value != 0
  | .nothing => false

/-- A text that may be missing. -/
def ofOption : Option String → Datum
  | some content => .text content
  | none => .nothing

end Datum

/-- A difference between two versions, as a rule reports it.  What has no name has no
path either. -/
structure Detection where
  rule : Rule
  path : Option String
  message : String
  deriving DecidableEq, Repr, Inhabited

/-- A classified difference.  The rule and the level are words outside the
closed sets where they were read from outside. -/
structure Change where
  rule : Label Rule
  level : Label Level
  message : Datum
  path : Datum
  reason : Datum := .nothing
  deriving DecidableEq, Repr, Inhabited

namespace Change

/-- The identifier of the rule. -/
def ruleText (change : Change) : String := change.rule.text Rule.id

/-- The word for the level. -/
def levelText (change : Change) : String := change.level.text Level.id

/-- Does the change have the given level, be it as a member or as a word? -/
def hasLevel (change : Change) (level : Level) : Bool := change.levelText == level.id

/-- Is the change breaking? -/
def isBreaking (change : Change) : Bool := change.hasLevel .breaking

/-- Is the change dangerous? -/
def isDangerous (change : Change) : Bool := change.hasLevel .dangerous

end Change

end SchemaDrift
