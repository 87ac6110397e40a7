import SchemaDrift.Change.Basic

/-!
# Verdicts

* `Conclusion` — the verdicts.
* `conclude` — the verdict on a list of changes.
* `Stats` — how many changes there are of each level.
-/

namespace SchemaDrift

/-- The verdict on a pair of versions. -/
inductive Conclusion where
  | failure
  /-- Neither success nor failure; only an interceptor concludes so. -/
  | neutral
  | success
  deriving DecidableEq, Repr, Inhabited

namespace Conclusion

/-- The word for a verdict. -/
def word : Conclusion → String
  | failure => "failure"
  | neutral => "neutral"
  | success => "success"

/-- The verdict of a word. -/
def ofWord? (text : String) : Option Conclusion :=
  [failure, neutral, success].find? fun conclusion => conclusion.word == text

end Conclusion

/-- The verdict on changes: failure if one of them is breaking, or dangerous
where dangerous changes are to fail. -/
def conclude (failOnDangerous : Bool) (changes : List Change) : Conclusion :=
  if changes.any fun change => change.isBreaking || (failOnDangerous && change.isDangerous)
  then .failure else .success

/-- How many changes there are of each level. -/
structure Stats where
  breaking : Int := 0
  dangerous : Int := 0
  nonBreaking : Int := 0
  deriving DecidableEq, Repr, Inhabited

/-- The numbers with one more change counted: as breaking, as dangerous, or as neither. -/
def Stats.count (stats : Stats) (change : Change) : Stats :=
  if change.isBreaking then { stats with breaking := stats.breaking + 1 }
  else if change.isDangerous then { stats with dangerous := stats.dangerous + 1 }
  else { stats with nonBreaking := stats.nonBreaking + 1 }

/-- The numbers of breaking, of dangerous and of all other changes. -/
def Stats.ofChanges (changes : List Change) : Stats := changes.foldl Stats.count {}

end SchemaDrift
