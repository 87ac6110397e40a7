import SchemaDrift.Diff.Engine
import SchemaDrift.Proofs.Compare.Completeness
import SchemaDrift.Proofs.Loader.Relocation
import SchemaDrift.Proofs.Schema.Loaded
import SchemaDrift.Proofs.Sdl.Spelling

/-!
# Layout is no part of a schema

What a text is loaded as depends on its tokens only: not on the white space, commas and comments
between them, and so not on where anything stands.

* `SameTokens` — texts of the same tokens, which those are whose tokens are written alike.
* `FrontEnd.Lawful.detections_self_of_load` — between a version and itself nothing is found.
* `reformatting_changes_nothing` — between two texts of the same tokens neither.
-/

namespace SchemaDrift

open Sdl

variable {Value : Type} {core : FrontEnd Value} {old new : String} {types : TypeMap}

/-- Two texts of the same tokens: they differ at most in what stands between these. -/
inductive SameTokens (old new : String) : Prop where
  /-- The tokens that are read are the same. -/
  | read (tokens : tokensOf new = tokensOf old)
  /-- There are only tokens in the texts, and these are written with the same characters. -/
  | written (faultlessOld : Faultless old.toList) (faultlessNew : Faultless new.toList)
      (alike : writings new.toList = writings old.toList)

/-- Tokens that are written alike are read alike. -/
theorem SameTokens.tokensOf_eq (h : SameTokens old new) : tokensOf new = tokensOf old := by
  cases h with
  | read tokens => exact tokens
  | written hold hnew halike => exact map_token_eq_of_writings hnew hold halike

/-- A comparison of a version that is loaded with itself finds nothing. -/
theorem FrontEnd.Lawful.detections_self_of_load (hcore : core.Lawful)
    (h : core.load old = .ok types) : (Snapshot.ofTypeMaps types types).detections = [] :=
  have hwellFormed := (hcore.regular_of_load h).toWellFormed
  (silent_iff_same hwellFormed hwellFormed).2 (.refl types)

/-- **Reformatting a schema is not a change.**  Of two texts of the same tokens, the one is
loaded as the map that the other is loaded as, and without an interceptor the comparison comes to
no changes, no notes and success.  This is so with every front end that does what is documented of
it: only what comes before what can be told from a type map. -/
theorem reformatting_changes_nothing (hcore : core.Lawful) (hsame : SameTokens old new)
    (h : core.load old = .ok types) :
    core.load new = .ok types ∧
      ∀ (strict : Bool) (seconds : Double) (label : Datum), ∃ comparison,
        Policy.diff ⟨strict, none, seconds⟩ ⟨some old, some new⟩ (.ofTypeMaps types types) label
          = some comparison ∧
        comparison.result.changes = [] ∧ comparison.result.notes = [] ∧
          comparison.result.conclusion = .success := by
  refine ⟨hcore.load_of_tokens_eq hsame.tokensOf_eq h, fun strict seconds label => ?_⟩
  have hchanges : (Snapshot.ofTypeMaps types types).changes = [] := by
    rw [Snapshot.changes, hcore.detections_self_of_load h, List.map_nil]
  refine ⟨_, rfl, ?_⟩
  rw [hchanges]
  exact ⟨rfl, rfl, rfl⟩

/-- A schema on one line, with no more than what has to stand between its tokens. -/
def denseText : String :=
  "\"A \\\"pet\\\"\"type Pet\x7bage(unit:String=\"y\"limit:Int=-1):Int!\x7denum Kind\x7bCAT DOG\x7d"

/-- The same tokens on lines of their own, with comments, commas and byte order marks. -/
def spreadText : String :=
  "\ufeff# The pets\r\n\"A \\\"pet\\\"\"\r\ntype Pet \x7b # one\rage(unit: String = \"y\",\n" ++
  "\tlimit: Int = -1,): Int ! ,,\n\x7d\n\nenum Kind \x7b\n  CAT,\n  DOG\ufeff\n\x7d\n# end"

/-- The two texts are loaded as one map of two types, and their comparison succeeds. -/
theorem dense_and_spread_alike :
    frontEnd.Lawful ∧ SameTokens denseText spreadText ∧ spreadText ≠ denseText ∧
      ∃ types, Keyed.keys types = [some "Pet", some "Kind"] ∧
        frontEnd.load denseText = .ok types ∧ frontEnd.load spreadText = .ok types ∧
        ∃ comparison, Policy.diff {} ⟨some denseText, some spreadText⟩ (.ofTypeMaps types types)
            (.text "schema.graphql") = some comparison ∧
          comparison.result.conclusion = .success := by
  have hsame : SameTokens denseText spreadText := .read (by decide +kernel)
  have hkeys : (frontEnd.load denseText).toOption.map Keyed.keys =
      some [some "Pet", some "Kind"] := by decide +kernel
  refine ⟨lawful_frontEnd, hsame, by decide, ?_⟩
  cases hload : frontEnd.load denseText with
  | error fault =>
    rw [hload] at hkeys
    exact absurd hkeys nofun
  | ok types =>
    rw [hload] at hkeys
    obtain ⟨hspread, hdiff⟩ := reformatting_changes_nothing lawful_frontEnd hsame hload
    obtain ⟨comparison, hcomparison, -, -, hconclusion⟩ :=
      hdiff false (.ofInt 10) (.text "schema.graphql")
    exact ⟨types, Option.some.inj hkeys, rfl, hspread, comparison, hcomparison, hconclusion⟩

end SchemaDrift
