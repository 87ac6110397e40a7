import SchemaDrift.Diff.Note
import SchemaDrift.Diff.Verdict

/-!
# Results

* `DiffResult` — what a comparison of two versions comes to.
* `DiffResult.ofChanges` — the result of classified changes.
-/

namespace SchemaDrift

/-- What a comparison of two versions comes to. -/
structure DiffResult where
  changes : List Change := []
  notes : List Note := []
  conclusion : Conclusion := .success
  /-- Did an interceptor have a say in it? -/
  intercepted : Bool := false
  stats : Stats := {}
  deriving DecidableEq, Repr, Inhabited

/-- Is there any change? -/
def DiffResult.hasChanges (result : DiffResult) : Bool := !result.changes.isEmpty

/-- The result of changes with a verdict: one note on each change, and their
numbers. -/
def DiffResult.ofChanges (sources : Sources) (label : Datum) (conclusion : Conclusion)
    (intercepted : Bool) (changes : List Change) : DiffResult where
  changes
  notes := changes.map (Note.ofChange sources label)
  conclusion
  intercepted
  stats := .ofChanges changes

end SchemaDrift
