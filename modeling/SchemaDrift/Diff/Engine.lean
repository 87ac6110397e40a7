import SchemaDrift.Change.Criticality
import SchemaDrift.Compare.Detect
import SchemaDrift.Diff.Result
import SchemaDrift.Intercept.Interceptor

/-!
# Comparing two versions

The differences are detected and classified, an interceptor may have its say,
and the verdict is on what remains.

* `Policy` — what a comparison depends on besides the two versions.
* `Snapshot.changes` — the classified differences.
* `Policy.diff` — the comparison of two versions.
-/

namespace SchemaDrift

/-- What a comparison depends on besides the two versions. -/
structure Policy where
  failOnDangerous : Bool := false
  interceptor : Option Interceptor := none
  /-- The time an interceptor has, in seconds. -/
  seconds : Double := .ofInt 10

/-- The classified differences between two versions. -/
def Snapshot.changes (snapshot : Snapshot) : List Change :=
  snapshot.detections.map Detection.classify

/-- A result with the log of how it came about. -/
structure Comparison where
  result : DiffResult
  log : List LogEntry
  deriving DecidableEq, Repr, Inhabited

namespace Policy

/-- What holds once the interceptor, if there is one, was asked about changes. -/
def outcome (policy : Policy) (changes : List Change) : Option Outcome :=
  match policy.interceptor with
  | none => some { changes }
  | some interceptor => interceptor.intercept policy.seconds changes

/-- The comparison that ends with what holds after interception. -/
def settle (policy : Policy) (sources : Sources) (label : Datum) (outcome : Outcome) :
    Comparison :=
  let conclusion :=
    outcome.conclusion.getD (conclude policy.failOnDangerous outcome.changes)
  { result := .ofChanges sources label conclusion outcome.applied outcome.changes
    log := outcome.log ++ [.info ("Diff concluded " ++ conclusion.word ++ " with "
      ++ toString outcome.changes.length ++ " changes")] }

/-- The comparison of two versions; there is none if it was cancelled. -/
def diff (policy : Policy) (sources : Sources) (snapshot : Snapshot) (label : Datum) :
    Option Comparison :=
  (policy.outcome snapshot.changes).map (policy.settle sources label)

end Policy

end SchemaDrift
