import SchemaDrift.Diff.Result
import SchemaDrift.Json.Writer

/-!
# Reports as JSON

* `DiffResult.toJson`, `DiffResult.notesJson` — a result, and its notes alone.
* `DiffResult.record`, `DiffResult.notesRecord` — the same as text.
-/

namespace SchemaDrift

/-- A datum as it stands. -/
def Datum.toJson : Datum → Json
  | .text content => .text content
  | .number value => .int value
  | .nothing => .null

/-- A change with all its parts. -/
def Change.toJson (change : Change) : Json :=
  .object [
    ("ruleId", .text change.ruleText),
    ("criticalityLevel", .text change.levelText),
    ("criticalityReason", change.reason.toJson),
    ("message", change.message.toJson),
    ("path", change.path.toJson)]

/-- A note with all its parts. -/
def Note.toJson (note : Note) : Json :=
  .object [
    ("path", note.path.toJson),
    ("start_line", .int note.startLine),
    ("end_line", .int note.endLine),
    ("annotation_level", .text note.level.word),
    ("title", note.title.toJson),
    ("message", note.message.toJson)]

/-- The numbers of changes. -/
def Stats.toJson (stats : Stats) : Json :=
  .object [
    ("breaking", .int stats.breaking),
    ("dangerous", .int stats.dangerous),
    ("non_breaking", .int stats.nonBreaking)]

namespace DiffResult

/-- A result with all its parts. -/
def toJson (result : DiffResult) : Json :=
  .object [
    ("conclusion", .text result.conclusion.word),
    ("intercepted", .bool result.intercepted),
    ("has_changes", .bool result.hasChanges),
    ("stats", result.stats.toJson),
    ("changes", .array (result.changes.map Change.toJson)),
    ("annotations", .array (result.notes.map Note.toJson))]

/-- The verdict and the notes of a result. -/
def notesJson (result : DiffResult) : Json :=
  .object [
    ("conclusion", .text result.conclusion.word),
    ("annotations", .array (result.notes.map Note.toJson))]

/-- The report as JSON. -/
def record (result : DiffResult) (pretty : Bool) : String :=
  Json.write (.report pretty) result.toJson

/-- The report as JSON on the verdict and the notes alone. -/
def notesRecord (result : DiffResult) (pretty : Bool) : String :=
  Json.write (.report pretty) result.notesJson

end DiffResult

end SchemaDrift
