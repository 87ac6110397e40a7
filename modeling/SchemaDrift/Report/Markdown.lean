import SchemaDrift.Diff.Result

/-!
# Reports in Markdown

* `Section` — the groups of changes, each with a heading.
* `DiffResult.markdown` — the report.
-/

namespace SchemaDrift

/-- The groups of changes in a report. -/
inductive Section where
  | breaking
  | dangerous
  | nonBreaking
  deriving DecidableEq, Repr

namespace Section

/-- The groups in order. -/
def all : List Section := [breaking, dangerous, nonBreaking]

/-- The heading of a group. -/
def heading : Section → String
  | breaking => "## 🔴 Breaking"
  | dangerous => "## 🟡 Dangerous"
  | nonBreaking => "## 🟢 Non-breaking"

/-- Does a change belong to a group? -/
def holds (part : Section) (change : Change) : Bool :=
  match part with
  | breaking => change.isBreaking
  | dangerous => change.isDangerous
  | nonBreaking => !change.isBreaking && !change.isDangerous

/-- The bullet of a change. -/
def bullet (change : Change) : String :=
  "- " ++ change.message.written ++ " (`" ++ change.path.written ++ "`)"

/-- The lines of a group; there are none without changes. -/
def lines (part : Section) (changes : List Change) : List String :=
  let held := changes.filter part.holds
  if held.isEmpty then [] else [part.heading, ""] ++ held.map bullet ++ [""]

end Section

/-- The numbers of changes as a table. -/
def Stats.table (stats : Stats) : List String :=
  ["| Breaking | Dangerous | Non-breaking |",
   "|----------|-----------|--------------|",
   "| " ++ toString stats.breaking ++ " | " ++ toString stats.dangerous ++ " | "
     ++ toString stats.nonBreaking ++ " |"]

namespace DiffResult

/-- The lines of the report on versions of the given names. -/
def markdownLines (result : DiffResult) (oldName newName : String) : List String :=
  ["# Schema Diff: `" ++ oldName ++ "` → `" ++ newName ++ "`", "",
    "**Conclusion:** " ++ result.conclusion.word, ""]
  ++ if !result.hasChanges then ["*No changes detected.*"]
    else
      ["## Summary", ""] ++ result.stats.table ++ [""]
        ++ Section.all.flatMap fun part => part.lines result.changes

/-- The report in Markdown on versions of the given names. -/
def markdown (result : DiffResult) (oldName newName : String) : String :=
  String.intercalate "\n" (result.markdownLines oldName newName)

end DiffResult

end SchemaDrift
