import SchemaDrift.Change.Criticality
import SchemaDrift.Json.Writer

/-!
# The catalog of rules as a report

* `RuleRow` — a rule with its level and reason.
* `RuleRow.ofLevel` — the rules of a level, or all of them.
* `RuleTable.record`, `RuleTable.lines` — the rules as JSON and as a table.
-/

namespace SchemaDrift

/-- A rule with its level and reason. -/
structure RuleRow where
  rule : Rule
  criticality : Criticality
  deriving DecidableEq, Repr

/-- The rules of a level, or all of them, in catalog order. -/
def RuleRow.ofLevel (level : Option Level) : List RuleRow :=
  (Rule.all.map fun rule => RuleRow.mk rule rule.criticality).filter fun row =>
    level.all (· == row.criticality.level)

/-- A rule with all its parts. -/
def RuleRow.toJson (row : RuleRow) : Json :=
  .object [
    ("ruleId", .text row.rule.id),
    ("criticalityLevel", .text row.criticality.level.id),
    ("criticalityReason", .ofOption row.criticality.reason)]

namespace RuleTable

/-- The rules as JSON. -/
def record (rows : List RuleRow) : String :=
  Json.write (.report true) (.array (rows.map RuleRow.toJson))

/-! ## The table -/

/-- The title of the table. -/
def title : String := "schemaguard Rules"

/-- The heads of the columns. -/
def heads : List String := ["Rule", "Level", "Reason"]

/-- The cells of a row. -/
def cells (row : RuleRow) : List String :=
  [row.rule.id, row.criticality.level.id, row.criticality.reason.getD ""]

/-- The widths of columns with the longest cells of two rows. -/
def widest (first second : List Nat) : List Nat := List.zipWith max first second

/-- The width of each column: that of its longest cell, and a blank on each side. -/
def widths (rows : List (List String)) : List Nat :=
  (rows.foldl (fun found row => widest found (row.map String.length))
    (heads.map String.length)).map (· + 2)

/-- A character so many times. -/
def repeated (count : Nat) (c : Char) : String := String.ofList (List.replicate count c)

/-- A line between rows, of the given characters: at the left, within a column,
between columns, at the right. -/
def rule (left inner between right : Char) (columns : List Nat) : String :=
  String.singleton left
    ++ String.intercalate (String.singleton between) (columns.map (repeated · inner))
    ++ String.singleton right

/-- A cell with a blank before it, filled up to the width of its column. -/
def cell (width : Nat) (text : String) : String :=
  " " ++ text ++ repeated (width - 1 - text.length) ' '

/-- A row of cells with the given character around each. -/
def row (border : Char) (columns : List Nat) (texts : List String) : String :=
  String.singleton border
    ++ String.intercalate (String.singleton border) (List.zipWith cell columns texts)
    ++ String.singleton border

/-- The title centred above columns. -/
def titleLine (columns : List Nat) : String :=
  let width := columns.foldl (· + ·) (columns.length + 1)
  let free := width - title.length
  repeated (free / 2) ' ' ++ title ++ repeated (free - free / 2) ' '

/-- The lines of the table. -/
def lines (rows : List RuleRow) : List String :=
  let body := rows.map cells
  let columns := widths body
  [titleLine columns, rule '┏' '━' '┳' '┓' columns, row '┃' columns heads,
    rule '┡' '━' '╇' '┩' columns]
  ++ body.map (row '│' columns)
  ++ [rule '└' '─' '┴' '┘' columns]

end RuleTable

end SchemaDrift
