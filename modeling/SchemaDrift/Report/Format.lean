import SchemaDrift.Report.Markdown
import SchemaDrift.Report.Record
import SchemaDrift.Report.Terminal

/-!
# Formats of reports

* `Format` — the formats that may be chosen.
* `View` — what a report depends on besides its format and result.
* `Format.render` — the report in a format.
-/

namespace SchemaDrift

/-- The formats of reports. -/
inductive Format where
  | terminal
  | json
  | markdown
  | annotations
  deriving DecidableEq, Repr, Inhabited

namespace Format

/-- The word for a format. -/
def word : Format → String
  | terminal => "terminal"
  | json => "json"
  | markdown => "markdown"
  | annotations => "annotations"

/-- The formats. -/
def all : List Format := [terminal, json, markdown, annotations]

/-- The format of a word. -/
def ofWord? (text : String) : Option Format := all.find? fun format => format.word == text

end Format

/-- What a report depends on besides its format and result. -/
structure View where
  oldName : String := "old"
  newName : String := "new"
  /-- Are there colours, where the format has any? -/
  colored : Bool := true
  /-- Is JSON spread over lines? -/
  pretty : Bool := true
  deriving DecidableEq, Repr, Inhabited

/-- The report on a result in a format. -/
def Format.render (format : Format) (view : View) (result : DiffResult) : String :=
  match format with
  | .terminal => result.terminal view.oldName view.newName view.colored
  | .json => result.record view.pretty
  | .markdown => result.markdown view.oldName view.newName
  | .annotations => result.notesRecord view.pretty

end SchemaDrift
