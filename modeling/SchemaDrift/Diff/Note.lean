import SchemaDrift.Change.Basic
import SchemaDrift.Locate.Locator

/-!
# Notes on the sources

A note says of a change where it is and how severe it is, in the terms of
reports on continuous integration.

* `NoteLevel` — the severities of notes.
* `Note` — a severity and a text at a line.
* `Note.ofChange` — the note on a change.
-/

namespace SchemaDrift

/-- The severity of a note. -/
inductive NoteLevel where
  | notice
  | warning
  | failure
  deriving DecidableEq, Repr, Inhabited

namespace NoteLevel

/-- The word for a severity. -/
def word : NoteLevel → String
  | notice => "notice"
  | warning => "warning"
  | failure => "failure"

/-- The severity of a word. -/
def ofWord? (text : String) : Option NoteLevel :=
  [notice, warning, failure].find? fun level => level.word == text

/-- The severities of notes for the levels of changes. -/
def levels : List (Level × NoteLevel) :=
  [(.breaking, failure), (.dangerous, warning), (.nonBreaking, notice)]

/-- The severity of the note on a change.  A word for none of the levels makes a notice. -/
def ofChange (change : Change) : NoteLevel :=
  ((Level.ofId? change.levelText).bind fun level => levels.lookup level).getD notice

end NoteLevel

/-- A note on lines of a source. -/
structure Note where
  /-- The words for the source. -/
  path : Datum
  startLine : Int
  endLine : Int
  level : NoteLevel
  title : Datum
  message : Datum
  deriving DecidableEq, Repr, Inhabited

/-- The line on which a change is located.  A path that is no text is located
nowhere. -/
def Change.line (sources : Sources) (change : Change) : Nat :=
  match change.path with
  | .text path => (sources.locate path).line
  | _ => Location.fallback.line

/-- The note on a change: at its line, titled by its message, with its reason as
text if it has one that is not empty. -/
def Note.ofChange (sources : Sources) (label : Datum) (change : Change) : Note where
  path := label
  startLine := change.line sources
  endLine := change.line sources
  level := .ofChange change
  title := change.message
  message := if change.reason.isGiven then change.reason else change.message

end SchemaDrift
