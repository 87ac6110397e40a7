import SchemaDrift.Text.Lines

/-!
# Excerpts of a text

A place in a text is shown with the lines around it, each after its number, and a
mark under the place.  Of a long line only the pieces around the place are shown.

* `Excerpt` — a place with what is shown of the text around it.
* `Excerpt.around` — the excerpt at an offset.
* `Excerpt.shown` — an excerpt under the name of its text.
-/

namespace SchemaDrift.Text

/-- A place in a text, counted from one on, with the rows that show it. -/
structure Excerpt where
  line : Nat
  column : Nat
  rows : List String
  deriving DecidableEq, Repr, Inhabited

namespace Excerpt

/-- The most characters of a line that is shown as a whole. -/
def longestLine : Nat := 120

/-- The characters of a piece of a longer line. -/
def pieceLength : Nat := 80

/-- A text with spaces in front up to a width. -/
def justified (width : Nat) (text : List Char) : List Char :=
  List.replicate (width - text.length) ' ' ++ text

/-- Labelled rows, with the labels ending in one column. -/
def aligned (rows : List (List Char × List Char)) : List String :=
  let width := (rows.map fun row => row.1.length).foldl max 0
  rows.map fun (label, content) =>
    String.ofList (justified width label ++ if content.isEmpty then [] else ' ' :: content)

/-- The label of a line with a number. -/
def label (number : Nat) : List Char := (toString number).toList ++ [' ', '|']

/-- The label of a row that is no line of its own. -/
def bare : List Char := ['|']

/-- The mark under a column. -/
def mark (column : Nat) : List Char := justified column ['^']

/-- The pieces of a line, all but the last of the length of a piece. -/
def pieces (line : List Char) : List (List Char) :=
  (List.range ((line.length + pieceLength - 1) / pieceLength)).map fun i =>
    (line.drop (i * pieceLength)).take pieceLength

/-- The rows for a place in a long line: its pieces up to the one after the place. -/
def piecedRows (line : List Char) (number column : Nat) : List (List Char × List Char) :=
  let index := column / pieceLength
  let found := pieces line
  let labelled := (found.take (index + 1)).map fun piece => (bare, piece)
  ((labelled.take 1).map fun row => (label number, row.2)) ++ labelled.drop 1
    ++ [(bare, mark (column % pieceLength))]
    ++ (found[index + 1]?).toList.map fun piece => (bare, piece)

/-- The rows for a place in a line: the line between its neighbours. -/
def neighbourRows (lines : List (List Char)) (number column : Nat) :
    List (List Char × List Char) :=
  let before := if number ≤ 1 then [] else (lines[number - 2]?).toList
  (before.map fun line => (label (number - 1), line))
    ++ [(label number, (lines[number - 1]?).getD []), (bare, mark column)]
    ++ (lines[number]?).toList.map fun line => (label (number + 1), line)

/-- The place at an offset of a text, which is on the line of the given number. -/
def around (text : List Char) (number offset : Nat) : Excerpt :=
  let column := ((text.take offset).reverse.takeWhile fun c => !isBreak c).length + 1
  let all := lines text
  let line := (all[number - 1]?).getD []
  { line := number
    column
    rows := aligned <|
      if line.length > longestLine then piecedRows line number column
      else neighbourRows all number column }

/-- A place under the name of its text. -/
def shown (name : String) (excerpt : Excerpt) : String :=
  String.intercalate "\n"
    ((name ++ ":" ++ toString excerpt.line ++ ":" ++ toString excerpt.column) :: excerpt.rows)

end Excerpt

end SchemaDrift.Text
