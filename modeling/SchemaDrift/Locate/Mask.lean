import SchemaDrift.Text.Lines

/-!
# Masking comments and strings

In a masked schema document every character of a comment or string is a space,
apart from line ends; all else stands where it stood.

* `Masking` — what surrounds a character.
* `maskIn` — the masked text that follows in given surroundings.
* `mask` — the masked text.
-/

namespace SchemaDrift

open Text

/-- What surrounds a character of a schema document. -/
inductive Masking where
  /-- Neither a comment nor a string. -/
  | bare
  /-- A comment, up to the end of the line. -/
  | comment
  /-- A string in single quotes, up to the next one or the end of the line. -/
  | quoted
  /-- A string in triple quotes, up to the next ones. -/
  | block
  deriving DecidableEq, Repr

/-- What stands in place of a masked character: itself if it ends a line, or
else a space. -/
def blankOut (c : Char) : Char := if isBreak c then c else ' '

/-- The masked text in given surroundings.  In a quoted string a backslash hides
the character after it, whatever it is; in a block string it hides three quotes. -/
def maskIn : Masking → List Char → List Char
  | _, [] => []
  | .bare, '"' :: '"' :: '"' :: rest => ' ' :: ' ' :: ' ' :: maskIn .block rest
  | .bare, '"' :: rest => ' ' :: maskIn .quoted rest
  | .bare, '#' :: rest => ' ' :: maskIn .comment rest
  | .bare, c :: rest => c :: maskIn .bare rest
  | .comment, c :: rest =>
      if isBreak c then c :: maskIn .bare rest else ' ' :: maskIn .comment rest
  | .quoted, '\\' :: c :: rest => ' ' :: blankOut c :: maskIn .quoted rest
  | .quoted, '"' :: rest => ' ' :: maskIn .bare rest
  | .quoted, c :: rest =>
      if isBreak c then c :: maskIn .bare rest else ' ' :: maskIn .quoted rest
  | .block, '\\' :: '"' :: '"' :: '"' :: rest =>
      ' ' :: ' ' :: ' ' :: ' ' :: maskIn .block rest
  | .block, '"' :: '"' :: '"' :: rest => ' ' :: ' ' :: ' ' :: maskIn .bare rest
  | .block, c :: rest => blankOut c :: maskIn .block rest

/-- The text with its comments and strings masked. -/
def mask (text : List Char) : List Char := maskIn .bare text

end SchemaDrift
