import SchemaDrift.Text.Lines

/-!
# Block strings

The value of a string in triple quotes is its text without the indentation that
its lines share and without blank lines at either end.

* `blockText` — the text up to the closing quotes, with escaped quotes decoded.
* `BlockString.value` — the value of a text.
* `BlockString.written` — a value in triple quotes.
-/

namespace SchemaDrift.Sdl

open Text

/-- The text of a block string from after its opening quotes up to the closing
ones, with line ends as line feeds and escaped quotes decoded, and the number
of characters passed; there is none without closing quotes. -/
def blockText : List Char → Option (List Char × Nat)
  | [] => none
  | '"' :: '"' :: '"' :: _ => some ([], 3)
  | '\\' :: '"' :: '"' :: '"' :: rest =>
      (blockText rest).map fun (text, passed) => ('"' :: '"' :: '"' :: text, passed + 4)
  | '\r' :: '\n' :: rest =>
      (blockText rest).map fun (text, passed) => ('\n' :: text, passed + 2)
  | '\r' :: rest => (blockText rest).map fun (text, passed) => ('\n' :: text, passed + 1)
  | c :: rest => (blockText rest).map fun (text, passed) => (c :: text, passed + 1)

namespace BlockString

/-- The characters that indent a line. -/
def isIndent (c : Char) : Bool := c == ' ' || c == '\t'

/-- The indentation of a line; a line of nothing else has none. -/
def indentation? (line : List Char) : Option Nat :=
  if line.all isIndent then none else some (line.takeWhile isIndent).length

/-- The indentation shared by all lines after the first; zero if they are all
blank. -/
def sharedIndentation (lines : List (List Char)) : Nat :=
  ((lines.drop 1).filterMap indentation?).min?.getD 0

/-- Lines without blank ones at either end. -/
def trimBlankLines (lines : List (List Char)) : List (List Char) :=
  let isBlankLine (line : List Char) : Bool := line.all isIndent
  ((lines.dropWhile isBlankLine).reverse.dropWhile isBlankLine).reverse

/-- Lines of which those after the first have lost so much indentation. -/
def outdent (width : Nat) : List (List Char) → List (List Char)
  | [] => []
  | first :: rest => first :: rest.map (List.drop width)

/-- The value of the text of a block string. -/
def value (text : List Char) : List Char :=
  let lines := splitAtFeeds text
  joinLines (trimBlankLines (outdent (sharedIndentation lines) lines))

/-- A value with every three quotes in a row escaped. -/
def escapeQuotes : List Char → List Char
  | '"' :: '"' :: '"' :: rest => '\\' :: '"' :: '"' :: '"' :: escapeQuotes rest
  | c :: rest => c :: escapeQuotes rest
  | [] => []

/-- A value in triple quotes.  The quotes stand on lines of their own if the
value has several lines or more than seventy characters, or ends in a way that
would run into them. -/
def written (content : List Char) : List Char :=
  let escaped := escapeQuotes content
  let single := (lines escaped).length == 1
  let last := content.getLast?
  let apart := !single || content.length > 70 || last == some '"' || last == some '\\'
  let indented := (content.head?.map isIndent).getD false
  let quotes := ['"', '"', '"']
  quotes ++ (if apart && !(single && indented) then ['\n'] else []) ++ escaped
    ++ (if apart then ['\n'] else []) ++ quotes

end BlockString

end SchemaDrift.Sdl
