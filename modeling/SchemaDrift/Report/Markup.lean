import SchemaDrift.Change.Level
import SchemaDrift.Text.Emoji
import SchemaDrift.Text.Name

/-!
# Markup for a console

A tag stands in brackets and styles what follows it.  A backslash before a tag
makes it plain text, and two backslashes before it make one.  In the plain text
between tags a name between colons stands for an emoji.  This is the markup of rich, of
which release 13.0 or later is required.

* `Markup.afterTag?` — a tag at the start of a text.
* `Markup.escape` — markup that shows a text as it is.
* `Markup.shown` — what markup shows without its styles.
* `styledLevel` — the word for a level in its colour.
-/

namespace SchemaDrift.Markup

/-- A character that may start a tag. -/
def isTagStart (c : Char) : Bool :=
  ('a' ≤ c && c ≤ 'z') || c == '#' || c == '/' || c == '@'

/-- The characters of a tag up to its closing bracket, and the rest.  No other
bracket may be opened before it. -/
def toBracket? : List Char → Option (List Char × List Char)
  | [] => none
  | ']' :: rest => some ([']'], rest)
  | c :: rest =>
      if c = '[' then none else (toBracket? rest).map fun found => (c :: found.1, found.2)

/-- A tag with its brackets at the start of a text, and the rest.  The character
after the bracket does not close it. -/
def afterTag? : List Char → Option (List Char × List Char)
  | '[' :: c :: rest =>
      if isTagStart c then (toBracket? rest).map fun found => ('[' :: c :: found.1, found.2)
      else none
  | _ => none

/-- The backslashes at the start of a text are as many as counted. -/
def backslashes (text : List Char) : Nat := (text.takeWhile (· == '\\')).length

/-- A piece of text: characters as they are, or a tag with the number of backslashes
before it. -/
inductive Piece where
  | plain (text : List Char)
  | tag (backslashes : Nat) (text : List Char)
  deriving DecidableEq, Repr

/-- A character put before pieces. -/
def consPlain (c : Char) : List Piece → List Piece
  | .plain text :: rest => .plain (c :: text) :: rest
  | pieces => .plain [c] :: pieces

/-- The pieces of a text of no more characters than the bound. -/
def split : Nat → List Char → List Piece
  | 0, _ => []
  | _ + 1, [] => []
  | bound + 1, c :: rest =>
    let text := c :: rest
    let count := backslashes text
    match afterTag? (text.drop count) with
    | some (tag, after) => .tag count tag :: split bound after
    | none => consPlain c (split bound rest)

/-- The pieces of a text. -/
def pieces (text : List Char) : List Piece := split text.length text

/-! ## Escaping -/

/-- A piece that is shown as it is. -/
def Piece.escaped : Piece → List Char
  | .plain text => text
  | .tag count text => List.replicate (2 * count + 1) '\\' ++ text

/-- A text with one more backslash if it ends in a single one. -/
def closeBackslash (text : List Char) : List Char :=
  if backslashes text.reverse = 1 then text ++ ['\\'] else text

/-- Markup that shows a text as it is. -/
def escape (text : List Char) : List Char :=
  closeBackslash ((pieces text).flatMap Piece.escaped)

/-! ## Showing -/

/-- Plain text in which a backslash before a bracket is left out. -/
def dropBackslashes : List Char → List Char
  | [] => []
  | '\\' :: '[' :: rest => '[' :: dropBackslashes rest
  | c :: rest => c :: dropBackslashes rest

/-- What is shown of a piece: plain text, half of the backslashes before a tag, and
the tag itself if their number is odd. -/
def Piece.shown : Piece → List Char
  | .plain text => Text.Emoji.replaceCodes (dropBackslashes text)
  | .tag count text =>
      List.replicate (count / 2) '\\'
        ++ if count % 2 = 1 then Text.Emoji.replaceCodes text else []

/-- A character that consoles act on instead of showing it. -/
def isBell (c : Char) : Bool :=
  c.toNat == 0x07 || c.toNat == 0x08 || (0x0b ≤ c.toNat && c.toNat ≤ 0x0d)

/-- A text with each tab filled up to the next multiple of eight columns, from the
given column on. -/
def fillTabs : (column : Nat) → List Char → List Char
  | _, [] => []
  | column, c :: rest =>
      if c = '\t' then
        List.replicate (8 - column % 8) ' ' ++ fillTabs (column + (8 - column % 8)) rest
      else c :: fillTabs (if c = '\n' then 0 else column + 1) rest

/-- What markup shows without its styles. -/
def shown (markup : List Char) : List Char :=
  fillTabs 0 (((pieces markup).flatMap Piece.shown).filter fun c => !isBell c)

/-- What a console shows of a text between two pieces of markup. -/
def line (before text after : String) : String :=
  String.ofList (shown (before.toList ++ escape text.toList ++ after.toList))

end SchemaDrift.Markup

namespace SchemaDrift

/-- The colour of a level. -/
def Level.colour : Level → String
  | .breaking => "red"
  | .dangerous => "yellow"
  | .nonBreaking => "green"

/-- The word for a level as markup in its colour; any other word is plain. -/
def styledLevel (word : String) : String :=
  match Level.ofId? word with
  | some level => "[" ++ level.colour ++ "]" ++ word ++ "[/" ++ level.colour ++ "]"
  | none => String.ofList (Markup.escape word.toList)

end SchemaDrift
