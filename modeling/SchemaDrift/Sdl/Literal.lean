import SchemaDrift.Sdl.BlockString
import SchemaDrift.Sdl.Document
import SchemaDrift.Text.Hex

/-!
# Written literals

The one way in which each literal is written: on one line where that has at most
eighty characters, or else with each item on a line of its own.

* `quotedString` — a string in quotes.
* `Literal.written` — a literal as text.
-/

namespace SchemaDrift.Sdl

open Text

/-- Characters with an escape of one letter. -/
def letterEscapes : List (Char × Char) :=
  [('"', '"'), ('\\', '\\'), ('\x08', 'b'), ('\t', 't'), ('\n', 'n'), ('\x0c', 'f'),
   ('\r', 'r')]

/-- A character of a string in quotes.  Control characters are escaped. -/
def quotedChar (c : Char) : List Char :=
  match letterEscapes.lookup c with
  | some letter => ['\\', letter]
  | none =>
    if c.toNat < 0x20 || (0x7f ≤ c.toNat && c.toNat ≤ 0x9f) then
      '\\' :: 'u' :: upperHex 4 c.toNat
    else [c]

/-- A string in quotes. -/
def quotedString (value : List Char) : List Char :=
  '"' :: value.flatMap quotedChar ++ ['"']

/-- The most characters that a list or object may have on one line. -/
def lineWidth : Nat := 80

/-- Pieces with a separator between neighbours. -/
def separated (separator : List Char) : List (List Char) → List Char
  | [] => []
  | [piece] => piece
  | piece :: rest => piece ++ separator ++ separated separator rest

/-- A text with two spaces in front of every line. -/
def indented (text : List Char) : List Char :=
  ' ' :: ' ' :: text.flatMap fun c => if c = '\n' then ['\n', ' ', ' '] else [c]

/-- Pieces between an opening and a closing character, on one line with a gap
inside both if they fit, or else each on a line of its own. -/
def bracketed (start close : Char) (gap : List Char) (pieces : List (List Char)) :
    List Char :=
  let line := start :: gap ++ separated [',', ' '] pieces ++ gap ++ [close]
  if line.length > lineWidth then
    start :: '\n' :: indented (joinLines pieces) ++ ['\n', close]
  else line

mutual

/-- A literal as text. -/
def Literal.written : Literal → List Char
  | .number text => text.toList
  | .word text => text.toList
  | .string value => quotedString value.toList
  | .block value => BlockString.written value.toList
  | .reference name => '$' :: name.toList
  | .list items => bracketed '[' ']' [] (writtenItems items)
  | .object fields => bracketed '\x7b' '\x7d' [' '] (writtenFields fields)

/-- The items of a list as texts. -/
def writtenItems : List Literal → List (List Char)
  | [] => []
  | item :: rest => item.written :: writtenItems rest

/-- The fields of an object as texts. -/
def writtenFields : List (String × Literal) → List (List Char)
  | [] => []
  | (name, value) :: rest =>
      (name.toList ++ ':' :: ' ' :: value.written) :: writtenFields rest

end

/-- A literal as text. -/
def Literal.text (literal : Literal) : String := String.ofList literal.written

end SchemaDrift.Sdl
