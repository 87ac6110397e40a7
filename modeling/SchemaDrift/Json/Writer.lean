import SchemaDrift.Decimal.Shortest
import SchemaDrift.Json.Basic
import SchemaDrift.Text.Hex

/-!
# Writing JSON

* `Json.Layout` — how values are spread over lines.
* `Json.Style` — a layout, and whether the text is plain ASCII.
* `Json.write` — a value as text.
-/

namespace SchemaDrift.Json

open Text

/-- How values are spread over lines. -/
inductive Layout where
  /-- No space at all. -/
  | dense
  /-- One line, with a space after each comma and colon. -/
  | spaced
  /-- Each item on a line of its own, two spaces deeper than what holds it. -/
  | indented
  deriving DecidableEq, Repr, Inhabited

/-- How values are written. -/
structure Style where
  layout : Layout
  /-- Is every character outside ASCII escaped? -/
  ascii : Bool
  deriving DecidableEq, Repr, Inhabited

/-- The style of reports, on lines of their own or on one line. -/
def Style.report (pretty : Bool) : Style := ⟨if pretty then .indented else .spaced, true⟩

/-- The style of messages between programs. -/
def Style.wire : Style := ⟨.dense, false⟩

/-! ## Strings -/

/-- Characters with an escape of one letter. -/
def letterEscapes : List (Char × Char) :=
  [('"', '"'), ('\\', '\\'), ('\x08', 'b'), ('\t', 't'), ('\n', 'n'), ('\x0c', 'f'),
   ('\r', 'r')]

/-- An escape of four hexadecimal digits. -/
def unit16 (code : Nat) : List Char := '\\' :: 'u' :: hexDigits 4 code

/-- A character as one escape, or as two if its code point needs more than four
digits. -/
def escapeCode (code : Nat) : List Char :=
  if code < 0x10000 then unit16 code
  else
    let offset := code - 0x10000
    unit16 (0xd800 + offset / 0x400) ++ unit16 (0xdc00 + offset % 0x400)

/-- A character of a string.  In ASCII text the delete character is escaped too. -/
def writeChar (ascii : Bool) (c : Char) : List Char :=
  match letterEscapes.lookup c with
  | some letter => ['\\', letter]
  | none =>
    if c.toNat < 0x20 || (ascii && c.toNat ≥ 0x7f) then escapeCode c.toNat else [c]

/-- A string in quotes. -/
def writeText (ascii : Bool) (value : List Char) : List Char :=
  '"' :: value.flatMap (writeChar ascii) ++ ['"']

/-! ## Values -/

/-- What stands before an item at the given depth: nothing, or a new line. -/
def Layout.lead (layout : Layout) (depth : Nat) : List Char :=
  match layout with
  | .indented => '\n' :: List.replicate (2 * depth) ' '
  | _ => []

/-- What stands between two items at the given depth. -/
def Layout.separator (layout : Layout) (depth : Nat) : List Char :=
  match layout with
  | .dense => [',']
  | .spaced => [',', ' ']
  | .indented => ',' :: layout.lead depth

/-- What stands between a name and its value. -/
def Layout.colon (layout : Layout) : List Char :=
  match layout with
  | .dense => [':']
  | _ => [':', ' ']

mutual

/-- A value at the given depth.  A string that is no text is left empty. -/
def writeAt (style : Style) (depth : Nat) : Json → List Char
  | .null => "null".toList
  | .bool value => (if value then "true" else "false").toList
  | .int value => (toString value).toList
  | .real value => value.text.toList
  | .text value => writeText style.ascii value.toList
  | .broken => writeText style.ascii []
  | .array [] => ['[', ']']
  | .array (first :: rest) =>
      '[' :: style.layout.lead (depth + 1) ++ writeAt style (depth + 1) first
        ++ writeItems style (depth + 1) rest ++ style.layout.lead depth ++ [']']
  | .object [] => ['\x7b', '\x7d']
  | .object ((name, value) :: rest) =>
      '\x7b' :: style.layout.lead (depth + 1) ++ writeText style.ascii name.toList
        ++ style.layout.colon ++ writeAt style (depth + 1) value
        ++ writeMembers style (depth + 1) rest ++ style.layout.lead depth ++ ['\x7d']

/-- Items after the first, at the given depth. -/
def writeItems (style : Style) (depth : Nat) : List Json → List Char
  | [] => []
  | item :: rest =>
      style.layout.separator depth ++ writeAt style depth item
        ++ writeItems style depth rest

/-- Members after the first, at the given depth. -/
def writeMembers (style : Style) (depth : Nat) : List (String × Json) → List Char
  | [] => []
  | (name, value) :: rest =>
      style.layout.separator depth ++ writeText style.ascii name.toList
        ++ style.layout.colon ++ writeAt style depth value
        ++ writeMembers style depth rest

end

/-- A value as text. -/
def write (style : Style) (json : Json) : String := String.ofList (writeAt style 0 json)

end SchemaDrift.Json
