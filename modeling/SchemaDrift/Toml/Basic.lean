import SchemaDrift.Decimal.Basic

/-!
# TOML values

* `Toml` — the values.
* `TomlFault` — why a text is not read.
* `isBlank`, `isControl` — the classes of characters that documents are made of.
* `unixLines` — a document with plain line feeds.
-/

namespace SchemaDrift

/-- A TOML value. -/
inductive Toml where
  | bool (value : Bool)
  | int (value : Int)
  /-- A number with a fraction or exponent, an infinity, or no number. -/
  | real (value : Double)
  | text (value : String)
  /-- A date, a time, or both, as it is written. -/
  | moment (written : String)
  | array (items : List Toml)
  | table (members : List (String × Toml))
  deriving Repr, Inhabited

/-- Why a text is not read. -/
inductive TomlFault where
  /-- It is not TOML. -/
  | malformed
  /-- It holds a decimal integer of too many digits. -/
  | tooManyDigits
  /-- It holds values that are nested too deep. -/
  | tooDeep
  deriving DecidableEq, Repr, Inhabited

namespace Toml

/-- What is there; a text without it is not TOML. -/
def require {α : Type} (found : Option α) : Except TomlFault α :=
  match found with
  | some value => .ok value
  | none => .error .malformed

/-- The characters that may stand around words on a line. -/
def isBlank (c : Char) : Bool := c == ' ' || c == '\t'

/-- The characters that may stand nowhere on a line: all below the space but the
tab, and the delete character. -/
def isControl (c : Char) : Bool := (c.toNat < 0x20 && c != '\t') || c.toNat == 0x7f

/-- A text without the blanks at its start. -/
def skipBlanks (text : List Char) : List Char := text.dropWhile isBlank

/-- A document in which a line feed alone ends each line. -/
def unixLines : List Char → List Char
  | [] => []
  | '\r' :: '\n' :: rest => '\n' :: unixLines rest
  | c :: rest => c :: unixLines rest

end Toml

end SchemaDrift
