import SchemaDrift.Text.Hex
import SchemaDrift.Toml.Basic

/-!
# Quoted strings of TOML

A string stands between quotation marks, with escapes, or between apostrophes,
as it is.  Either kind may be long: between three marks, over several lines.

* `readBasic`, `readLiteral` — strings on one line.
* `readLongBasic`, `readLongLiteral` — long strings.
* `readQuoted?` — a string of any kind.
-/

namespace SchemaDrift.Toml

open Text

/-- The character that a letter after a backslash stands for. -/
def escapedChar? (c : Char) : Option Char :=
  [('b', '\x08'), ('t', '\t'), ('n', '\n'), ('f', '\x0c'), ('r', '\r'), ('"', '"'),
   ('\\', '\\')].lookup c

/-- The character whose code point is written in hexadecimal digits. -/
def escapedScalar? (digits : List Char) : Option Char := (hexNumber? digits).bind scalarOf?

/-! ## On one line -/

/-- A string from after its opening quotation mark on, and the rest of the text. -/
def readBasic : List Char → Option (List Char × List Char)
  | [] => none
  | '"' :: rest => some ([], rest)
  | '\\' :: 'u' :: a :: b :: c :: d :: rest => do
      let scalar ← escapedScalar? [a, b, c, d]
      let found ← readBasic rest
      return (scalar :: found.1, found.2)
  | '\\' :: 'U' :: a :: b :: c :: d :: e :: f :: g :: h :: rest => do
      let scalar ← escapedScalar? [a, b, c, d, e, f, g, h]
      let found ← readBasic rest
      return (scalar :: found.1, found.2)
  | '\\' :: c :: rest => do
      let decoded ← escapedChar? c
      let found ← readBasic rest
      return (decoded :: found.1, found.2)
  | c :: rest =>
      if isControl c || c = '\\' then none
      else (readBasic rest).map fun found => (c :: found.1, found.2)

/-- A string from after its opening apostrophe on, and the rest of the text. -/
def readLiteral : List Char → Option (List Char × List Char)
  | [] => none
  | '\'' :: rest => some ([], rest)
  | c :: rest =>
      if isControl c then none
      else (readLiteral rest).map fun found => (c :: found.1, found.2)

/-! ## Over several lines -/

/-- What may not stand in a long string. -/
def isLongControl (c : Char) : Bool := isControl c && c != '\n'

/-- The marks right after the three that close a long string: up to two of them
belong to the string. -/
def closingMarks (mark : Char) : List Char → List Char × List Char
  | a :: b :: rest =>
      if a = mark then (if b = mark then ([mark, mark], rest) else ([mark], b :: rest))
      else ([], a :: b :: rest)
  | [a] => if a = mark then ([mark], []) else ([], [a])
  | [] => ([], [])

/-- What is being left out after a backslash at the end of a line. -/
inductive Gap where
  | none
  /-- Blanks up to the end of the line. -/
  | toLineEnd
  /-- Blanks and lines up to the next other character. -/
  | toText
  deriving DecidableEq, Repr

/-- A long string from after its opening quotation marks on, and the rest of the
text. -/
def readLongBasic : Gap → List Char → Option (List Char × List Char)
  | _, [] => .none
  | .toLineEnd, c :: rest =>
      if c = '\n' then readLongBasic .toText rest
      else if isBlank c then readLongBasic .toLineEnd rest
      else .none
  | _, '"' :: '"' :: '"' :: rest => some (closingMarks '"' rest)
  | _, '\\' :: 'u' :: a :: b :: c :: d :: rest => do
      let scalar ← escapedScalar? [a, b, c, d]
      let found ← readLongBasic .none rest
      return (scalar :: found.1, found.2)
  | _, '\\' :: 'U' :: a :: b :: c :: d :: e :: f :: g :: h :: rest => do
      let scalar ← escapedScalar? [a, b, c, d, e, f, g, h]
      let found ← readLongBasic .none rest
      return (scalar :: found.1, found.2)
  | _, '\\' :: c :: rest =>
      if c = '\n' then readLongBasic .toText rest
      else if isBlank c then readLongBasic .toLineEnd rest
      else do
        let decoded ← escapedChar? c
        let found ← readLongBasic .none rest
        return (decoded :: found.1, found.2)
  | gap, c :: rest =>
      if gap = .toText && (c = '\n' || isBlank c) then readLongBasic .toText rest
      else if isLongControl c || c = '\\' then .none
      else (readLongBasic .none rest).map fun found => (c :: found.1, found.2)

/-- A long string from after its opening apostrophes on, and the rest of the
text. -/
def readLongLiteral : List Char → Option (List Char × List Char)
  | [] => none
  | '\'' :: '\'' :: '\'' :: rest => some (closingMarks '\'' rest)
  | c :: rest =>
      if isLongControl c then none
      else (readLongLiteral rest).map fun found => (c :: found.1, found.2)

/-- A long string starts on the next line if nothing follows its opening marks. -/
def skipFirstBreak : List Char → List Char
  | '\n' :: rest => rest
  | other => other

/-! ## Any string -/

/-- A string of any kind at the start of a text, and the rest. -/
def readQuoted? : List Char → Option (List Char × List Char)
  | '"' :: '"' :: '"' :: rest => readLongBasic .none (skipFirstBreak rest)
  | '"' :: rest => readBasic rest
  | '\'' :: '\'' :: '\'' :: rest => readLongLiteral (skipFirstBreak rest)
  | '\'' :: rest => readLiteral rest
  | _ => none

end SchemaDrift.Toml
