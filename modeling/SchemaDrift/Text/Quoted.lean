import SchemaDrift.Text.Printable

/-!
# Texts in quotes

In messages a text stands between apostrophes, or between quotation marks if it holds
apostrophes but no quotation marks.  What is not printable is escaped.

* `quoted` — a text in quotes.
-/

namespace SchemaDrift.Text

/-- A character by its code point, in as few digits as there are forms for. -/
def escapedCode (c : Char) : List Char :=
  let code := c.toNat
  if code < 0x100 then '\\' :: 'x' :: hexDigits 2 code
  else if code < 0x10000 then '\\' :: 'u' :: hexDigits 4 code
  else '\\' :: 'U' :: hexDigits 8 code

/-- A character between the given marks. -/
def quotedChar (mark c : Char) : List Char :=
  if c = mark || c = '\\' then ['\\', c]
  else if c = '\n' then ['\\', 'n']
  else if c = '\r' then ['\\', 'r']
  else if c = '\t' then ['\\', 't']
  else if isPrintable c then [c]
  else escapedCode c

/-- The marks between which a text stands. -/
def markOf (text : List Char) : Char :=
  if text.contains '\'' && !text.contains '"' then '"' else '\''

/-- A text in quotes. -/
def quoted (text : String) : String :=
  let mark := markOf text.toList
  String.ofList (mark :: text.toList.flatMap (quotedChar mark) ++ [mark])

end SchemaDrift.Text
