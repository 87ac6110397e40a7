/-!
# Blank characters

White space is decided by a table of code point ranges: the characters whose
bidirectional class is white space, a segment separator or a paragraph
separator, and the space separators.  The zero width space and the byte order
mark are not among them.

* `blankRanges` — the table.
* `isBlank` — membership in the table.
* `skipBlanks` — a text without its leading blanks.
* `trimBlanks` — a text without its leading and trailing blanks.
-/

namespace SchemaDrift.Text

/-- The ranges of blank code points, both ends included. -/
def blankRanges : List (Nat × Nat) :=
  [(0x09, 0x0d), (0x1c, 0x20), (0x85, 0x85), (0xa0, 0xa0), (0x1680, 0x1680),
   (0x2000, 0x200a), (0x2028, 0x2029), (0x202f, 0x202f), (0x205f, 0x205f),
   (0x3000, 0x3000)]

/-- Is the character white space? -/
def isBlank (c : Char) : Bool :=
  blankRanges.any fun r => decide (r.1 ≤ c.toNat) && decide (c.toNat ≤ r.2)

/-- A text without its leading blanks. -/
def skipBlanks (text : List Char) : List Char := text.dropWhile isBlank

/-- A text without its leading and trailing blanks. -/
def trimBlanks (text : List Char) : List Char :=
  (skipBlanks (skipBlanks text).reverse).reverse

end SchemaDrift.Text
