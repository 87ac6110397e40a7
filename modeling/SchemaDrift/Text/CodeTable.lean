import SchemaDrift.Text.Hex
import SchemaDrift.Text.Words

/-!
# Tables of code points

A table lists code points in hexadecimal digits: a word is one code point, or the
first and the last of a range.  In a table with keys the first word of each line is
the key of the others.

* `CodeRange` — code points, from the first to the last one.
* `rangesOf`, `rowsOf` — the ranges of a table.
* `isAmong`, `keyOf?` — a character looked up.
-/

namespace SchemaDrift.Text

/-- Code points, from the first to the last one. -/
abbrev CodeRange := Nat × Nat

/-- The code point that digits stand for. -/
def codeOf (digits : String) : Nat := (hexNumber? digits.toList).getD 0

/-- The range that a word stands for. -/
def rangeOf (word : String) : CodeRange :=
  match word.splitOn "-" with
  | [first, last] => (codeOf first, codeOf last)
  | _ => (codeOf word, codeOf word)

/-- The ranges that a table without keys lists. -/
def rangesOf (table : String) : List CodeRange := (words table).map rangeOf

/-- The lines of a table with keys, each with its key. -/
def rowsOf (table : String) : List (Nat × List CodeRange) :=
  (table.splitOn "\n").filterMap fun line =>
    match words line with
    | key :: ranges => some (codeOf key, ranges.map rangeOf)
    | [] => none

/-- Is a character in one of the ranges? -/
def isAmong (ranges : List CodeRange) (c : Char) : Bool :=
  ranges.any fun range => decide (range.1 ≤ c.toNat) && decide (c.toNat ≤ range.2)

/-- The key of a character. -/
def keyOf? (rows : List (Nat × List CodeRange)) (c : Char) : Option Nat :=
  (rows.find? fun row => isAmong row.2 c).map (·.1)

end SchemaDrift.Text
