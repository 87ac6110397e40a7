import SchemaDrift.Address.Label.Tables
import SchemaDrift.Text.CodeTable

/-!
# Characters of domain names

* `isPermitted`, `isMark` — may a character stand in a label, and at its start?
* `combiningClass`, `composes` — how characters combine.
* `Direction`, `Joining`, `Script` — how characters are written.
* `lowerCase` — a character in lower case.
* `isDecimalDigit` — the digits of all scripts.
-/

namespace SchemaDrift.Address

open Text

/-! ## Labels -/

/-- May a character stand anywhere in a label? -/
def isPermitted (c : Char) : Bool := isAmong (rangesOf Tables.permitted) c

/-- Is a character a mark on the one before it? -/
def isMark (c : Char) : Bool := isAmong (rangesOf Tables.marks) c

/-! ## Combining -/

/-- The place of a mark in the order of the marks on one character; zero for all
other characters. -/
def combiningClass (c : Char) : Nat := (keyOf? (rowsOf Tables.combining) c).getD 0

/-- The class of the marks that leave out the vowel of a letter. -/
def virama : Nat := 9

/-- Is there one character that stands for both of two? -/
def composes (first second : Char) : Bool :=
  (rowsOf Tables.composing).any fun row => row.1 == second.toNat && isAmong row.2 first

/-! ## Writing -/

/-- The direction in which a character is written. -/
inductive Direction where
  | leftToRight
  | rightToLeft
  | arabicLetter
  | arabicDigit
  | europeanDigit
  | mark
  | neutral
  deriving DecidableEq, Repr, Inhabited

/-- The direction of a character. -/
def directionOf (c : Char) : Direction :=
  match keyOf? (rowsOf Tables.directions) c with
  | some 0 => .rightToLeft
  | some 1 => .arabicLetter
  | some 2 => .arabicDigit
  | some 3 => .europeanDigit
  | some 4 => .mark
  | some _ => .neutral
  | none => .leftToRight

/-- How a character joins its neighbours. -/
inductive Joining where
  | both
  | left
  | right
  /-- Its neighbours join through it. -/
  | transparent
  | none
  deriving DecidableEq, Repr, Inhabited

/-- How a character joins its neighbours. -/
def joiningOf (c : Char) : Joining :=
  match keyOf? (rowsOf Tables.joining) c with
  | some 0 => .both
  | some 1 => .left
  | some 2 => .right
  | some _ => .transparent
  | Option.none => .none

/-- The scripts that some characters need around them. -/
inductive Script where
  | greek
  | hebrew
  | japanese
  deriving DecidableEq, Repr, Inhabited

/-- The script of a character, if it is one of these. -/
def scriptOf? (c : Char) : Option Script :=
  (keyOf? (rowsOf Tables.scripts) c).map fun key =>
    if key = 0 then .greek else if key = 1 then .hebrew else .japanese

/-! ## Case and digits -/

/-- The lower case of a letter in a table of the given step. -/
def loweredIn? (table : String) (step : Nat) (c : Char) : Option Char :=
  (rowsOf table).findSome? fun row =>
    row.2.findSome? fun range =>
      let offset := c.toNat - range.1
      if range.1 ≤ c.toNat && c.toNat ≤ range.2 && offset % step == 0 then
        scalarOf? (row.1 + offset)
      else Option.none

/-- A character in lower case. -/
def lowerCase (c : Char) : Char :=
  if c.toNat < 0x80 then c.toLower
  else ((loweredIn? Tables.lowered 1 c).or (loweredIn? Tables.loweredPairs 2 c)).getD c

/-- Is a character a decimal digit of any script? -/
def isDecimalDigit (c : Char) : Bool :=
  ('0' ≤ c && c ≤ '9') || (rangesOf Tables.zeros).any fun zero =>
    decide (zero.1 ≤ c.toNat) && decide (c.toNat ≤ zero.1 + 9)

end SchemaDrift.Address
