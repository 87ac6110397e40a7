import SchemaDrift.Decimal.Basic
import SchemaDrift.Text.Name

/-!
# Written numbers

The parts of a number as it is written: a sign, digits, a fraction after a
point, and an exponent after an `e`.  Each format decides which parts have to be
there.

* `Numeral` — the parts.
* `Numeral.read` — the parts at the start of a text, and the rest.
* `Numeral.toInt`, `Numeral.toDouble` — the value.
-/

namespace SchemaDrift

open Text

/-- The parts of a written number. -/
structure Numeral where
  /-- The sign as it is written, if there is one. -/
  sign : Option Char
  whole : List Char
  fraction : Option (List Char)
  /-- The sign of the exponent and its digits. -/
  exponent : Option (Option Char × List Char)
  deriving DecidableEq, Repr, Inhabited

namespace Numeral

/-- The sign at the start of a text, and the rest. -/
def readSign (text : List Char) : Option Char × List Char :=
  match text with
  | c :: rest => if c == '+' || c == '-' then (some c, rest) else (none, text)
  | [] => (none, text)

/-- The digits at the start of a text, and the rest. -/
def readDigits (text : List Char) : List Char × List Char :=
  (text.takeWhile isDigit, text.dropWhile isDigit)

/-- The fraction at the start of a text, and the rest. -/
def readFraction (text : List Char) : Option (List Char) × List Char :=
  match text with
  | '.' :: rest =>
      let (digits, rest) := readDigits rest
      (some digits, rest)
  | _ => (none, text)

/-- The exponent at the start of a text, and the rest. -/
def readExponent (text : List Char) : Option (Option Char × List Char) × List Char :=
  match text with
  | c :: rest =>
    if c == 'e' || c == 'E' then
      let (sign, rest) := readSign rest
      let (digits, rest) := readDigits rest
      (some (sign, digits), rest)
    else (none, text)
  | [] => (none, text)

/-- The parts of a number at the start of a text, any of which may be empty, and
the rest of the text. -/
def read (text : List Char) : Numeral × List Char :=
  let (sign, rest) := readSign text
  let (whole, rest) := readDigits rest
  let (fraction, rest) := readFraction rest
  let (exponent, rest) := readExponent rest
  (⟨sign, whole, fraction, exponent⟩, rest)

/-- The value of a row of digits. -/
def digitsValue (digits : List Char) : Nat :=
  digits.foldl (fun value c => value * 10 + (c.toNat - '0'.toNat)) 0

/-- Is the number written with a minus sign? -/
def negative (numeral : Numeral) : Bool := numeral.sign == some '-'

/-- Is the number written without fraction and exponent? -/
def isWhole (numeral : Numeral) : Bool :=
  numeral.fraction.isNone && numeral.exponent.isNone

/-- Does the whole part start with a zero that more digits follow? -/
def hasLeadingZero (numeral : Numeral) : Bool :=
  match numeral.whole with
  | '0' :: _ :: _ => true
  | _ => false

/-- Are there digits wherever a part is written? -/
def isComplete (numeral : Numeral) : Bool :=
  !numeral.whole.isEmpty && (numeral.fraction.map fun digits => !digits.isEmpty).getD true
    && (numeral.exponent.map fun part => !part.2.isEmpty).getD true

/-- The integer that the whole part stands for. -/
def toInt (numeral : Numeral) : Int :=
  let magnitude : Int := digitsValue numeral.whole
  if numeral.negative then -magnitude else magnitude

/-- The value without the sign. -/
def magnitude (numeral : Numeral) : Decimal :=
  let fraction := numeral.fraction.getD []
  let exponent : Int :=
    match numeral.exponent with
    | none => 0
    | some (sign, digits) =>
        if sign == some '-' then -(digitsValue digits : Int) else digitsValue digits
  ⟨digitsValue (numeral.whole ++ fraction), exponent - fraction.length⟩

/-- The double nearest to the value. -/
def toDouble (numeral : Numeral) : Double :=
  Double.ofDecimal numeral.magnitude numeral.negative

end Numeral

end SchemaDrift
