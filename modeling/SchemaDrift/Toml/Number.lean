import SchemaDrift.Decimal.Numeral
import SchemaDrift.Text.Hex
import SchemaDrift.Toml.Basic

/-!
# Numbers of TOML

Digits may be parted by single underscores.  Integers may also be written in
hexadecimal, octal or binary digits; those in decimal digits have a limit.

* `readDigits` — digits with underscores between them.
* `readNumber` — a number.
-/

namespace SchemaDrift.Toml

open Text

/-- Digits after the first one, each with or without an underscore before it, and
the rest of the text. -/
def readMoreDigits (digit : Char → Bool) : List Char → List Char × List Char
  | [] => ([], [])
  | '_' :: c :: rest =>
      if digit c then
        let found := readMoreDigits digit rest
        (c :: found.1, found.2)
      else ([], '_' :: c :: rest)
  | c :: rest =>
      if digit c then
        let found := readMoreDigits digit rest
        (c :: found.1, found.2)
      else ([], c :: rest)

/-- Digits without their underscores, and the rest of the text. -/
def readDigits (digit : Char → Bool) : List Char → List Char × List Char
  | c :: rest =>
      if digit c then
        let found := readMoreDigits digit rest
        (c :: found.1, found.2)
      else ([], c :: rest)
  | [] => ([], [])

/-! ## Integers in other bases -/

/-- The value of a row of digits in a base. -/
def valueIn (base : Nat) (digits : List Char) : Nat :=
  digits.foldl (fun value c => value * base + (hexValue? c).getD 0) 0

/-- Is the character a digit of a base up to sixteen? -/
def isDigitIn (base : Nat) (c : Char) : Bool := (hexValue? c).any fun value => value < base

/-- An integer in the given base from after its mark on, and the rest. -/
def readInBase? (base : Nat) (text : List Char) : Option (Toml × List Char) :=
  match readDigits (isDigitIn base) text with
  | ([], _) => none
  | (digits, rest) => some (.int (valueIn base digits), rest)

/-- An integer with a mark for its base, and the rest. -/
def readMarked? : List Char → Option (Toml × List Char)
  | '0' :: 'x' :: rest => readInBase? 16 rest
  | '0' :: 'o' :: rest => readInBase? 8 rest
  | '0' :: 'b' :: rest => readInBase? 2 rest
  | _ => none

/-! ## Decimal numbers -/

/-- The digits before the point: a zero alone, or digits that do not start with
one. -/
def readWhole : List Char → List Char × List Char
  | '0' :: rest => (['0'], rest)
  | other => readDigits isDigit other

/-- A fraction with at least one digit, and the rest. -/
def readFraction (text : List Char) : Option (List Char) × List Char :=
  match text with
  | '.' :: rest =>
    match readDigits isDigit rest with
    | ([], _) => (none, text)
    | (digits, rest) => (some digits, rest)
  | _ => (none, text)

/-- An exponent with at least one digit, and the rest. -/
def readExponent (text : List Char) : Option (Option Char × List Char) × List Char :=
  match text with
  | c :: rest =>
    if c = 'e' || c = 'E' then
      let signed := Numeral.readSign rest
      match readDigits isDigit signed.2 with
      | ([], _) => (none, text)
      | (digits, rest) => (some (signed.1, digits), rest)
    else (none, text)
  | [] => (none, text)

/-- The most digits of a decimal integer that are read. -/
def digitLimit : Nat := 4300

/-- The value of a decimal number. -/
def numberOf (numeral : Numeral) : Except TomlFault Toml :=
  if !numeral.isWhole then .ok (.real numeral.toDouble)
  else if numeral.whole.length ≤ digitLimit then .ok (.int numeral.toInt)
  else .error .tooManyDigits

/-- A decimal number as it is written, and the rest. -/
def readDecimal? (text : List Char) : Option (Numeral × List Char) :=
  let signed := Numeral.readSign text
  match readWhole signed.2 with
  | ([], _) => none
  | (whole, rest) =>
    let fraction := readFraction rest
    let exponent := readExponent fraction.2
    some (⟨signed.1, whole, fraction.1, exponent.1⟩, exponent.2)

/-- An infinity or no number, with or without a sign, and the rest. -/
def readSpecial? (text : List Char) : Option (Toml × List Char) :=
  let signed := Numeral.readSign text
  match signed.2 with
  | 'i' :: 'n' :: 'f' :: rest => some (.real (.infinite (signed.1 = some '-')), rest)
  | 'n' :: 'a' :: 'n' :: rest => some (.real .nan, rest)
  | _ => none

/-- A number of any kind at the start of a text, and the rest. -/
def readNumber (text : List Char) : Except TomlFault (Toml × List Char) :=
  match readMarked? text with
  | some found => .ok found
  | none =>
    match readDecimal? text with
    | some (numeral, rest) => do return (← numberOf numeral, rest)
    | none => require (readSpecial? text)

end SchemaDrift.Toml
