/-!
# Hexadecimal digits

* `hexValue?` — the value of a digit, in either case.
* `hexNumber?` — the value of a row of digits.
* `hexDigits` — a number in a given count of lower-case digits.
* `scalarOf?` — the character of a code point, if it has one.
* `pairedScalar?` — the character of a pair of surrogate code points.
-/

namespace SchemaDrift.Text

/-- The value of a hexadecimal digit. -/
def hexValue? (c : Char) : Option Nat :=
  if '0' ≤ c && c ≤ '9' then some (c.toNat - '0'.toNat)
  else if 'a' ≤ c && c ≤ 'f' then some (c.toNat - 'a'.toNat + 10)
  else if 'A' ≤ c && c ≤ 'F' then some (c.toNat - 'A'.toNat + 10)
  else none

/-- The value of a row of hexadecimal digits. -/
def hexNumber? (digits : List Char) : Option Nat :=
  digits.foldl (fun value c => do return (← value) * 16 + (← hexValue? c)) (some 0)

/-- The lower-case hexadecimal digit of a value below sixteen. -/
def hexDigit (value : Nat) : Char :=
  if value < 10 then Char.ofNat ('0'.toNat + value) else Char.ofNat ('a'.toNat + (value - 10))

/-- The last digits of a number, as many as asked for, in lower case. -/
def hexDigits : (count : Nat) → (value : Nat) → List Char
  | 0, _ => []
  | count + 1, value => hexDigits count (value / 16) ++ [hexDigit (value % 16)]

/-- A number in upper-case hexadecimal digits, at least as many as asked for. -/
def upperHex (atLeast value : Nat) : List Char :=
  let digits := (Nat.toDigits 16 value).map Char.toUpper
  List.replicate (atLeast - digits.length) '0' ++ digits

/-- The character of a code point: surrogates and numbers that are too large
have none. -/
def scalarOf? (code : Nat) : Option Char :=
  if h : code.isValidChar then some (Char.ofNatAux code h) else none

/-- The character of a high and a low surrogate. -/
def pairedScalar? (high low : Nat) : Option Char :=
  if 0xd800 ≤ high && high ≤ 0xdbff && 0xdc00 ≤ low && low ≤ 0xdfff then
    scalarOf? (0x10000 + (high - 0xd800) * 0x400 + (low - 0xdc00))
  else none

end SchemaDrift.Text
