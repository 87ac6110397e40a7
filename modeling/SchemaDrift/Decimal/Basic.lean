/-!
# Decimal numbers and doubles

* `Decimal` — an integer times a power of ten, as numbers are written.
* `Double` — the numbers of the binary format with 53 digits.
* `Double.ofRatio`, `Double.ofDecimal` — the double nearest to a number, the
  even one of two that are equally near.
* `Double.ofInt` — the double nearest to an integer.
-/

namespace SchemaDrift

/-- An integer times a power of ten. -/
structure Decimal where
  mantissa : Int
  exponent : Int
  deriving DecidableEq, Repr, Inhabited

/-- A number of the binary format with 53 digits.  The mantissa of a finite one
is below `2 ^ 53`, and at least `2 ^ 52` unless the exponent is the least one. -/
inductive Double where
  /-- The mantissa times two to the exponent. -/
  | finite (negative : Bool) (mantissa : Nat) (exponent : Int)
  | infinite (negative : Bool)
  | nan
  deriving DecidableEq, Repr, Inhabited

/-- The quotient rounded to the nearest integer, a half to the even one. -/
def roundQuotient (num den : Nat) : Nat :=
  let quotient := num / den
  let twice := 2 * (num % den)
  if twice > den || (twice = den && quotient % 2 = 1) then quotient + 1 else quotient

/-- A ratio times a power of two, as a ratio. -/
def scaleRatio (num den : Nat) (power : Int) : Nat × Nat :=
  if power < 0 then (num, den * Nat.pow 2 power.natAbs) else (num * Nat.pow 2 power.natAbs, den)

namespace Double

/-- The least exponent. -/
def leastExponent : Int := -1074

/-- The greatest exponent. -/
def greatestExponent : Int := 971

/-- The number of binary digits of a mantissa. -/
def digits : Nat := 53

/-- The exponent with which a positive ratio has all digits, but not below the
least one. -/
def exponentOf (num den : Nat) : Int :=
  let guess : Int := num.log2 - den.log2
  let scaled := scaleRatio num den (-guess)
  let log := if scaled.1 < scaled.2 then guess - 1 else guess
  max (log - (digits - 1)) leastExponent

/-- The double nearest to a ratio. -/
def ofRatio (negative : Bool) (num den : Nat) : Double :=
  if num = 0 then .finite negative 0 leastExponent
  else
    let exponent := exponentOf num den
    let scaled := scaleRatio num den (-exponent)
    let mantissa := roundQuotient scaled.1 scaled.2
    -- Rounding up may give one digit more, the last of which is a zero.
    let carried := decide (mantissa = Nat.pow 2 digits)
    let mantissa := if carried then mantissa / 2 else mantissa
    let exponent := if carried then exponent + 1 else exponent
    if exponent > greatestExponent then .infinite negative
    else .finite negative mantissa exponent

/-- The double nearest to an integer. -/
def ofInt (value : Int) : Double := ofRatio (value < 0) value.natAbs 1

/-- The number of decimal digits of a natural number. -/
def decimalLength (value : Nat) : Nat := (Nat.toDigits 10 value).length

/-- The double nearest to a decimal number.  Beyond four hundred places on either
side of the point there is only infinity or zero. -/
def ofDecimal (value : Decimal) (negative : Bool) : Double :=
  let mantissa := value.mantissa.natAbs
  let magnitude := value.exponent + decimalLength mantissa
  if mantissa = 0 || magnitude < -400 then .finite negative 0 leastExponent
  else if magnitude > 400 then .infinite negative
  else if value.exponent < 0 then ofRatio negative mantissa (Nat.pow 10 value.exponent.natAbs)
  else ofRatio negative (mantissa * Nat.pow 10 value.exponent.natAbs) 1

/-- Is the number greater than zero? -/
def isPositive : Double → Bool
  | finite negative mantissa _ => !negative && mantissa != 0
  | infinite negative => !negative
  | nan => false

/-- Is the number zero? -/
def isZero : Double → Bool
  | finite _ mantissa _ => mantissa == 0
  | _ => false

/-- A finite number without its sign, as a ratio. -/
def ratio (mantissa : Nat) (exponent : Int) : Nat × Nat := scaleRatio mantissa 1 exponent

end Double

end SchemaDrift
