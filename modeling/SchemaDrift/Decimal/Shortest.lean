import SchemaDrift.Decimal.Basic

/-!
# The shortest decimal text of a double

* `Double.shortest?` — the fewest decimal digits that read back as a double, and
  of those the nearest to it.
* `Double.text` — the digits with a point, or with an exponent where the point
  would be far away.
-/

namespace SchemaDrift.Double

/-- Digits and the number of them before the point: `⟨ds, p⟩` is
`0.ds × 10 ^ p`. -/
structure Digits where
  digits : Nat
  point : Int
  deriving DecidableEq, Repr

/-- Is a ratio below a power of ten? -/
def belowPower (num den : Nat) (power : Int) : Bool :=
  if power < 0 then num * Nat.pow 10 power.natAbs < den else num < den * Nat.pow 10 power.natAbs

/-- The power of ten that a ratio is just below, searched downwards for so many
steps. -/
def pointBelow (num den : Nat) : Nat → Int → Int
  | 0, power => power
  | steps + 1, power =>
      if belowPower num den (power - 1) then pointBelow num den steps (power - 1) else power

/-- The number of digits before the point of a positive ratio; it is negative if
zeros follow the point. -/
def pointOf (num den : Nat) : Int :=
  if num ≥ den then decimalLength (num / den) else pointBelow num den 400 0

/-- The multiple of a unit that is nearest to a double of the given mantissa and
exponent among the two next to it, if it reads back as that double.  The unit is
ten to the given power. -/
def onGrid? (mantissa : Nat) (exponent unit : Int) : Option Nat :=
  -- Quarters of the last binary digit: the double, and the ends of the interval
  -- of numbers to which it is the nearest.
  let value := 4 * mantissa
  let narrow := mantissa = Nat.pow 2 (digits - 1) && exponent > leastExponent
  let low := if narrow then value - 1 else value - 2
  let high := value + 2
  let quarter := scaleRatio 1 4 exponent
  -- A count of units is compared with quarters after both are brought to the
  -- same measure.
  let perUnit := if unit < 0 then quarter.2 else quarter.2 * Nat.pow 10 unit.natAbs
  let perQuarter := if unit < 0 then quarter.1 * Nat.pow 10 unit.natAbs else quarter.1
  let closed := mantissa % 2 = 0
  let readsBack (count : Nat) : Bool :=
    let left := count * perUnit
    if closed then low * perQuarter ≤ left && left ≤ high * perQuarter
    else low * perQuarter < left && left < high * perQuarter
  let below := value * perQuarter / perUnit
  let above := below + 1
  let nearerBelow :=
    let rest := 2 * (value * perQuarter - below * perUnit)
    rest < perUnit || (rest = perUnit && below % 2 = 0)
  let first := if nearerBelow then below else above
  let second := if nearerBelow then above else below
  if readsBack first then some first else if readsBack second then some second else none

/-- The fewest digits that read back as a double, counted from the given count
up, with the bound on how many are tried. -/
def shortestFrom (mantissa : Nat) (exponent point : Int) : Nat → Int → Digits
  | 0, _ => ⟨0, 0⟩
  | bound + 1, count =>
    match onGrid? mantissa exponent (point - count) with
    | some found =>
        -- A carry past the first digit moves the point.
        if (decimalLength found : Int) > count then ⟨found / 10, point + 1⟩
        else ⟨found, point⟩
    | none => shortestFrom mantissa exponent point bound (count + 1)

/-- The fewest digits that read back as a positive finite double. -/
def shortest (mantissa : Nat) (exponent : Int) : Digits :=
  let value := ratio mantissa exponent
  shortestFrom mantissa exponent (pointOf value.1 value.2) 17 1

/-- Digits without the zeros at their end. -/
def trimZeros (digits : List Char) : List Char :=
  (digits.reverse.dropWhile (· == '0')).reverse

/-- Positive digits as text.  The point stands among the digits, or among zeros
on either side, from `0.0001` up to `10 ^ 16`; beyond there is an exponent of
at least two digits. -/
def Digits.text (found : Digits) : List Char :=
  let digits := trimZeros (Nat.toDigits 10 found.digits)
  let count := digits.length
  if -4 < found.point && found.point ≤ 16 then
    if found.point ≤ 0 then
      "0.".toList ++ List.replicate found.point.natAbs '0' ++ digits
    else
      let before := found.point.natAbs
      if count ≤ before then
        digits ++ List.replicate (before - count) '0' ++ ".0".toList
      else digits.take before ++ '.' :: digits.drop before
  else
    let fraction := if count ≤ 1 then [] else '.' :: digits.drop 1
    let power := found.point - 1
    let written := Nat.toDigits 10 power.natAbs
    digits.take 1 ++ fraction ++ 'e' :: (if power < 0 then '-' else '+')
      :: List.replicate (2 - written.length) '0' ++ written

/-- The shortest text that reads back as a double. -/
def text : Double → String
  | nan => "nan"
  | infinite negative => if negative then "-inf" else "inf"
  | finite negative mantissa exponent =>
    let magnitude :=
      if mantissa = 0 then "0.0".toList else (shortest mantissa exponent).text
    String.ofList (if negative then '-' :: magnitude else magnitude)

/-- A double with one decimal place, a half to the even neighbour. -/
def oneDecimal : Double → String
  | nan => "nan"
  | infinite negative => if negative then "-inf" else "inf"
  | finite negative mantissa exponent =>
    let value := ratio mantissa exponent
    let tenths := roundQuotient (value.1 * 10) value.2
    let magnitude := toString (tenths / 10) ++ "." ++ toString (tenths % 10)
    if negative then "-" ++ magnitude else magnitude

end SchemaDrift.Double
