import SchemaDrift.Decimal.Numeral
import SchemaDrift.Toml.Basic

/-!
# Dates and times of TOML

* `readDate?`, `readTime?`, `readOffset` — the parts as they are written.
* `Date.isReal` — is there such a day?
* `readMoment?` — a date, a time, or a date with a time.
-/

namespace SchemaDrift.Toml

open Text

/-- A year, month and day. -/
structure Date where
  year : Nat
  month : Nat
  day : Nat
  deriving DecidableEq, Repr

namespace Date

/-- Has the year an additional day? -/
def isLeap (year : Nat) : Bool := year % 4 == 0 && (year % 100 != 0 || year % 400 == 0)

/-- The number of days of a month. -/
def daysIn (year month : Nat) : Nat :=
  if month = 2 then (if isLeap year then 29 else 28)
  else if month = 4 || month = 6 || month = 9 || month = 11 then 30
  else 31

/-- Is there such a day?  There is no year zero. -/
def isReal (date : Date) : Bool :=
  1 ≤ date.year && 1 ≤ date.month && date.month ≤ 12 && 1 ≤ date.day
    && date.day ≤ daysIn date.year date.month

end Date

/-- A number of exactly so many digits, and the rest. -/
def readPlaces? (count : Nat) (text : List Char) : Option (Nat × List Char) :=
  let digits := text.take count
  if digits.length = count && digits.all isDigit then
    some (Numeral.digitsValue digits, text.drop count)
  else none

/-- Two digits with a value in a range, and the rest. -/
def readPair? (least most : Nat) (text : List Char) : Option (Nat × List Char) :=
  (readPlaces? 2 text).filter fun found => least ≤ found.1 && found.1 ≤ most

/-- The rest of a text after a character. -/
def after? (c : Char) : List Char → Option (List Char)
  | d :: rest => if d = c then some rest else none
  | [] => none

/-- A date with a month up to 12 and a day up to 31, and the rest. -/
def readDate? (text : List Char) : Option (Date × List Char) := do
  let (year, rest) ← readPlaces? 4 text
  let (month, rest) ← readPair? 1 12 (← after? '-' rest)
  let (day, rest) ← readPair? 1 31 (← after? '-' rest)
  return (⟨year, month, day⟩, rest)

/-- The text after a part of a second, if one is written. -/
def skipFraction : List Char → List Char
  | '.' :: c :: rest => if isDigit c then rest.dropWhile isDigit else '.' :: c :: rest
  | other => other

/-- The text after a time. -/
def readTime? (text : List Char) : Option (List Char) := do
  let (_, rest) ← readPair? 0 23 text
  let (_, rest) ← readPair? 0 59 (← after? ':' rest)
  let (_, rest) ← readPair? 0 59 (← after? ':' rest)
  return skipFraction rest

/-- The text after the hours and minutes of an offset. -/
def readShift? (text : List Char) : Option (List Char) := do
  let (_, rest) ← readPair? 0 23 text
  let (_, rest) ← readPair? 0 59 (← after? ':' rest)
  return rest

/-- The text after an offset from universal time, if one is written. -/
def readOffset (text : List Char) : List Char :=
  match text with
  | c :: rest =>
    if c = 'Z' || c = 'z' then rest
    else if c = '+' || c = '-' then (readShift? rest).getD text
    else text
  | [] => text

/-- The text after the time that goes with a date, if one is written. -/
def readTimeOfDay (text : List Char) : List Char :=
  match text with
  | c :: rest =>
    if c = 'T' || c = 't' || c = ' ' then ((readTime? rest).map readOffset).getD text
    else text
  | [] => text

/-- Whether there is the day that a date at the start of a text names, or that a
time there goes with, and the text after it. -/
def readMoment? (text : List Char) : Option (Bool × List Char) :=
  match readDate? text with
  | some (date, rest) => some (date.isReal, readTimeOfDay rest)
  | none => (readTime? text).map fun rest => (true, rest)

end SchemaDrift.Toml
