import SchemaDrift.Address.Label
import SchemaDrift.Text.Name

/-!
# Hosts

A host is a number of four parts, a number of eight parts in brackets, or a name.

* `isFourPart`, `isEightPart` — the two kinds of numbers.
* `isDomain` — the names with characters beyond ASCII.
* `isHost` — the sound hosts.
-/

namespace SchemaDrift.Address

open Text

/-- The pieces of a text between characters of a kind; there is always one. -/
def piecesBetween (isSeparator : Char → Bool) : List Char → List (List Char)
  | [] => [[]]
  | c :: rest =>
    if isSeparator c then [] :: piecesBetween isSeparator rest
    else
      match piecesBetween isSeparator rest with
      | [] => [[c]]
      | piece :: pieces => (c :: piece) :: pieces

/-! ## Four parts -/

/-- Does a text look like a number of so many parts and one more: rows of digits with
one character of any kind between neighbours?  In a row a digit was seen already, or
not. -/
def looksNumericFrom : (more : Nat) → (inRow : Bool) → List Char → Bool
  | more, inRow, [] => more = 0 && inRow
  | more, inRow, c :: rest =>
    (isDigit c && looksNumericFrom more true rest)
      || (match more with
        | 0 => false
        | fewer + 1 => inRow && looksNumericFrom fewer false rest)

/-- Does a text look like a number of four parts? -/
def looksNumeric (text : List Char) : Bool := looksNumericFrom 3 false text

/-- A part of a number of four parts: at most 255, without zeros in front. -/
def isOctet (text : List Char) : Bool :=
  !text.isEmpty && text.all isDigit && text.length ≤ 3
    && (text == ['0'] || text.head? != some '0')
    && text.foldl (fun value c => value * 10 + (c.toNat - '0'.toNat)) 0 ≤ 255

/-- Is a text a number of four parts between dots? -/
def isFourPart (text : List Char) : Bool :=
  let parts := piecesBetween (· == '.') text
  parts.length = 4 && parts.all isOctet

/-! ## Eight parts -/

/-- A part of a number of eight parts: up to four hexadecimal digits. -/
def isHextet (text : List Char) : Bool :=
  !text.isEmpty && text.length ≤ 4 && text.all fun c => (hexValue? c).isSome

/-- Parts in which the last one stands for two if it is a number of four parts; there
are none if it only looks like one. -/
def spreadParts? (parts : List (List Char)) : Option (List (List Char)) :=
  match parts.getLast? with
  | some last =>
      if last.contains '.' then
        if isFourPart last then some (parts.dropLast ++ [['0'], ['0']]) else none
      else some parts
  | none => some parts

/-- Are parts those of a number of eight, with one gap for the parts that are zero?  The
gap is an empty part that has neighbours; before or after it another empty part may
stand at the end. -/
def areEightParts (parts : List (List Char)) : Bool :=
  let inner := (parts.drop 1).dropLast
  match inner.findIdx? List.isEmpty with
  | none => parts.length = 8 && parts.all isHextet
  | some index =>
      let high := parts.take (index + 1)
      let low := parts.drop (index + 2)
      let high := if high == [[]] then [] else high
      let low := if low == [[]] then [] else low
      high.all isHextet && low.all isHextet && high.length + low.length < 8

/-- Is a text a number of eight parts between colons, perhaps with a zone after a
percent sign? -/
def isEightPart (text : List Char) : Bool :=
  let number := text.takeWhile (· != '%')
  let zone := text.drop number.length
  let parts := piecesBetween (· == ':') number
  let isZone := zone.isEmpty || (zone.length ≥ 2 && !(zone.drop 1).contains '%')
  !text.contains '/' && isZone && 3 ≤ parts.length
    && (spreadParts? parts).any fun parts => parts.length ≤ 9 && areEightParts parts

/-! ## Names -/

/-- The dots of all scripts. -/
def isDot (c : Char) : Bool := c == '.' || c == '\u3002' || c == '\uff0e' || c == '\uff61'

/-- The most characters of a name as it is sent, without a dot at its end. -/
def domainLimit : Nat := 253

/-- Is a text a name whose labels are sound?  It may end in a dot. -/
def isDomain (text : List Char) : Bool :=
  let parts := piecesBetween isDot (text.map lowerCase)
  let labels := if parts.getLast? == some [] then parts.dropLast else parts
  let sent := List.intercalate ['.'] (labels.map sentLabel)
  !labels.isEmpty && labels.all isLabel && sent.length ≤ domainLimit

/-! ## Hosts -/

/-- The text between brackets. -/
def inBrackets? (text : List Char) : Option (List Char) :=
  match text with
  | '[' :: rest => if rest.getLast? == some ']' then some rest.dropLast else none
  | _ => none

/-- Is a host sound?  There may be none, and a name in ASCII may be any. -/
def isHost (text : List Char) : Bool :=
  if text.isEmpty then true
  else if looksNumeric text then isFourPart text
  else
    match inBrackets? text with
    | some inner => isEightPart inner
    | none => (text.all fun c => c.toNat < 0x80) || isDomain text

end SchemaDrift.Address
