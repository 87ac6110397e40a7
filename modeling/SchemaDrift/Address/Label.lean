import SchemaDrift.Address.Label.Character
import SchemaDrift.Address.Label.Punycode

/-!
# Labels of domain names

A domain name consists of labels between dots.  A label is sound if all its
characters may stand where they do, in one way of writing only.

* `isComposed` — no characters that one character stands for, no marks out of order.
* `fitsContext` — does a character fit those around it?
* `fitsDirection` — can a label be written in one direction?
* `meantLabel?` — what a label in ASCII stands for.
* `isLabel` — the sound labels.
-/

namespace SchemaDrift.Address

/-! ## Combining -/

/-- Is a text written with as few characters as possible, and are its marks in order?
The text comes after a character that may combine and a mark of the given class, which
is zero without one. -/
def isComposedAfter : (base : Option Char) → (last : Nat) → List Char → Bool
  | _, _, [] => true
  | base, last, c :: rest =>
    let rank := combiningClass c
    let isOrdered := rank = 0 || last ≤ rank
    let reaches := last = 0 || last < rank
    let combines := reaches && base.any fun first => composes first c
    isOrdered && !combines
      && isComposedAfter (if rank = 0 then some c else base) rank rest

/-- Is a text written with as few characters as possible, and are its marks in order? -/
def isComposed (text : List Char) : Bool := isComposedAfter none 0 text

/-! ## Context -/

/-- Do the characters on one side of a gap join over it, the nearest first? -/
def joinsOver (side : Joining) (neighbours : List Char) : Bool :=
  match (neighbours.map joiningOf).find? fun joining => joining != .transparent with
  | some joining => joining == .both || joining == side
  | none => false

/-- Is a character one of ten digits, given the code point of the first? -/
def isAmongDigits (first : Nat) (c : Char) : Bool :=
  decide (first ≤ c.toNat) && decide (c.toNat ≤ first + 9)

/-- Does a character fit those before it, the nearest first, and those after it? -/
def fitsContext (before : List Char) (c : Char) (after : List Char) : Bool :=
  let followsVirama := before.head?.any fun last => combiningClass last == virama
  let others := before ++ after
  if isPermitted c then true
  else if c = '\u200c' then
    followsVirama || (joinsOver .left before && joinsOver .right after)
  else if c = '\u200d' then followsVirama
  else if c = '·' then before.head? = some 'l' && after.head? = some 'l'
  else if c = '\u0375' then after.head?.any fun next => scriptOf? next == some .greek
  else if c = '\u05f3' || c = '\u05f4' then
    before.head?.any fun last => scriptOf? last == some .hebrew
  else if c = '\u30fb' then others.any fun other => scriptOf? other == some .japanese
  else if isAmongDigits 0x660 c then !others.any (isAmongDigits 0x6f0)
  else if isAmongDigits 0x6f0 c then !others.any (isAmongDigits 0x660)
  else false

/-- Do all characters fit those around them?  The ones before the text come first, the
nearest first. -/
def fitContexts : (before : List Char) → List Char → Bool
  | _, [] => true
  | before, c :: rest => fitsContext before c rest && fitContexts (c :: before) rest

/-! ## Direction -/

namespace Direction

/-- The directions in a label from right to left. -/
def isLeftward (direction : Direction) : Bool := direction != .leftToRight

/-- The directions in a label from left to right that holds another. -/
def isRightward (direction : Direction) : Bool :=
  direction == .leftToRight || direction == .europeanDigit || direction == .mark
    || direction == .neutral

/-- May a label from right to left end so, but for marks? -/
def endsLeftward (direction : Direction) : Bool :=
  direction == .rightToLeft || direction == .arabicLetter || direction == .arabicDigit
    || direction == .europeanDigit

/-- May a label from left to right end so, but for marks? -/
def endsRightward (direction : Direction) : Bool :=
  direction == .leftToRight || direction == .europeanDigit

end Direction

/-- Can a label be written in one direction?  If nothing in it is written from right to
left it can. -/
def fitsDirection (label : List Char) : Bool :=
  let directions := label.map directionOf
  let last := directions.reverse.find? fun direction => direction != .mark
  if directions.any fun direction => direction == .rightToLeft || direction == .arabicLetter
      || direction == .arabicDigit then
    match directions with
    | .leftToRight :: _ => directions.all Direction.isRightward && last.any Direction.endsRightward
    | first :: _ =>
        (first == .rightToLeft || first == .arabicLetter)
          && directions.all Direction.isLeftward && last.any Direction.endsLeftward
          && !(directions.contains .arabicDigit && directions.contains .europeanDigit)
    | [] => true
  else true

/-! ## Labels -/

/-- Do hyphens stand at neither end, and not at the third and fourth place? -/
def fitHyphens (label : List Char) : Bool :=
  (label.drop 2).take 2 != ['-', '-'] && label.head? != some '-' && label.getLast? != some '-'

/-- What a label in ASCII that stands for another one starts with. -/
def encodedStart : List Char := ['x', 'n', '-', '-']

/-- Is a label sound, written as it is? -/
def isPlainLabel (label : List Char) : Bool :=
  !label.isEmpty && isComposed label && fitHyphens label && !label.head?.any isMark
    && fitContexts [] label && fitsDirection label

/-- Is a character an ASCII one? -/
def isAscii (c : Char) : Bool := c.toNat < 0x80

/-- A label as it is sent: in ASCII. -/
def sentLabel (label : List Char) : List Char :=
  if label.all isAscii then label else encodedStart ++ Punycode.encode label

/-- The most characters of a label as it is sent. -/
def labelLimit : Nat := 63

/-- The label that a label stands for: one in ASCII may stand for another one. -/
def meantLabel? (label : List Char) : Option (List Char) :=
  if label.all isAscii && encodedStart.isPrefixOf label then
    let encoded := label.drop encodedStart.length
    if encoded.isEmpty || encoded.getLast? = some '-' then none else Punycode.decode? encoded
  else some label

/-- Is a label sound? -/
def isLabel (label : List Char) : Bool :=
  (meantLabel? label).any isPlainLabel && (sentLabel label).length ≤ labelLimit

end SchemaDrift.Address
