import SchemaDrift.Sdl.BlockString
import SchemaDrift.Sdl.Token
import SchemaDrift.Text.Name

/-!
# Lexemes of a text

A text is cut into tokens from left to right.  White space, line ends, commas,
byte order marks and comments stand between tokens.  What is no token ends the
text.

* `Step`, `step` — what stands at the start of a text.
* `Lexeme` — a token with its place.
* `lexemes` — the tokens of a text.
-/

namespace SchemaDrift.Sdl

open Text

/-! ## Numbers -/

/-- A fault, and the text from the character at fault on. -/
structure Stuck where
  fault : LexFault
  rest : List Char
  deriving DecidableEq, Repr

/-- The text after one or more digits. -/
def afterDigits (text : List Char) : Except Stuck (List Char) :=
  match text with
  | [] => .error ⟨.digitExpected none, text⟩
  | c :: _ =>
    if isDigit c then .ok (text.dropWhile isDigit)
    else .error ⟨.digitExpected (some c), text⟩

/-- The text after the whole part of a number: a zero, or digits. -/
def afterWhole (text : List Char) : Except Stuck (List Char) :=
  match text with
  | '0' :: d :: rest =>
      if isDigit d then .error ⟨.digitAfterZero d, d :: rest⟩ else .ok (d :: rest)
  | ['0'] => .ok []
  | _ => afterDigits text

/-- The text after the fraction of a number, and whether there is one. -/
def afterFraction (text : List Char) : Except Stuck (List Char × Bool) :=
  match text with
  | '.' :: rest => do return (← afterDigits rest, true)
  | _ => .ok (text, false)

/-- The text after the exponent of a number, and whether there is one. -/
def afterExponent (text : List Char) : Except Stuck (List Char × Bool) :=
  match text with
  | c :: rest =>
    if c == 'e' || c == 'E' then
      let unsigned := match rest with
        | s :: more => if s == '+' || s == '-' then more else rest
        | [] => rest
      do return (← afterDigits unsigned, true)
    else .ok (text, false)
  | [] => .ok (text, false)

/-- The text after a number, and whether it has a fraction or exponent.  No
name and no point may follow. -/
def afterNumber (text : List Char) : Except Stuck (List Char × Bool) := do
  let unsigned := match text with
    | '-' :: rest => rest
    | _ => text
  let (rest, fraction) ← afterFraction (← afterWhole unsigned)
  let (rest, exponent) ← afterExponent rest
  match rest with
  | c :: _ =>
    if c == '.' || isNameStart c then throw ⟨.digitExpected (some c), rest⟩
    else return (rest, fraction || exponent)
  | [] => return (rest, fraction || exponent)

/-! ## Strings in quotes -/

/-- The character that a letter after a backslash stands for. -/
def escapedChar? (c : Char) : Option Char :=
  [('"', '"'), ('\\', '\\'), ('/', '/'), ('b', '\x08'), ('f', '\x0c'), ('n', '\n'),
   ('r', '\r'), ('t', '\t')].lookup c

/-- The number of four hexadecimal digits at the start of a text. -/
def fourDigits? (text : List Char) : Option Nat :=
  let digits := text.take 4
  if digits.length = 4 then hexNumber? digits else none

/-- The character of an escape in braces, and the number of characters up to the
closing one; or else the number of characters up to the fault.  The text starts
after the opening brace, so many digits of the given value before. -/
def bracedEscape (count value : Nat) : List Char → Except Nat (Char × Nat)
  | [] => .error count
  | c :: rest =>
    if c = '\x7d' then
      match if count = 0 then none else scalarOf? value with
      | some scalar => .ok (scalar, count + 1)
      | none => .error (count + 1)
    else
      match hexValue? c with
      | some digit => bracedEscape (count + 1) (value * 16 + digit) rest
      | none => .error (count + 1)

/-- The character of an escape with a code point, and the number of characters
from the backslash on.  The text starts at the backslash. -/
def unicodeEscape (text : List Char) : Except LexFault (Char × Nat) :=
  let fault (size : Nat) : LexFault := .unicodeEscape (String.ofList (text.take size))
  match text.drop 2 with
  | '\x7b' :: rest =>
    match bracedEscape 0 0 (rest.take 9) with
    | .ok (scalar, size) => .ok (scalar, size + 3)
    | .error size => .error (fault (size + 3))
  | rest =>
    match fourDigits? rest with
    | none => .error (fault 6)
    | some code =>
      match scalarOf? code, rest.drop 4 with
      | some scalar, _ => .ok (scalar, 6)
      | none, '\\' :: 'u' :: more =>
        match (fourDigits? more).bind (pairedScalar? code) with
        | some scalar => .ok (scalar, 12)
        | none => .error (fault 6)
      | none, _ => .error (fault 6)

/-- The character of an escape, and the number of characters from the backslash
on.  The text starts at the backslash. -/
def escape (text : List Char) : Except LexFault (Char × Nat) :=
  match text with
  | _ :: 'u' :: _ => unicodeEscape text
  | _ :: c :: _ =>
    match escapedChar? c with
    | some decoded => .ok (decoded, 2)
    | none => .error (.charEscape (String.ofList (text.take 2)))
  | _ => .error (.charEscape (String.ofList text))

/-- The value of a string from after its opening quote on, and the number of
characters up to the closing one; so many characters at the start belong to an
escape already decoded. -/
def quotedText : Nat → List Char → Except Stuck (List Char × Nat)
  | _, [] => .error ⟨.unterminated, []⟩
  | taken + 1, _ :: rest => do
      let (value, passed) ← quotedText taken rest
      return (value, passed + 1)
  | 0, c :: rest =>
    if c = '"' then .ok ([], 1)
    else if c = '\\' then
      match escape (c :: rest) with
      | .error fault => .error ⟨fault, c :: rest⟩
      | .ok (decoded, size) => do
          let (value, passed) ← quotedText (size - 1) rest
          return (decoded :: value, passed + 1)
    else if isBreak c then .error ⟨.unterminated, c :: rest⟩
    else do
      let (value, passed) ← quotedText 0 rest
      return (c :: value, passed + 1)

/-! ## One step -/

/-- What stands at the start of a text. -/
inductive Step where
  /-- So many characters that stand between tokens. -/
  | ignored (size : Nat)
  /-- A token of so many characters. -/
  | token (token : Token) (size : Nat)
  /-- A fault after so many characters. -/
  | fault (fault : LexFault) (after : Nat)
  deriving DecidableEq, Repr

/-- The characters that stand between tokens. -/
def isIgnored (c : Char) : Bool :=
  c == ' ' || c == '\t' || c == ',' || c == '\ufeff' || isBreak c

/-- A number at the start of a text. -/
def numberStep (text : List Char) : Step :=
  match afterNumber text with
  | .error stuck => .fault stuck.fault (text.length - stuck.rest.length)
  | .ok (rest, isFloat) =>
    let size := text.length - rest.length
    let written := String.ofList (text.take size)
    .token (if isFloat then .float written else .int written) size

/-- A string at the start of a text. -/
def stringStep (text : List Char) : Step :=
  match text with
  | '"' :: '"' :: '"' :: rest =>
    match blockText rest with
    | some (content, passed) =>
        .token (.block (String.ofList (BlockString.value content))) (passed + 3)
    | none => .fault .unterminated text.length
  | _ =>
    match quotedText 0 (text.drop 1) with
    | .ok (content, passed) => .token (.string (String.ofList content)) (passed + 1)
    | .error stuck => .fault stuck.fault (text.length - stuck.rest.length)

/-- Dots at the start of a text. -/
def dotStep (text : List Char) : Step :=
  match text with
  | '.' :: '.' :: '.' :: _ => .token (.punct .spread) 3
  | '.' :: '.' :: _ => .fault .twoDots 0
  | _ =>
    let digits := (text.drop 1).takeWhile isDigit
    if digits.isEmpty then .fault (.strayChar '.') 0
    else .fault (.digitBeforePoint (String.ofList digits)) 0

/-- What stands at the start of a text that starts with the given character. -/
def step (c : Char) (rest : List Char) : Step :=
  if isIgnored c then .ignored 1
  else if c = '#' then .ignored (1 + (rest.takeWhile fun d => !isBreak d).length)
  else if c = '"' then stringStep (c :: rest)
  else
    match Punct.ofChar? c with
    | some mark => .token (.punct mark) 1
    | none =>
      if isDigit c || c = '-' then numberStep (c :: rest)
      else if isNameStart c then
        let name := c :: rest.takeWhile isNameChar
        .token (.name (String.ofList name)) name.length
      else if c = '.' then dotStep (c :: rest)
      else if c = '\'' then .fault .singleQuote 0
      else .fault (.strayChar c) 0

/-! ## All steps -/

/-- A token with the offset at which it starts and the line on which it does. -/
structure Lexeme where
  token : Token
  offset : Nat
  line : Nat
  deriving DecidableEq, Repr, Inhabited

/-- Does a line end with the first character of a text? -/
def endsLine (c : Char) (rest : List Char) : Bool :=
  c == '\n' || (c == '\r' && rest.head? != some '\n')

/-- The number of lines that end in a text. -/
def lineEnds : List Char → Nat
  | [] => 0
  | c :: rest => (if endsLine c rest then 1 else 0) + lineEnds rest

/-- The tokens of a text from the given offset and line on; the first so many
characters belong to what was passed already. -/
def lexemesFrom : Nat → Nat → Nat → List Char → List Lexeme
  | _, offset, line, [] => [⟨.stop, offset, line⟩]
  | taken, offset, line, c :: rest =>
    let line' := if endsLine c rest then line + 1 else line
    match taken with
    | taken + 1 => lexemesFrom taken (offset + 1) line' rest
    | 0 =>
      match step c rest with
      | .ignored size => lexemesFrom (size - 1) (offset + 1) line' rest
      | .token token size =>
          ⟨token, offset, line⟩ :: lexemesFrom (size - 1) (offset + 1) line' rest
      | .fault fault after =>
          [⟨.invalid fault, offset + after, line + lineEnds ((c :: rest).take after)⟩]

/-- The tokens of a text in order; the last one is the end of the text or what
is no token. -/
def lexemes (text : List Char) : List Lexeme := lexemesFrom 0 0 1 text

end SchemaDrift.Sdl
