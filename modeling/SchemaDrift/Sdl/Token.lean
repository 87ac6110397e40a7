import SchemaDrift.Text.Hex

/-!
# Tokens of schema documents

* `Punct`, `Token` — the tokens.
* `LexFault` — why a text is not a token.
* `Token.describe` — the words for a token in messages.
-/

namespace SchemaDrift.Sdl

/-- The punctuators. -/
inductive Punct where
  | bang
  | dollar
  | amp
  | parenOpen
  | parenClose
  | spread
  | colon
  | equals
  | atSign
  | bracketOpen
  | bracketClose
  | braceOpen
  | pipe
  | braceClose
  deriving DecidableEq, Repr, Inhabited

/-- The punctuators of one character. -/
def Punct.singles : List (Char × Punct) :=
  [('!', .bang), ('$', .dollar), ('&', .amp), ('(', .parenOpen), (')', .parenClose),
   (':', .colon), ('=', .equals), ('@', .atSign), ('[', .bracketOpen), (']', .bracketClose),
   ('\x7b', .braceOpen), ('|', .pipe), ('\x7d', .braceClose)]

/-- The punctuator of a character. -/
def Punct.ofChar? (c : Char) : Option Punct := Punct.singles.lookup c

/-- A punctuator as it is written. -/
def Punct.text (mark : Punct) : String :=
  match Punct.singles.find? fun entry => entry.2 == mark with
  | some entry => String.singleton entry.1
  | none => "..."

/-- Why a text is not a token. -/
inductive LexFault where
  /-- A string without an end. -/
  | unterminated
  /-- A character that starts no token. -/
  | strayChar (found : Char)
  /-- A string in single quotes. -/
  | singleQuote
  /-- Two dots in place of three. -/
  | twoDots
  /-- A number without a digit where one has to be. -/
  | digitExpected (found : Option Char)
  /-- A number with a digit after a leading zero. -/
  | digitAfterZero (found : Char)
  /-- A number without a digit before its point. -/
  | digitBeforePoint (digits : String)
  /-- A backslash before a character that needs none. -/
  | charEscape (text : String)
  /-- An escape that gives no character. -/
  | unicodeEscape (text : String)
  deriving DecidableEq, Repr, Inhabited

/-- A character in messages: in quotes if it is printable ASCII, or else its code
point. -/
def describeChar (c : Char) : String :=
  if ' ' ≤ c && c ≤ '~' then String.ofList ['\'', c, '\'']
  else "U+" ++ String.ofList (Text.upperHex 4 c.toNat)

/-- What was found in place of a digit. -/
def describeFound : Option Char → String
  | none => "<EOF>"
  | some c => describeChar c

/-- The message for a fault. -/
def LexFault.message : LexFault → String
  | .unterminated => "Unterminated string."
  | .strayChar c => "Unexpected character: " ++ describeChar c ++ "."
  | .singleQuote =>
      "Unexpected single quote character ('), did you mean to use a double quote (\")?"
  | .twoDots => "Unexpected '..', did you mean '...'?"
  | .digitExpected found =>
      "Invalid number, expected digit but got: " ++ describeFound found ++ "."
  | .digitAfterZero found =>
      "Invalid number, unexpected digit after 0: " ++ describeChar found ++ "."
  | .digitBeforePoint digits =>
      "Invalid number, expected digit before '.', did you mean '0." ++ digits ++ "'?"
  | .charEscape text => "Invalid character escape sequence: '" ++ text ++ "'."
  | .unicodeEscape text => "Invalid Unicode escape sequence: '" ++ text ++ "'."

/-- The tokens of a schema document. -/
inductive Token where
  | punct (mark : Punct)
  | name (text : String)
  | int (text : String)
  | float (text : String)
  /-- A string in quotes, decoded. -/
  | string (value : String)
  /-- A string in triple quotes, decoded. -/
  | block (value : String)
  /-- What is no token. -/
  | invalid (fault : LexFault)
  /-- The end of the text. -/
  | stop
  deriving DecidableEq, Repr, Inhabited

namespace Token

/-- The words for a token in messages. -/
def describe : Token → String
  | punct mark => "'" ++ mark.text ++ "'"
  | name text => "Name '" ++ text ++ "'"
  | int text => "Int '" ++ text ++ "'"
  | float text => "Float '" ++ text ++ "'"
  | string value => "String '" ++ value ++ "'"
  | block value => "BlockString '" ++ value ++ "'"
  | invalid _ => "<INVALID>"
  | stop => "<EOF>"

/-- The text or value that a token carries. -/
def value? : Token → Option String
  | name text => some text
  | int text => some text
  | float text => some text
  | string value => some value
  | block value => some value
  | _ => none

end Token

end SchemaDrift.Sdl
