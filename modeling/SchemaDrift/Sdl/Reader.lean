import SchemaDrift.Sdl.Document
import SchemaDrift.Sdl.Token

/-!
# Readers of tokens

Tokens are read from left to right.  The token after the one that is read is
looked at as soon as that one is passed, so what is no token is reported before
anything that comes after the passed token.

* `Fault`, `Refusal` — why and where a document is refused.
* `Reader` — a reader of tokens.
* `Reader.many`, `Reader.optionalMany`, `Reader.any`, `Reader.delimited` — rows of the
  same thing.
-/

namespace SchemaDrift.Sdl

/-! ## Faults -/

/-- Why a document is refused. -/
inductive Fault where
  /-- What is no token. -/
  | lexical (fault : LexFault)
  /-- A token other than the one that has to stand there. -/
  | expected (what : String) (found : Token)
  /-- A token that cannot stand there. -/
  | unexpected (found : Token)
  /-- A variable in a value. -/
  | strayVariable (name : String)
  /-- A word that names no enum value. -/
  | reserved (found : Token)
  /-- A description of what has none. -/
  | strayDescription
  /-- A description of a query without the word for one. -/
  | describedShorthand
  /-- Lists, objects or selections inside too many others. -/
  | tooDeep
  deriving DecidableEq, Repr, Inhabited

/-- The message for a fault. -/
def Fault.message (fault : Fault) : String :=
  "Syntax Error: " ++
    match fault with
    | .lexical fault => fault.message
    | .expected what found => "Expected " ++ what ++ ", found " ++ found.describe ++ "."
    | .unexpected found => "Unexpected " ++ found.describe ++ "."
    | .strayVariable name => "Unexpected variable '$" ++ name ++ "' in constant value."
    | .reserved found =>
        found.describe ++ " is reserved and cannot be used for an enum value."
    | .strayDescription =>
        "Unexpected description, only GraphQL definitions support descriptions."
    | .describedShorthand =>
        "Unexpected description, descriptions are not supported on shorthand queries."
    | .tooDeep => "Document is nested too deeply. Parsing aborted."

/-- A fault, and where it is. -/
structure Refusal where
  fault : Fault
  spot : Spot
  deriving DecidableEq, Repr, Inhabited

/-! ## Readers -/

/-- A reader of tokens. -/
abbrev Reader (α : Type) := StateT (List Token) (Except Refusal) α

namespace Reader

/-- The token that comes next. -/
def peek : Reader Token := do return (← get).headD .stop

/-- Where the next token stands. -/
def spot : Reader Spot := do return (← get).length

/-- Refuses the document at the next token. -/
def refuse {α : Type} (fault : Fault) : Reader α := do
  throw ⟨fault, ← spot⟩

/-- Refuses the next token. -/
def unexpected {α : Type} : Reader α := do refuse (.unexpected (← peek))

/-- Refuses the document if what comes next is no token. -/
def checkToken : Reader Unit := do
  match ← peek with
  | .invalid fault => refuse (.lexical fault)
  | _ => pure ()

/-- Passes the next token. -/
def advance : Reader Unit := do
  modify List.tail
  checkToken

/-- Passes the next token if it is the given one, and tells whether it was. -/
def accept (token : Token) : Reader Bool := do
  if (← peek) = token then
    advance
    return true
  else return false

/-- Passes the next token, which has to be the given punctuator. -/
def expect (mark : Punct) : Reader Unit := do
  let token ← peek
  if token = .punct mark then advance
  else refuse (.expected (Token.punct mark).describe token)

/-- Passes the next token, which has to be the given word. -/
def expectWord (word : String) : Reader Unit := do
  let token ← peek
  if token = .name word then advance
  else refuse (.expected ("'" ++ word ++ "'") token)

/-- The name that comes next. -/
def name : Reader String := do
  match ← peek with
  | .name text => do
      advance
      return text
  | token => refuse (.expected "Name" token)

/-- The token after the next one. -/
def lookahead : Reader Token := do
  match (← get).tail with
  | [] => return .stop
  | .invalid fault :: rest => throw ⟨.lexical fault, rest.length + 1⟩
  | token :: _ => return token

/-! ### Rows of the same thing

The first argument bounds the length of a row; no row is longer than the list
of tokens, which is the bound in use. -/

/-- Things up to a closing punctuator, which is passed. -/
def untilClose {α : Type} (close : Punct) (item : Reader α) : Nat → Reader (List α)
  | 0 => unexpected
  | bound + 1 => do
    if ← accept (.punct close) then return []
    else do
      let first ← item
      let rest ← untilClose close item bound
      return first :: rest

/-- More than the number of tokens to come. -/
def bound : Reader Nat := do return (← get).length + 1

/-- At least one thing between punctuators. -/
def many {α : Type} (start close : Punct) (item : Reader α) : Reader (List α) := do
  expect start
  let first ← item
  let rest ← untilClose close item (← bound)
  return first :: rest

/-- Things between punctuators, perhaps none. -/
def any {α : Type} (start close : Punct) (item : Reader α) : Reader (List α) := do
  expect start
  untilClose close item (← bound)

/-- At least one thing between punctuators, or nothing at all. -/
def optionalMany {α : Type} (start close : Punct) (item : Reader α) : Reader (List α) := do
  if (← peek) = .punct start then many start close item else return []

/-- Things with a punctuator between neighbours, from after the first one on. -/
def moreDelimited {α : Type} (delimiter : Punct) (item : Reader α) : Nat → Reader (List α)
  | 0 => unexpected
  | bound + 1 => do
    if ← accept (.punct delimiter) then do
      let next ← item
      let rest ← moreDelimited delimiter item bound
      return next :: rest
    else return []

/-- At least one thing, with a punctuator between neighbours and perhaps one
before the first. -/
def delimited {α : Type} (delimiter : Punct) (item : Reader α) : Reader (List α) := do
  let _ ← accept (.punct delimiter)
  let first ← item
  let rest ← moreDelimited delimiter item (← bound)
  return first :: rest

end Reader

end SchemaDrift.Sdl
