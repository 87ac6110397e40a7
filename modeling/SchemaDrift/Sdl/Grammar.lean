import SchemaDrift.Sdl.Grammar.Definition
import SchemaDrift.Sdl.Lexeme

/-!
# The grammar of documents

* `statement` — the reader of a statement, which the word at its start tells.
* `document` — the reader of a whole document.
* `Tree.ofText`, `Document.ofText` — the document that a text stands for, with and without the
  places of its statements.
-/

namespace SchemaDrift.Sdl

open Reader

/-! ## Statements -/

/-- An extension of a part of a schema. -/
def extension : Reader Statement := do
  match ← lookahead with
  | .name word =>
      if word = "schema" then schemaExtension
      else if word = "directive" then directiveExtension
      else if typeWords.contains word then typeExtension word
      else do throw ⟨.unexpected (.name word), (← spot) - 1⟩
  | token => do throw ⟨.unexpected token, (← spot) - 1⟩

/-- Does a token describe what comes after it? -/
def Token.isDescription : Token → Bool
  | .string _ => true
  | .block _ => true
  | _ => false

/-- The reader of what may be described, by the word for it. -/
def describable? (word : String) : Option (Reader Statement) :=
  if word = "schema" then some schemaDefinition
  else if word = "directive" then some directiveDefinition
  else if word = "fragment" then some fragmentDefinition
  else if typeWords.contains word then some (typeDefinition word)
  else if (OperationKind.ofWord? word).isSome then some operationDefinition
  else none

/-- A statement.  The word that opens it comes first or after a description; a query
may have no word. -/
def statement : Reader Statement := do
  let described := (← peek).isDescription
  let keyword ← if described then lookahead else peek
  let refused : Reader Statement := do
    throw ⟨.unexpected keyword, (← spot) - (if described then 1 else 0)⟩
  match keyword with
  | .punct .braceOpen =>
      if described then refuse .describedShorthand else operationDefinition
  | .name word =>
      match describable? word with
      | some reader => reader
      | none =>
        if described then refuse .strayDescription
        else if word = "extend" then extension
        else refused
  | _ => refused

/-- Statements up to the end of the text, each with where it starts. -/
def statementsWithin : Nat → Reader (List (Statement × Spot))
  | 0 => unexpected
  | bound + 1 => do
    let start ← spot
    let first ← statement
    if (← peek) = .stop then return [(first, start)]
    else do
      let rest ← statementsWithin bound
      return (first, start) :: rest

/-- A whole document: at least one statement. -/
def document : Reader (List (Statement × Spot)) := do
  checkToken
  statementsWithin (← bound)

/-! ## Documents of texts -/

/-- The statements that tokens stand for, each with where it starts. -/
def statementsOf (tokens : List Token) : Except Refusal (List (Statement × Spot)) :=
  (document tokens).map Prod.fst

/-- A fault with the line on which it is. -/
structure LocatedFault where
  fault : Fault
  line : Nat
  deriving DecidableEq, Repr, Inhabited

/-- The lexeme at a spot. -/
def lexemeAt? (lexemes : List Lexeme) (spot : Spot) : Option Lexeme :=
  lexemes[lexemes.length - spot]?

/-- The line of the lexeme at a spot. -/
def lineOf (lexemes : List Lexeme) (spot : Spot) : Nat :=
  ((lexemeAt? lexemes spot).map Lexeme.line).getD 1

/-- The offset of the lexeme at a spot. -/
def offsetOf (lexemes : List Lexeme) (spot : Spot) : Nat :=
  ((lexemeAt? lexemes spot).map Lexeme.offset).getD 0

/-- The statements that a text stands for, each with its place. -/
def Tree.ofText (text : String) : Except LocatedFault Tree :=
  let found := lexemes text.toList
  match statementsOf (found.map Lexeme.token) with
  | .ok read => .ok (read.map fun (statement, spot) => ⟨statement, offsetOf found spot⟩)
  | .error refusal => .error ⟨refusal.fault, lineOf found refusal.spot⟩

/-- The document that a text stands for. -/
def Document.ofText (text : String) : Except LocatedFault Document :=
  (Tree.ofText text).map Tree.document

end SchemaDrift.Sdl
