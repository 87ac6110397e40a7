import SchemaDrift.Toml.Value

/-!
# TOML documents

A document is read line by line; a line holds a header, an assignment or
nothing.  Each statement is put to those before it as soon as it is read, so the
first fault of a document counts, of whatever kind it is.

* `Statement` — a header or an assignment.
* `Outline` — the document that statements come to so far.
* `readOutline` — the statements of a text put to those before them.
* `Toml.read` — the table of a document.
-/

namespace SchemaDrift.Toml

/-- What a line of a document says. -/
inductive Statement where
  | assign (key : Key) (value : Toml)
  /-- A header that opens a table. -/
  | table (key : Key)
  /-- A header that opens one more table of a row. -/
  | row (key : Key)

/-! ## Statements -/

/-- The text after the rest of a line on which nothing but a comment stands. -/
def finishLine? : (inComment : Bool) → List Char → Option (List Char)
  | _, [] => some []
  | inComment, c :: rest =>
      if c = '\n' then some rest
      else if inComment then (if isControl c then none else finishLine? true rest)
      else if isBlank c then finishLine? false rest
      else if c = '#' then finishLine? true rest
      else none

/-- The header of a row from after its first bracket on, and the rest. -/
def readRowHeader? (input : List Char) : Option (Statement × List Char) := do
  let (key, rest) ← readKey? (skipBlanks input)
  return (.row key, ← afterWord? "]]" rest)

/-- The header of a table from after its bracket on, and the rest. -/
def readTableHeader? (input : List Char) : Option (Statement × List Char) := do
  let (key, rest) ← readKey? (skipBlanks input)
  return (.table key, ← afterWord? "]" rest)

/-- An assignment, and the rest. -/
def readAssignment (input : List Char) : Except TomlFault (Statement × List Char) := do
  let (key, rest) ← require (readKey? input)
  let rest ← require (afterWord? "=" rest)
  let (value, rest) ← readValue (2 * input.length + 2) nestingRoom (skipBlanks rest)
  return (.assign key value, rest)

/-- The statement at the start of a text, and the rest. -/
def readStatement (input : List Char) : Except TomlFault (Statement × List Char) :=
  match input with
  | '[' :: '[' :: rest => require (readRowHeader? rest)
  | '[' :: rest => require (readTableHeader? rest)
  | _ => readAssignment input

/-! ## Putting together -/

/-- A document so far: its nodes, and the names and the number of the block that is
open. -/
structure Outline where
  members : Keyed String Node := []
  header : List String := []
  block : Nat := 0

/-- A document with one more statement. -/
def Outline.add (outline : Outline) : Statement → Option Outline
  | .assign key value => do
      let change := Node.assign outline.block key.name value key.parents
      return { outline with members := ← Node.within change outline.header outline.members }
  | .table key => do
      let block := outline.block + 1
      let members ← Node.within (Node.declare block key.name) key.parents outline.members
      return ⟨members, key.parents ++ [key.name], block⟩
  | .row key => do
      let members ← Node.within (Node.append key.name) key.parents outline.members
      return ⟨members, key.parents ++ [key.name], outline.block + 1⟩

/-- A document with the statements of a text of no more lines than the bound. -/
def readOutline : Nat → Outline → List Char → Except TomlFault Outline
  | 0, outline, _ => .ok outline
  | bound + 1, outline, input =>
    match skipBlanks input with
    | [] => .ok outline
    | c :: rest => do
      if c = '\n' || c = '#' then
        readOutline bound outline (← require (finishLine? false (c :: rest)))
      else
        let (statement, rest) ← readStatement (c :: rest)
        let outline ← require (outline.add statement)
        readOutline bound outline (← require (finishLine? false rest))

/-- The members of the table of a document. -/
def read (document : String) : Except TomlFault (List (String × Toml)) := do
  let input := unixLines document.toList
  let outline ← readOutline (input.length + 1) {} input
  return Node.settleMembers outline.members

end SchemaDrift.Toml
