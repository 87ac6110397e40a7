import SchemaDrift.Text.Name
import SchemaDrift.Toml.Moment
import SchemaDrift.Toml.Number
import SchemaDrift.Toml.Quoted
import SchemaDrift.Toml.Table

/-!
# Keys and values of TOML

* `Key` — a dotted key, and `readKey?`.
* `skipTrivia?` — what may stand between the items of an array.
* `nestingRoom` — how deep values may be nested.
* `readValue` — a value at the start of a text.
-/

namespace SchemaDrift.Toml

open Text

/-! ## Keys -/

/-- A dotted key: a name in the table to which other names lead. -/
structure Key where
  parents : List String
  name : String
  deriving DecidableEq, Repr

/-- A character of a bare key. -/
def isBareChar (c : Char) : Bool := isLetter c || isDigit c || c == '-' || c == '_'

/-- A part of a key: bare, or a string on one line. -/
def readKeyPart? (text : List Char) : Option (String × List Char) :=
  match text with
  | '"' :: rest => (readBasic rest).map fun found => (String.ofList found.1, found.2)
  | '\'' :: rest => (readLiteral rest).map fun found => (String.ofList found.1, found.2)
  | _ =>
    match text.takeWhile isBareChar with
    | [] => none
    | part => some (String.ofList part, text.dropWhile isBareChar)

/-- A dotted key of no more parts than the bound, with the blanks after it, and the
rest of the text. -/
def readKeyParts? : Nat → List Char → Option (Key × List Char)
  | 0, _ => none
  | bound + 1, input => do
    let (part, rest) ← readKeyPart? input
    match skipBlanks rest with
    | '.' :: rest => do
        let (key, rest) ← readKeyParts? bound (skipBlanks rest)
        return (⟨part :: key.parents, key.name⟩, rest)
    | rest => return (⟨[], part⟩, rest)

/-- A dotted key with the blanks after it, and the rest of the text. -/
def readKey? (text : List Char) : Option (Key × List Char) := readKeyParts? text.length text

/-! ## Between values -/

/-- The text after blanks, line feeds and comments. -/
def skipTrivia? : (inComment : Bool) → List Char → Option (List Char)
  | _, [] => some []
  | inComment, c :: rest =>
      if c = '\n' then skipTrivia? false rest
      else if inComment then (if isControl c then none else skipTrivia? true rest)
      else if isBlank c then skipTrivia? false rest
      else if c = '#' then skipTrivia? true rest
      else some (c :: rest)

/-- The rest of a text that starts with the given word. -/
def afterWord? (word : String) (text : List Char) : Option (List Char) :=
  if word.toList.isPrefixOf text then some (text.drop word.length) else none

/-! ## Values -/

/-- A truth value, and the rest of the text. -/
def readBool? (text : List Char) : Option (Toml × List Char) :=
  ((afterWord? "true" text).map fun rest => (.bool true, rest)).or
    ((afterWord? "false" text).map fun rest => (.bool false, rest))

/-- A date, a time or a number, and the rest of the text. -/
def readPlain (input : List Char) : Except TomlFault (Toml × List Char) :=
  match readMoment? input with
  | some (isReal, rest) =>
      if isReal then
        .ok (.moment (String.ofList (input.take (input.length - rest.length))), rest)
      else .error .malformed
  | none => readNumber input

/-- A text in quotes, and the rest. -/
def readText? (input : List Char) : Option (Toml × List Char) :=
  (readQuoted? input).map fun found => (.text (String.ofList found.1), found.2)

/-- A value that holds no others, and the rest of the text. -/
def readScalar (input : List Char) : Except TomlFault (Toml × List Char) :=
  match input with
  | '"' :: _ => require (readText? input)
  | '\'' :: _ => require (readText? input)
  | _ =>
    match readBool? input with
    | some found => .ok found
    | none => readPlain input

/-- The room that an array takes of that for the values in it. -/
def arrayRoom : Nat := 2

/-- The room that a table on one line takes of that for the values in it. -/
def tableRoom : Nat := 3

/-- The room for values in one another. -/
def nestingRoom : Nat := 988

/-- What is left of some room when so much of it is taken. -/
def takeRoom (taken room : Nat) : Except TomlFault Nat :=
  if taken ≤ room then .ok (room - taken) else .error .tooDeep

mutual

/-- A value at the start of a text, no longer than the bound, that fits into the room,
and the rest. -/
def readValue : (bound room : Nat) → List Char → Except TomlFault (Toml × List Char)
  | 0, _, _ => .error .malformed
  | bound + 1, room, input =>
    match input with
    | '[' :: rest => do
      let (items, rest) ← readItems bound (← takeRoom arrayRoom room) rest
      return (.array items, rest)
    | '\x7b' :: rest => do
      let room ← takeRoom tableRoom room
      match skipBlanks rest with
      | '\x7d' :: rest => return (.table [], rest)
      | rest => do
        let (members, rest) ← readMembers bound room [] rest
        return (.table (Node.settleMembers members), rest)
    | _ => readScalar input

/-- The items of an array up to its end, and the rest. -/
def readItems : (bound room : Nat) → List Char → Except TomlFault (List Toml × List Char)
  | 0, _, _ => .error .malformed
  | bound + 1, room, input => do
    match ← require (skipTrivia? false input) with
    | ']' :: rest => return ([], rest)
    | rest => do
      let (item, rest) ← readValue bound room rest
      match ← require (skipTrivia? false rest) with
      | ',' :: rest => do
          let (items, rest) ← readItems bound room rest
          return (item :: items, rest)
      | ']' :: rest => return ([item], rest)
      | _ => .error .malformed

/-- The members of a table on one line up to its end, put to those before them,
and the rest. -/
def readMembers : (bound room : Nat) → Keyed String Node → List Char →
    Except TomlFault (Keyed String Node × List Char)
  | 0, _, _, _ => .error .malformed
  | bound + 1, room, members, input => do
    let (key, rest) ← require (readKey? input)
    match rest with
    | '=' :: rest => do
      let (value, rest) ← readValue bound room (skipBlanks rest)
      let members ← require (Node.assign 0 key.name value key.parents members)
      match skipBlanks rest with
      | ',' :: rest => readMembers bound room members (skipBlanks rest)
      | '\x7d' :: rest => return (members, rest)
      | _ => .error .malformed
    | _ => .error .malformed

end

end SchemaDrift.Toml
