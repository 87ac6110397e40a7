import SchemaDrift.Decimal.Numeral
import SchemaDrift.Json.Basic
import SchemaDrift.Text.Hex

/-!
# Reading JSON

Only well-formed JSON is read: no comments, no commas at the end, no leading
zeros, no control characters in strings.  The words `NaN`, `Infinity` and
`-Infinity` are read as numbers.  Readers differ in what else they refuse.

* `Json.Reading` — what is refused besides what is malformed.
* `Json.readText`, `Json.readNumber` — strings and numbers.
* `Json.read?` — the value that a text stands for.
-/

namespace SchemaDrift.Json

open Text

/-- The characters that may stand between tokens. -/
def isSpace (c : Char) : Bool := c == ' ' || c == '\t' || c == '\n' || c == '\r'

/-- A text without the space at its start. -/
def skipSpace (text : List Char) : List Char := text.dropWhile isSpace

/-- The rest of a text that starts with the given word. -/
def afterWord (word : String) (text : List Char) : Option (List Char) :=
  if word.toList.isPrefixOf text then some (text.drop word.length) else none

/-! ## Ways of reading -/

/-- The most digits of an integer that are read. -/
def digitLimit : Nat := 4300

/-- What is refused besides what is malformed. -/
structure Reading where
  /-- Are strings read that hold half of a surrogate pair? -/
  readsHalves : Bool
  /-- Is a number read? -/
  reads : Numeral → Bool
  /-- How deep arrays and objects may be nested, if there is a limit. -/
  depth : Option Nat

/-- How messages between programs are read: with limits on the depth, and on the
length of the whole part of any number. -/
def Reading.wire : Reading where
  readsHalves := false
  reads numeral := numeral.sign.toList.length + numeral.whole.length ≤ digitLimit
  depth := some 200

/-- How values of variables are read: with a limit on the digits of integers. -/
def Reading.loose : Reading where
  readsHalves := true
  reads numeral := !numeral.isWhole || numeral.whole.length ≤ digitLimit
  depth := none

/-! ## Strings -/

/-- The character that a letter after a backslash stands for. -/
def escapedChar? (c : Char) : Option Char :=
  [('"', '"'), ('\\', '\\'), ('/', '/'), ('b', '\x08'), ('f', '\x0c'), ('n', '\n'),
   ('r', '\r'), ('t', '\t')].lookup c

/-- What is read of a string with one more character in front. -/
def withFirst (c : Option Char) (found : Option (List (Option Char) × List Char)) :
    Option (List (Option Char) × List Char) :=
  found.map fun found => (c :: found.1, found.2)

/-- A string from after its opening quote on, and the rest of the text.  Half of a
surrogate pair stands as `none`. -/
def readText : List Char → Option (List (Option Char) × List Char)
  | [] => none
  | '"' :: rest => some ([], rest)
  | '\\' :: 'u' :: a :: b :: c :: d :: rest =>
    match hexNumber? [a, b, c, d] with
    | none => none
    | some code =>
      match scalarOf? code with
      | some scalar => withFirst (some scalar) (readText rest)
      | none =>
        match rest with
        | '\\' :: 'u' :: e :: f :: g :: h :: more =>
          match (hexNumber? [e, f, g, h]).bind (pairedScalar? code) with
          | some scalar => withFirst (some scalar) (readText more)
          | none => withFirst none (readText ('\\' :: 'u' :: e :: f :: g :: h :: more))
        | rest => withFirst none (readText rest)
  | '\\' :: c :: rest =>
    match escapedChar? c with
    | none => none
    | some decoded => withFirst (some decoded) (readText rest)
  | c :: rest =>
    if c.toNat < 0x20 || c = '\\' then none else withFirst (some c) (readText rest)

/-- The text of characters all of which are there. -/
def wholeText? (characters : List (Option Char)) : Option String :=
  (characters.mapM id).map String.ofList

/-- A string from after its opening quote on, or `none` in its place if it is no text,
and the rest. -/
def Reading.readString (reading : Reading) (text : List Char) :
    Option (Option String × List Char) := do
  let (characters, rest) ← readText text
  let found := wholeText? characters
  if found.isSome || reading.readsHalves then some (found, rest) else none

/-! ## Numbers -/

/-- A number at the start of a text, and the rest. -/
def Reading.readNumber (reading : Reading) (text : List Char) : Option (Json × List Char) :=
  let (numeral, rest) := Numeral.read text
  if numeral.sign == some '+' || numeral.hasLeadingZero || !numeral.isComplete then none
  else if !reading.reads numeral then none
  else if numeral.isWhole then some (.int numeral.toInt, rest)
  else some (.real numeral.toDouble, rest)

/-- A value that is one word, and the rest of the text. -/
def readWord (text : List Char) : Option (Json × List Char) :=
  let word (written : String) (value : Json) : Option (Json × List Char) :=
    (afterWord written text).map fun rest => (value, rest)
  (word "null" .null).or <| (word "true" (.bool true)).or <|
    (word "false" (.bool false)).or <| (word "NaN" (.real .nan)).or <|
    (word "Infinity" (.real (.infinite false))).or
      (word "-Infinity" (.real (.infinite true)))

/-! ## Values -/

mutual

/-- A value at the start of a text, no deeper or longer than the bound, and the
rest. -/
def readValue (reading : Reading) : Nat → List Char → Option (Json × List Char)
  | 0, _ => none
  | bound + 1, input =>
    match skipSpace input with
    | '"' :: rest => (reading.readString rest).map fun found =>
        ((found.1.map Json.text).getD .broken, found.2)
    | '[' :: rest =>
      match skipSpace rest with
      | ']' :: rest => some (.array [], rest)
      | rest => (readItems reading bound rest).map fun found => (.array found.1, found.2)
    | '\x7b' :: rest =>
      match skipSpace rest with
      | '\x7d' :: rest => some (.object [], rest)
      | rest => (readMembers reading bound rest).map fun found => (.object found.1, found.2)
    | input => (readWord input).or (reading.readNumber input)

/-- The items of an array up to its end, and the rest. -/
def readItems (reading : Reading) : Nat → List Char → Option (List Json × List Char)
  | 0, _ => none
  | bound + 1, input => do
    let (item, rest) ← readValue reading bound input
    match skipSpace rest with
    | ',' :: rest => do
        let (items, rest) ← readItems reading bound rest
        return (item :: items, rest)
    | ']' :: rest => return ([item], rest)
    | _ => none

/-- The members of an object up to its end, and the rest.  A member whose name is no
text is left out. -/
def readMembers (reading : Reading) :
    Nat → List Char → Option (List (String × Json) × List Char)
  | 0, _ => none
  | bound + 1, input =>
    match skipSpace input with
    | '"' :: rest => do
      let (name, rest) ← reading.readString rest
      match skipSpace rest with
      | ':' :: rest => do
        let (value, rest) ← readValue reading bound rest
        let member := name.toList.map fun name => (name, value)
        match skipSpace rest with
        | ',' :: rest => do
            let (members, rest) ← readMembers reading bound rest
            return (member ++ members, rest)
        | '\x7d' :: rest => return (member, rest)
        | _ => none
      | _ => none
    | _ => none

end

/-- The value that a text stands for. -/
def read? (reading : Reading) (text : String) : Option Json := do
  let characters := text.toList
  let (value, rest) ← readValue reading (2 * characters.length + 2) characters
  if (skipSpace rest).isEmpty && reading.depth.all (value.depth ≤ ·) then some value else none

end SchemaDrift.Json
