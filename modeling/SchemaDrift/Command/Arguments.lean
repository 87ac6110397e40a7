/-!
# Arguments of a command line

A command line is read as by click, of which release 8.1 or later is required.

* `Switch` — an option that a command knows, by its names.
* `Arguments` — what a command line holds: chosen options with their values, and the
  other words.
* `Arguments.read?` — the arguments of a command line, unless it is wrong.
-/

namespace SchemaDrift

/-- An option that a command knows. -/
structure Switch where
  /-- What the option is called in the program. -/
  key : String
  /-- The word that chooses it, after two dashes. -/
  long : String
  /-- The letter that chooses it, after one dash. -/
  short : Option Char := none
  takesValue : Bool := false
  /-- The value that the option stands for if it takes none. -/
  standsFor : String := ""
  deriving DecidableEq, Repr

/-- What a command line holds. -/
structure Arguments where
  /-- The chosen options with their values. -/
  chosen : List (String × String) := []
  words : List String := []
  deriving DecidableEq, Repr

namespace Arguments

/-- Was an option chosen? -/
def has (arguments : Arguments) (key : String) : Bool :=
  arguments.chosen.any fun choice => choice.1 == key

/-- The value of an option; of several the last one. -/
def value? (arguments : Arguments) (key : String) : Option String :=
  (arguments.chosen.reverse.find? fun choice => choice.1 == key).map (·.2)

/-- Arguments with one more option before them. -/
def choose (key value : String) (arguments : Arguments) : Arguments :=
  { arguments with chosen := (key, value) :: arguments.chosen }

/-- Arguments with one more word before them. -/
def say (word : String) (arguments : Arguments) : Arguments :=
  { arguments with words := word :: arguments.words }

/-! ## Reading -/

/-- The parts of a text before and after its first equals sign. -/
def splitAtEquals (text : List Char) : String × Option String :=
  match text.dropWhile (· != '=') with
  | [] => (String.ofList text, none)
  | _ :: rest => (String.ofList (text.takeWhile (· != '=')), some (String.ofList rest))

/-- A cluster of letters after a dash: the options chosen by it, and the option at
its end that still needs a value. -/
def readCluster? (switches : List Switch) :
    List Char → Option (List (String × String) × Option String)
  | [] => some ([], none)
  | letter :: rest => do
    let switch ← switches.find? fun switch => switch.short == some letter
    if switch.takesValue then
      match rest with
      | [] => return ([], some switch.key)
      | value => return ([(switch.key, String.ofList value)], none)
    else
      let (chosen, open?) ← readCluster? switches rest
      return ((switch.key, switch.standsFor) :: chosen, open?)

/-- What a word with a dash before it chooses, and the option that still needs a
value. -/
def readSwitch? (switches : List Switch) :
    List Char → Option (List (String × String) × Option String)
  | '-' :: '-' :: name =>
    match splitAtEquals name with
    | (word, value) => do
      let switch ← switches.find? fun switch => switch.long == word
      match switch.takesValue, value with
      | true, some value => return ([(switch.key, value)], none)
      | true, none => return ([], some switch.key)
      | false, none => return ([(switch.key, switch.standsFor)], none)
      | false, some _ => none
  | '-' :: letters => readCluster? switches letters
  | _ => none

/-- Does a word choose options: does it start with a dash and go on? -/
def isSwitch (word : String) : Bool :=
  match word.toList with
  | '-' :: _ :: _ => true
  | _ => false

/-- The arguments of a command line, with the option that still needs a value.  Two
dashes end the options.  If options have to come first, so does any other word. -/
def readFrom? (switches : List Switch) (optionsFirst : Bool) :
    Option String → List String → Option Arguments
  | some _, [] => none
  | some key, value :: rest => (readFrom? switches optionsFirst none rest).map (choose key value)
  | none, [] => some {}
  | none, word :: rest =>
    if word = "--" then some { words := rest }
    else if isSwitch word then do
      let (chosen, open?) ← readSwitch? switches word.toList
      let arguments ← readFrom? switches optionsFirst open? rest
      return { arguments with chosen := chosen ++ arguments.chosen }
    else if optionsFirst then some { words := word :: rest }
    else (readFrom? switches optionsFirst none rest).map (say word)

/-- The arguments of a command line, unless it holds an unknown option or one
without its value. -/
def read? (switches : List Switch) (optionsFirst : Bool) (line : List String) :
    Option Arguments :=
  readFrom? switches optionsFirst none line

end Arguments

end SchemaDrift
