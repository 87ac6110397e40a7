import SchemaDrift.Change.Level
import SchemaDrift.Command.Arguments
import SchemaDrift.Report.Format

/-!
# Command lines

A command line holds the options of the program, the name of a command, and the
arguments of that.

* `DiffOptions`, `RulesOptions`, `InitOptions` — what each command is told.
* `Action` — what a command is asked to do.
* `Invocation` — the options of the program with an action.
* `Invocation.ofWords` — what a command line asks for.
-/

namespace SchemaDrift

/-! ## Actions -/

/-- How two files are to be compared. -/
structure DiffOptions where
  old : String
  new : String
  /-- The words for the source in notes. -/
  label : Option String := none
  interceptorUrl : Option String := none
  failOnDangerous : Option Bool := none
  format : Option Format := none
  /-- The file to write the report to. -/
  output : Option String := none
  colorless : Bool := false
  deriving DecidableEq, Repr

/-- How the rules are to be listed. -/
structure RulesOptions where
  asJson : Bool := false
  level : Option Level := none
  deriving DecidableEq, Repr

/-- How a first file with settings is to be written. -/
structure InitOptions where
  force : Bool := false
  failOnDangerous : Bool := false
  interceptorUrl : Option String := none
  deriving DecidableEq, Repr

/-- What a command is asked to do. -/
inductive Action where
  | diff (options : DiffOptions)
  | rules (options : RulesOptions)
  | init (options : InitOptions)
  /-- Say how the command is used. -/
  | help
  /-- The arguments of the command are wrong. -/
  | wrong
  deriving DecidableEq, Repr

/-- The option to say how something is used. -/
def helpSwitch : Switch := { key := "help", long := "help" }

/-! ## Comparing -/

namespace DiffOptions

/-- The options of the command. -/
def switches : List Switch :=
  [{ key := "label", long := "path", short := some 'p', takesValue := true },
   { key := "interceptor", long := "interceptor", takesValue := true },
   { key := "fail", long := "fail-on-dangerous", standsFor := "yes" },
   { key := "fail", long := "no-fail-on-dangerous", standsFor := "no" },
   { key := "format", long := "format", short := some 'f', takesValue := true },
   { key := "output", long := "output", short := some 'o', takesValue := true },
   { key := "colorless", long := "no-color" },
   helpSwitch]

/-- What arguments ask for. -/
def ofArguments (arguments : Arguments) : Action :=
  let format := (arguments.value? "format").map Format.ofWord?
  match arguments.words, format with
  | [_, _], some none => .wrong
  | [old, new], format => .diff {
      old, new
      label := arguments.value? "label"
      interceptorUrl := arguments.value? "interceptor"
      failOnDangerous := (arguments.value? "fail").map (· == "yes")
      format := format.join
      output := arguments.value? "output"
      colorless := arguments.has "colorless" }
  | _, _ => .wrong

end DiffOptions

/-! ## Listing the rules -/

/-- A character in lower case; besides the letters of ASCII two others have one of
these as their lower case. -/
def foldCase (c : Char) : Char :=
  if c.toNat = 0x17f then 's' else if c.toNat = 0x212a then 'k' else c.toLower

/-- The level of a word in upper or lower case. -/
def Level.ofWord? (word : String) : Option Level :=
  let folded (text : String) : List Char := text.toList.map foldCase
  Level.all.find? fun level => folded level.id == folded word

namespace RulesOptions

/-- The options of the command. -/
def switches : List Switch :=
  [{ key := "json", long := "json" },
   { key := "level", long := "level", takesValue := true },
   helpSwitch]

/-- What arguments ask for. -/
def ofArguments (arguments : Arguments) : Action :=
  match arguments.words, (arguments.value? "level").map Level.ofWord? with
  | [], some none => .wrong
  | [], level => .rules { asJson := arguments.has "json", level := level.join }
  | _, _ => .wrong

end RulesOptions

/-! ## Writing settings -/

namespace InitOptions

/-- The options of the command. -/
def switches : List Switch :=
  [{ key := "force", long := "force", short := some 'f' },
   { key := "fail", long := "fail-on-dangerous" },
   { key := "interceptor", long := "interceptor", takesValue := true },
   helpSwitch]

/-- What arguments ask for. -/
def ofArguments (arguments : Arguments) : Action :=
  match arguments.words with
  | [] => .init {
      force := arguments.has "force"
      failOnDangerous := arguments.has "fail"
      interceptorUrl := arguments.value? "interceptor" }
  | _ => .wrong

end InitOptions

/-! ## Commands -/

/-- The commands. -/
inductive CommandName where
  | diff
  | rules
  | init
  deriving DecidableEq, Repr

namespace CommandName

/-- The word for a command. -/
def word : CommandName → String
  | diff => "diff"
  | rules => "rules"
  | init => "init"

/-- The command of a word. -/
def ofWord? (text : String) : Option CommandName :=
  [diff, rules, init].find? fun name => name.word == text

/-- The options of a command. -/
def switches : CommandName → List Switch
  | diff => DiffOptions.switches
  | rules => RulesOptions.switches
  | init => InitOptions.switches

/-- What the arguments of a command ask for. -/
def action (name : CommandName) (words : List String) : Action :=
  match Arguments.read? name.switches false words with
  | none => .wrong
  | some arguments =>
    if arguments.has "help" then .help
    else match name with
      | diff => DiffOptions.ofArguments arguments
      | rules => RulesOptions.ofArguments arguments
      | init => InitOptions.ofArguments arguments

end CommandName

/-! ## Whole command lines -/

/-- The options of the program. -/
structure ProgramOptions where
  quiet : Bool := false
  /-- The file with settings. -/
  config : Option String := none
  deriving DecidableEq, Repr

/-- What a command line asks for. -/
inductive Invocation where
  | command (options : ProgramOptions) (action : Action)
  /-- Say which version the program has. -/
  | version
  /-- Say how the program is used. -/
  | help
  /-- The command line is wrong. -/
  | wrong
  deriving DecidableEq, Repr

namespace Invocation

/-- The options of the program. -/
def switches : List Switch :=
  [{ key := "verbose", long := "verbose", short := some 'v' },
   { key := "quiet", long := "quiet", short := some 'q' },
   { key := "debug", long := "debug" },
   { key := "config", long := "config", takesValue := true },
   { key := "version", long := "version" },
   helpSwitch]

/-- The first of the options that end the program at once. -/
def early? (arguments : Arguments) : Option Invocation :=
  arguments.chosen.findSome? fun choice =>
    if choice.1 == "version" then some version
    else if choice.1 == "help" then some help
    else none

/-- What the words of a command line ask for. -/
def ofWords (words : List String) : Invocation :=
  match Arguments.read? switches true words with
  | none => wrong
  | some arguments =>
    (early? arguments).getD <|
      match arguments.words with
      | [] => wrong
      | word :: rest =>
        match CommandName.ofWord? word with
        | none => wrong
        | some name =>
          command { quiet := arguments.has "quiet", config := arguments.value? "config" }
            (name.action rest)

/-- The paths of the files that an invocation is about. -/
def paths : Invocation → List String
  | command options (.diff told) =>
      options.config.toList ++ [told.old, told.new] ++ told.output.toList
  | command options _ => options.config.toList
  | _ => []

end Invocation

end SchemaDrift
