import SchemaDrift.Config.Given
import SchemaDrift.Decimal.Numeral
import SchemaDrift.Report.Format
import SchemaDrift.Text.Blank

/-!
# Settings

A setting takes the values that pydantic takes for it, of which release 2.5 or later is
required.

* `Settings` — all that can be configured.
* `Setting` — the places of the settings.
* `Given.toBool?`, `Given.toSeconds?` and others — the values that a setting takes.
* `Settings.ofGiven` — the settings from what is given, or the places of all the
  values that do not fit.
-/

namespace SchemaDrift

open Text

/-- How an interceptor is asked. -/
structure InterceptorSettings where
  url : Option String := none
  /-- The time it has, in seconds. -/
  seconds : Double := .ofInt 10
  deriving DecidableEq, Repr, Inhabited

/-- How versions are compared. -/
structure DiffSettings where
  failOnDangerous : Bool := false
  interceptor : InterceptorSettings := {}
  deriving DecidableEq, Repr, Inhabited

/-- How results are reported. -/
structure OutputSettings where
  format : Format := .terminal
  /-- The words for the source in notes. -/
  label : Option String := none
  deriving DecidableEq, Repr, Inhabited

/-- All that can be configured. -/
structure Settings where
  version : String := "1.0"
  diff : DiffSettings := {}
  output : OutputSettings := {}
  deriving DecidableEq, Repr, Inhabited

/-! ## Places -/

/-- The place of a setting, or of a group of settings. -/
inductive Setting where
  | diff
  | failOnDangerous
  | interceptor
  | seconds
  | url
  | output
  | format
  | label
  | version
  deriving DecidableEq, Repr, Inhabited

/-- The names that lead to a setting. -/
def Setting.place : Setting → String
  | .diff => "diff"
  | .failOnDangerous => "diff.fail_on_dangerous"
  | .interceptor => "diff.interceptor"
  | .seconds => "diff.interceptor.timeout_seconds"
  | .url => "diff.interceptor.url"
  | .output => "output"
  | .format => "output.format"
  | .label => "output.path_label"
  | .version => "version"

/-! ## Written numbers -/

/-- White space around a number.  The separators of records and fields are none. -/
def isSpaceAround (c : Char) : Bool := isBlank c && !(0x1c ≤ c.toNat && c.toNat ≤ 0x1f)

/-- A text without the space around it. -/
def trimSpace (text : List Char) : List Char :=
  ((text.dropWhile isSpaceAround).reverse.dropWhile isSpaceAround).reverse

/-- The double that a text stands for: digits with an optional point and exponent,
or a word. -/
def readDouble? (text : List Char) : Option Double :=
  let signed := Numeral.readSign text
  let negative := signed.1 == some '-'
  match String.ofList (signed.2.map Char.toLower) with
  | "inf" => some (.infinite negative)
  | "infinity" => some (.infinite negative)
  | "nan" => some .nan
  | _ =>
    match Numeral.read text with
    | (numeral, []) =>
        let hasDigits := !(numeral.whole ++ numeral.fraction.getD []).isEmpty
        let hasPower := numeral.exponent.all fun part => !part.2.isEmpty
        if hasDigits && hasPower then some numeral.toDouble else none
    | _ => none

/-- Do underscores stand between other characters only, one at a time? -/
def singleUnderscores : List Char → Bool
  | [] => true
  | ['_'] => false
  | '_' :: '_' :: _ => false
  | _ :: rest => singleUnderscores rest

/-- The double that a text stands for, with space around it, or else with
underscores within. -/
def looseDouble? (text : List Char) : Option Double :=
  (readDouble? (trimSpace text)).or <|
    if text.head? != some '_' && singleUnderscores text then
      readDouble? (text.filter (· != '_'))
    else none

/-! ## The values that settings take -/

/-- The words for no and for yes. -/
def truthWords : List (String × Bool) :=
  [("0", false), ("off", false), ("f", false), ("false", false), ("n", false), ("no", false),
   ("1", true), ("on", true), ("t", true), ("true", true), ("y", true), ("yes", true)]

namespace Given

/-- A text. -/
def toText? : Given → Option String
  | text value => some value
  | _ => none

/-- A text or nothing. -/
def toOptionalText? : Given → Option (Option String)
  | text value => some (some value)
  | nothing => some none
  | _ => none

/-- A truth value, a number that is zero or one, or a word for one of them. -/
def toBool? : Given → Option Bool
  | bool value => some value
  | int value => if value = 0 then some false else if value = 1 then some true else none
  | real value =>
      if value.isZero then some false
      else if value = .ofInt 1 then some true
      else none
  | text value => truthWords.lookup (String.ofList (value.toList.map Char.toLower))
  | _ => none

/-- A number, a truth value in its place, or a text that stands for a number.  An
integer beyond all doubles is none. -/
def toDouble? : Given → Option Double
  | bool value => some (.ofInt (if value then 1 else 0))
  | int value =>
    match Double.ofInt value with
    | .infinite _ => none
    | found => some found
  | real value => some value
  | text value => looseDouble? value.toList
  | _ => none

/-- A number of seconds, which is greater than zero. -/
def toSeconds? (given : Given) : Option Double := given.toDouble?.filter Double.isPositive

/-- The word for a format. -/
def toFormat? : Given → Option Format
  | text value => Format.ofWord? value
  | _ => none

end Given

/-! ## Reading settings -/

/-- A value, or the places of the values that do not fit. -/
abbrev Fitted (α : Type) := Except (List Setting) α

namespace Fitted

variable {α β γ : Type}

/-- The places of the values that do not fit. -/
def misfits : Fitted α → List Setting
  | .ok _ => []
  | .error places => places

/-- Two values put together.  The misfits of both add up. -/
def both (combine : α → β → γ) : Fitted α → Fitted β → Fitted γ
  | .ok first, .ok second => .ok (combine first second)
  | first, second => .error (first.misfits ++ second.misfits)

end Fitted

/-- The value of a setting among the members of a group; the standard one if none
is given. -/
def settingOf {α : Type} (setting : Setting) (name : String) (standard : α)
    (read : Given → Option α) (members : Keyed String Given) : Fitted α :=
  match members.get? name with
  | none => .ok standard
  | some given =>
    match read given with
    | some value => .ok value
    | none => .error [setting]

/-- The value of a group of settings among the members of another. -/
def groupOf {α : Type} (setting : Setting) (name : String)
    (read : Keyed String Given → Fitted α) (members : Keyed String Given) : Fitted α :=
  match members.get? name with
  | none => read []
  | some (.group inner) => read inner
  | some _ => .error [setting]

/-- How an interceptor is asked, from what is given. -/
def InterceptorSettings.ofGiven (members : Keyed String Given) : Fitted InterceptorSettings :=
  Fitted.both (fun seconds url => { url, seconds })
    (settingOf .seconds "timeout_seconds" (.ofInt 10) Given.toSeconds? members)
    (settingOf .url "url" none Given.toOptionalText? members)

/-- How versions are compared, from what is given. -/
def DiffSettings.ofGiven (members : Keyed String Given) : Fitted DiffSettings :=
  Fitted.both (fun failOnDangerous interceptor => { failOnDangerous, interceptor })
    (settingOf .failOnDangerous "fail_on_dangerous" false Given.toBool? members)
    (groupOf .interceptor "interceptor" InterceptorSettings.ofGiven members)

/-- How results are reported, from what is given. -/
def OutputSettings.ofGiven (members : Keyed String Given) : Fitted OutputSettings :=
  Fitted.both (fun format label => { format, label })
    (settingOf .format "format" .terminal Given.toFormat? members)
    (settingOf .label "path_label" none Given.toOptionalText? members)

/-- The settings from what is given; the misfits are in the order of the alphabet.
Members of other names are ignored. -/
def Settings.ofGiven (members : Keyed String Given) : Fitted Settings :=
  Fitted.both (fun parts version => { version, diff := parts.1, output := parts.2 })
    (Fitted.both Prod.mk (groupOf .diff "diff" DiffSettings.ofGiven members)
      (groupOf .output "output" OutputSettings.ofGiven members))
    (settingOf .version "version" "1.0" Given.toText? members)

end SchemaDrift
