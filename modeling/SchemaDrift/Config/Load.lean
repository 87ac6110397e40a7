import SchemaDrift.Config.Environment
import SchemaDrift.Config.Settings
import SchemaDrift.Files.Tree
import SchemaDrift.Toml.Document

/-!
# Loading the settings

The settings come from the first file that is there, and from the environment
where the file gives none.

* `Site` — the files and variables among which the program runs.
* `ConfigFault` — why settings cannot be loaded.
* `Site.settings` — the settings.
-/

namespace SchemaDrift

/-- The files and variables among which the program runs. -/
structure Site where
  working : FileTree := {}
  /-- The path of the working directory. -/
  workingPath : String := "."
  home : FileTree := {}
  /-- The path of the home directory. -/
  homePath : String := "~"
  environment : Environment := []

/-- The name of a file with settings. -/
def settingsFile : String := ".schemaguard.toml"

/-- Why settings cannot be loaded. -/
inductive ConfigFault where
  /-- The file that was asked for is not there. -/
  | missing (path : String)
  /-- A file is not TOML. -/
  | notToml (path : String)
  /-- Values that the settings do not take. -/
  | misfits (settings : List Setting)
  /-- An endpoint that is no web address. -/
  | badEndpoint (url : String)
  /-- A variable that should hold JSON does not. -/
  | malformedVariable
  /-- A rule for variables of a kind that it cannot be. -/
  | misfitRule
  /-- A file with an integer of too many digits. -/
  | tooManyDigits (path : String)
  /-- A file or a variable with values that are nested too deep. -/
  | tooDeep
  /-- A file that is a directory. -/
  | directory (path : String)
  /-- A file that is not text. -/
  | notText (path : String)
  deriving DecidableEq, Repr

namespace ConfigFault

/-- What is said about a fault. -/
def message : ConfigFault → String
  | missing path => "Config file not found: " ++ path
  | notToml path => "Invalid TOML in " ++ path
  | misfits _ => "Invalid configuration"
  | badEndpoint url => "Interceptor URL must start with http:// or https://: " ++ url
  | _ => "Error"

/-- Is the fault one of the configuration, and no breakdown of the program? -/
def isExpected : ConfigFault → Bool
  | missing _ => true
  | notToml _ => true
  | misfits _ => true
  | badEndpoint _ => true
  | _ => false

/-- The fault that a variable is. -/
def ofVariable : VariableFault → ConfigFault
  | .malformed => malformedVariable
  | .unsplittable => misfitRule
  | .tooDeep => tooDeep

/-- The fault of a file that is not read. -/
def ofToml (path : String) : TomlFault → ConfigFault
  | .malformed => notToml path
  | .tooManyDigits => tooManyDigits path
  | .tooDeep => tooDeep

end ConfigFault

/-- What a file with settings holds. -/
def membersOfFile (path : String) : Entry → Except ConfigFault (List (String × Toml))
  | .directory => .error (.directory path)
  | .file content =>
    match String.fromUTF8? content with
    | none => .error (.notText path)
    | some text => (Toml.read text).mapError (ConfigFault.ofToml path)

namespace Site

/-- The files in which settings are looked for, with their paths, in order: the one
that is asked for, the one in the working directory, the one in the home
directory. -/
def candidates (site : Site) (path : Option String) : List (String × Option Entry) :=
  (path.toList.map fun path => (path, site.working.find? path))
    ++ [(site.workingPath ++ "/" ++ settingsFile, site.working.find? settingsFile),
        (site.homePath ++ "/" ++ settingsFile, site.home.find? settingsFile)]

/-- What the first file that is there holds. -/
def membersOfFirst : List (String × Option Entry) → Except ConfigFault (List (String × Toml))
  | [] => .ok []
  | (path, some entry) :: _ => membersOfFile path entry
  | (_, none) :: rest => membersOfFirst rest

/-- The settings from what a file holds and what the variables give where it gives
nothing. -/
def settingsFrom (site : Site) (members : List (String × Toml)) :
    Except ConfigFault Settings := do
  let rules ← (VariableRules.ofToml members).mapError fun _ => ConfigFault.misfitRule
  let below ← (site.environment.given rules).mapError ConfigFault.ofVariable
  (Settings.ofGiven (Given.merge below (Given.ofTomlMembers members))).mapError .misfits

/-- The settings; those in the file of the given path, if one is asked for. -/
def settings (site : Site) (path : Option String) : Except ConfigFault Settings := do
  let path := path.map Path.normal
  match path with
  | some path => if (site.working.find? path).isNone then throw (.missing path)
  | none => pure ()
  site.settingsFrom (← membersOfFirst (site.candidates path))

end Site

end SchemaDrift
