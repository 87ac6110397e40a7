import SchemaDrift.Command.Run
import SchemaDrift.Proofs.Config.Sources
import SchemaDrift.Proofs.Config.Variables

/-!
# Configurations that are broken

Most of what is wrong with a configuration is a fault that the commands expect: they say so and
go on as far as they can.  The rest breaks every command down.  What the rest is, is told here
without the steps of loading.

* `Entry.BreaksDown`, `MisfitRules`, `Site.BreaksDown` — all that breaks loading down.
* `Site.breaksDown_iff` — loading fails with an unexpected fault exactly then.
* `commands_under_broken_settings` — what the commands do in either case.
* `malformed_variable_breaks_down` — a variable that breaks them down.
-/

namespace SchemaDrift

/-! ## What breaks loading down -/

/-- The file cannot be read, for another reason than that it is not TOML. -/
inductive Entry.BreaksDown : Entry → Prop where
  | directory : BreaksDown .directory
  /-- Its bytes are no text. -/
  | notText {content : ByteArray} (bytes : String.fromUTF8? content = none) :
      BreaksDown (.file content)
  /-- It holds an integer of too many digits, or values that are nested too deep. -/
  | beyondLimits {content : ByteArray} {text : String} {fault : TomlFault}
      (decoded : String.fromUTF8? content = some text) (fails : Toml.read text = .error fault)
      (beyond : fault ≠ .malformed) : BreaksDown (.file content)

/-- Truth values and numbers. -/
def Toml.isNumber : Toml → Bool
  | bool _ => true
  | int _ => true
  | real _ => true
  | _ => false

/-- Dates and times. -/
def Toml.isMoment : Toml → Bool
  | moment _ => true
  | _ => false

/-- A file gives rules for variables that are of a wrong kind. -/
inductive MisfitRules (members : Keyed String Toml) : Prop where
  | limit {value : Toml} (given : members.get? "_env_nested_max_split" = some value)
      (noNumber : value.isNumber = false) (counts : value.isTruthy = true)
  | start {value : Toml} (given : members.get? "_env_prefix" = some value)
      (noStart : value.isNumber = true ∨ value.isMoment = true)

/-- What a site holds breaks loading down. -/
inductive Site.BreaksDown (site : Site) (path : Option String) : Prop where
  | file {name : String} {entry : Entry} (isRead : site.fileRead path = some (name, entry))
      (breaks : entry.BreaksDown)
  | rules {members : List (String × Toml)} (areGiven : site.membersRead path = .ok members)
      (misfit : MisfitRules members)
  /-- The names of variables cannot be made up. -/
  | names {members : List (String × Toml)} {rules : VariableRules}
      (areGiven : site.membersRead path = .ok members)
      (areRules : VariableRules.ofToml members = .ok rules) (noStart : rules.start = none)
  | unreadable {members : List (String × Toml)} {rules : VariableRules} {start : String}
      (areGiven : site.membersRead path = .ok members)
      (areRules : VariableRules.ofToml members = .ok rules) (starts : rules.start = some start)
      (isUnreadable : rules.Unreadable (rules.compared site.environment) start)

/-! ## Unexpected faults -/

/-- It fails with a fault that no command expects. -/
def FailsUnexpectedly {α : Type} (loading : Except ConfigFault α) : Prop :=
  ∃ fault, loading = .error fault ∧ fault.isExpected = false

section Failing

variable {α β : Type}

theorem not_failsUnexpectedly_ok (value : α) : ¬ FailsUnexpectedly (.ok value) :=
  fun ⟨_, h, _⟩ => absurd h nofun

theorem failsUnexpectedly_error_iff {fault : ConfigFault} :
    FailsUnexpectedly (.error fault : Except ConfigFault α) ↔ fault.isExpected = false :=
  ⟨fun ⟨_, h, hfault⟩ => Except.error.inj h ▸ hfault, fun h => ⟨fault, rfl, h⟩⟩

theorem failsUnexpectedly_bind_iff {first : Except ConfigFault α}
    {next : α → Except ConfigFault β} : FailsUnexpectedly (first >>= next) ↔
      FailsUnexpectedly first ∨ ∃ value, first = .ok value ∧ FailsUnexpectedly (next value) := by
  cases first with
  | error fault =>
    show FailsUnexpectedly (.error fault : Except ConfigFault β) ↔ _
    rw [failsUnexpectedly_error_iff, failsUnexpectedly_error_iff]
    exact ⟨.inl, fun h => h.resolve_right fun ⟨_, h, _⟩ => absurd h nofun⟩
  | ok value =>
    show FailsUnexpectedly (next value) ↔ _
    constructor
    · exact fun h => .inr ⟨value, rfl, h⟩
    · rintro (h | ⟨found, hfound, h⟩)
      · exact absurd h (not_failsUnexpectedly_ok value)
      · exact Except.ok.inj hfound ▸ h

/-- Where every fault becomes one that is not expected, any of them is. -/
theorem failsUnexpectedly_mapError_iff {ε : Type} {first : Except ε α} {rename : ε → ConfigFault}
    (h : ∀ fault, (rename fault).isExpected = false) :
    FailsUnexpectedly (first.mapError rename) ↔ ¬ first.isOk = true := by
  cases first with
  | error fault => exact iff_of_true ⟨_, rfl, h fault⟩ Bool.false_ne_true
  | ok value => exact iff_of_false (not_failsUnexpectedly_ok value) fun h => h rfl

end Failing

/-! ## Files -/

theorem isExpected_ofToml_iff {name : String} {fault : TomlFault} :
    (ConfigFault.ofToml name fault).isExpected = false ↔ fault ≠ .malformed := by
  cases fault with
  | malformed => exact iff_of_false nofun fun h => h rfl
  | tooManyDigits => exact iff_of_true rfl nofun
  | tooDeep => exact iff_of_true rfl nofun

/-- A file fails unexpectedly exactly if it breaks loading down. -/
theorem failsUnexpectedly_membersOfFile_iff {name : String} {entry : Entry} :
    FailsUnexpectedly (membersOfFile name entry) ↔ entry.BreaksDown := by
  constructor
  · intro h
    cases entry with
    | directory => exact .directory
    | file content =>
      cases htext : String.fromUTF8? content with
      | none => exact .notText htext
      | some text =>
        rw [membersOfFile_text htext] at h
        cases hread : Toml.read text with
        | ok members =>
          rw [hread] at h
          exact absurd h (not_failsUnexpectedly_ok members)
        | error fault =>
          rw [hread] at h
          exact .beyondLimits htext hread
            (isExpected_ofToml_iff.1 (failsUnexpectedly_error_iff.1 h))
  · intro h
    cases h with
    | directory => exact ⟨.directory name, rfl, rfl⟩
    | @notText content hbytes =>
      refine ⟨.notText name, ?_, rfl⟩
      rw [membersOfFile, hbytes]
    | beyondLimits hdecoded hread hbeyond =>
      rw [membersOfFile_text hdecoded, hread]
      exact failsUnexpectedly_error_iff.2 (isExpected_ofToml_iff.2 hbeyond)

/-! ## Rules for variables -/

theorem isOk_limit_iff {value : Toml} : (SplitLimit.ofToml value).isOk = true ↔
    ¬ (value.isNumber = false ∧ value.isTruthy = true) := by
  have hother (fits : Bool) : (if fits then .error .misfit else .ok .unlimited :
      Except MisfitRule SplitLimit).isOk = true ↔ ¬ (false = false ∧ fits = true) := by
    cases fits <;> decide
  cases value with
  | bool => exact iff_of_true rfl fun h => absurd h.1 nofun
  | int => exact iff_of_true rfl fun h => absurd h.1 nofun
  | real => exact iff_of_true rfl fun h => absurd h.1 nofun
  | text | array | table => exact hother _
  | moment => exact hother true

theorem isOk_startOf_iff {value : Toml} : (VariableRules.startOf value).isOk = true ↔
    ¬ (value.isNumber = true ∨ value.isMoment = true) := by
  cases value with
  | bool | int | real => exact iff_of_false Bool.false_ne_true fun h => h (.inl rfl)
  | moment => exact iff_of_false Bool.false_ne_true fun h => h (.inr rfl)
  | text | array | table => exact iff_of_true rfl nofun

theorem isOk_getD_iff {α : Type} {given : Option Toml} {read : Toml → Except MisfitRule α}
    {standard : α} : ((given.map read).getD (.ok standard)).isOk = true ↔
      ∀ value, given = some value → (read value).isOk = true := by
  cases given with
  | none => exact iff_of_true rfl nofun
  | some value => exact ⟨fun h _ hvalue => Option.some.inj hvalue ▸ h, fun h => h value rfl⟩

/-- The rules of a file are read unless one is of a wrong kind. -/
theorem isOk_ofToml_iff {members : Keyed String Toml} :
    (VariableRules.ofToml members).isOk = true ↔ ¬ MisfitRules members := by
  have hparts : (VariableRules.ofToml members).isOk = true ↔
      (((members.get? "_env_nested_max_split").map SplitLimit.ofToml).getD
        (.ok .unlimited)).isOk = true ∧
      (((members.get? "_env_prefix").map VariableRules.startOf).getD
        (.ok (some "SCHEMAGUARD_"))).isOk = true := by
    unfold VariableRules.ofToml
    dsimp only
    generalize ((members.get? "_env_nested_max_split").map SplitLimit.ofToml).getD _ = limit
    generalize ((members.get? "_env_prefix").map VariableRules.startOf).getD _ = start
    cases limit with
    | error => exact iff_of_false Bool.false_ne_true fun h => Bool.false_ne_true h.1
    | ok limit =>
      cases start with
      | error => exact iff_of_false Bool.false_ne_true fun h => Bool.false_ne_true h.2
      | ok start => exact iff_of_true rfl ⟨rfl, rfl⟩
  rw [hparts, isOk_getD_iff, isOk_getD_iff]
  simp only [isOk_limit_iff, isOk_startOf_iff]
  constructor
  · rintro ⟨hlimit, hstart⟩ hmisfit
    cases hmisfit with
    | limit hgiven hnumber htruthy => exact hlimit _ hgiven ⟨hnumber, htruthy⟩
    | start hgiven hkind => exact hstart _ hgiven hkind
  · intro h
    exact ⟨fun value hgiven hkind => h (.limit hgiven hkind.1 hkind.2),
      fun value hgiven hkind => h (.start hgiven hkind)⟩

/-! ## Settings -/

/-- Values that do not fit are expected. -/
theorem not_failsUnexpectedly_misfits (fitted : Fitted Settings) :
    ¬ FailsUnexpectedly (fitted.mapError ConfigFault.misfits) := by
  cases fitted with
  | ok settings => exact not_failsUnexpectedly_ok settings
  | error places => exact fun h => absurd (failsUnexpectedly_error_iff.1 h) nofun

theorem failsUnexpectedly_settingsFrom_iff {site : Site} {members : List (String × Toml)} :
    FailsUnexpectedly (site.settingsFrom members) ↔ MisfitRules members ∨
      ∃ rules, VariableRules.ofToml members = .ok rules ∧
        ¬ (site.environment.given rules).isOk = true := by
  have hrules : FailsUnexpectedly ((VariableRules.ofToml members).mapError fun _ =>
      ConfigFault.misfitRule) ↔ MisfitRules members := by
    rw [failsUnexpectedly_mapError_iff fun _ => rfl, isOk_ofToml_iff, Classical.not_not]
  have hgiven (rules : VariableRules) : FailsUnexpectedly
      ((site.environment.given rules).mapError ConfigFault.ofVariable) ↔
        ¬ (site.environment.given rules).isOk = true :=
    failsUnexpectedly_mapError_iff fun fault => by cases fault <;> rfl
  unfold Site.settingsFrom
  simp only [failsUnexpectedly_bind_iff, hrules, hgiven, not_failsUnexpectedly_misfits, and_false,
    exists_false, or_false]
  refine or_congr_right (exists_congr fun rules => and_congr_left fun _ => ?_)
  cases VariableRules.ofToml members with
  | error fault => exact iff_of_false nofun nofun
  | ok found => exact ⟨fun h => congrArg Except.ok (Except.ok.inj h),
      fun h => congrArg Except.ok (Except.ok.inj h)⟩

theorem Site.failsUnexpectedly_membersRead_iff {site : Site} {path : Option String} :
    FailsUnexpectedly (site.membersRead path) ↔
      ∃ name entry, site.fileRead path = some (name, entry) ∧ entry.BreaksDown := by
  cases hfile : site.fileRead path with
  | some found =>
    rw [membersRead_of_fileRead hfile, failsUnexpectedly_membersOfFile_iff]
    constructor
    · exact fun h => ⟨found.1, found.2, rfl, h⟩
    · rintro ⟨name, entry, hfound, h⟩
      obtain rfl := Option.some.inj hfound
      exact h
  | none =>
    rw [membersRead_of_none hfile]
    refine iff_of_false ?_ fun ⟨_, _, h, _⟩ => absurd h nofun
    cases path with
    | none => exact not_failsUnexpectedly_ok []
    | some path => exact fun h => absurd (failsUnexpectedly_error_iff.1 h) nofun

/-- Loading fails with a fault that no command expects exactly if the site breaks it down. -/
theorem Site.failsUnexpectedly_settings_iff {site : Site} {path : Option String} :
    FailsUnexpectedly (site.settings path) ↔ site.BreaksDown path := by
  rw [settings_eq, failsUnexpectedly_bind_iff, failsUnexpectedly_membersRead_iff]
  simp only [failsUnexpectedly_settingsFrom_iff, isOk_given]
  constructor
  · rintro (⟨name, entry, hfile, hbreaks⟩ | ⟨members, hmembers, hmisfit | ⟨rules, hrules, h⟩⟩)
    · exact .file hfile hbreaks
    · exact .rules hmembers hmisfit
    · cases hstart : rules.start with
      | none => exact .names hmembers hrules hstart
      | some start =>
        refine .unreadable hmembers hrules hstart ?_
        exact Classical.byContradiction fun hreadable => h ⟨start, hstart, hreadable⟩
  · intro h
    cases h with
    | file hfile hbreaks => exact .inl ⟨_, _, hfile, hbreaks⟩
    | rules hmembers hmisfit => exact .inr ⟨_, hmembers, .inl hmisfit⟩
    | names hmembers hrules hstart =>
      refine .inr ⟨_, hmembers, .inr ⟨_, hrules, fun ⟨start, hsome, _⟩ => ?_⟩⟩
      exact absurd (hstart.symm.trans hsome) nofun
    | unreadable hmembers hrules hstart hunreadable =>
      refine .inr ⟨_, hmembers, .inr ⟨_, hrules, fun ⟨start, hsome, hreadable⟩ => ?_⟩⟩
      obtain rfl := Option.some.inj (hstart.symm.trans hsome)
      exact hreadable hunreadable

/-! ## Commands -/

namespace Surroundings

variable {around : Surroundings} {options : ProgramOptions}

/-- What is said at once about settings that are broken. -/
def notice (quiet : Bool) : Except ConfigFault Settings → List String
  | .ok _ => []
  | .error fault =>
      if quiet then [] else [Run.errorLine ("Failed to load configuration: " ++ fault.message)]

theorem command_of_there
    (hthere : ∀ path ∈ options.config, (around.working.find? path).isSome = true)
    (debug : Bool) (action : Action) :
    around.command debug options action =
      match around.settings options.config with
      | .ok settings => around.act debug options.quiet (.ok settings) action
      | .error fault =>
        if fault.isExpected then
          (around.act debug options.quiet (.error fault) action).after []
            (notice options.quiet (.error fault))
        else .breakdown debug := by
  have hmissing : ¬ (options.config.any fun path => (around.working.find? path).isNone) = true := by
    cases hconfig : options.config with
    | none => exact Bool.false_ne_true
    | some path =>
      have hfound := hthere path hconfig
      rw [Option.isSome_iff_ne_none] at hfound
      exact fun h => hfound (Option.isNone_iff_eq_none.1 h)
  unfold command
  rw [if_neg hmissing]
  rfl

theorem command_of_breaksDown
    (hthere : ∀ path ∈ options.config, (around.working.find? path).isSome = true)
    (h : around.BreaksDown options.config) (debug : Bool) (action : Action) :
    around.command debug options action = .breakdown debug := by
  obtain ⟨fault, hfault, hunexpected⟩ := Site.failsUnexpectedly_settings_iff.2 h
  rw [command_of_there hthere, hfault]
  exact if_neg (Bool.eq_false_iff.1 hunexpected)

theorem command_of_expected {fault : ConfigFault}
    (hthere : ∀ path ∈ options.config, (around.working.find? path).isSome = true)
    (h : ¬ around.BreaksDown options.config)
    (hfault : around.settings options.config = .error fault)
    (debug : Bool) (action : Action) :
    around.command debug options action =
      (around.act debug options.quiet (.error fault) action).after []
        (notice options.quiet (.error fault)) := by
  have hexpected : fault.isExpected = true := by
    refine Bool.of_not_eq_false fun hunexpected => h ?_
    exact Site.failsUnexpectedly_settings_iff.1 ⟨fault, hfault, hunexpected⟩
  rw [command_of_there hthere, hfault]
  exact if_pos hexpected

end Surroundings

/-- **What commands do with a configuration that is broken.**  Loading fails unexpectedly exactly
if what is there breaks it down; then no command runs.  Otherwise, whatever is wrong with the
settings, rules are listed and first files are written as ever, and a comparison ends with the
exit code for configurations. -/
theorem commands_under_broken_settings {around : Surroundings} {options : ProgramOptions}
    (hthere : ∀ path ∈ options.config, (around.working.find? path).isSome = true)
    (debug : Bool) :
    (FailsUnexpectedly (around.settings options.config) ↔ around.BreaksDown options.config) ∧
      (around.BreaksDown options.config →
        ∀ action, around.command debug options action = .breakdown debug) ∧
      (¬ around.BreaksDown options.config →
        ∀ fault, around.settings options.config = .error fault →
          (∀ told, around.command debug options (.rules told) =
            (Surroundings.rules told).after [] (Surroundings.notice options.quiet (.error fault))) ∧
          (∀ told, around.command debug options (.init told) =
            (around.init told).after [] (Surroundings.notice options.quiet (.error fault))) ∧
          ∀ told old new, around.working.find? told.old = some (.file old) →
            around.working.find? told.new = some (.file new) →
              (around.command debug options (.diff told)).exit = .config) := by
  refine ⟨Site.failsUnexpectedly_settings_iff,
    fun h => Surroundings.command_of_breaksDown hthere h debug, fun h fault hfault => ?_⟩
  have hrun := Surroundings.command_of_expected hthere h hfault debug
  refine ⟨fun told => hrun (.rules told), fun told => hrun (.init told),
    fun told old new hold hnew => ?_⟩
  rw [hrun]
  show (around.diff debug options.quiet (.error fault) told).exit = .config
  unfold Surroundings.diff
  rw [hold, hnew]
  rfl

/-- A site with a file that is not TOML beside two versions of a schema. -/
def brokenSite : Site where
  working := { files := [("a.toml", "=".toUTF8), ("old.graphql", "scalar A".toUTF8),
    ("new.graphql", "scalar A".toUTF8)] }

/-- The surroundings of the site, with no service to be asked. -/
def brokenSurroundings : Surroundings := { brokenSite with deliver := fun _ _ => .late }

/-- The settings in the file are refused, and the commands go on as far as they can. -/
theorem commands_under_broken_file :
    brokenSurroundings.settings (some "a.toml") = .error (.notToml "a.toml") ∧
      (brokenSurroundings.command false ⟨true, some "a.toml"⟩ (.rules {})).exit = .success ∧
      (brokenSurroundings.command false ⟨true, some "a.toml"⟩ (.init {})).written ≠ [] ∧
      (brokenSurroundings.command false ⟨true, some "a.toml"⟩
        (.diff { old := "old.graphql", new := "new.graphql" })).exit = .config := by
  have hfault : brokenSurroundings.settings (some "a.toml") = .error (.notToml "a.toml") := rfl
  have hthere : ∀ path ∈ some "a.toml", (brokenSurroundings.working.find? path).isSome = true := by
    rintro path hpath
    obtain rfl := Option.some.inj hpath
    rfl
  obtain ⟨hbreaks, -, hruns⟩ :=
    @commands_under_broken_settings brokenSurroundings ⟨true, some "a.toml"⟩ hthere false
  have hnot : ¬ brokenSurroundings.BreaksDown (some "a.toml") := by
    rw [← hbreaks, hfault, failsUnexpectedly_error_iff]
    exact nofun
  obtain ⟨hrules, hinit, hdiff⟩ := hruns hnot _ hfault
  refine ⟨hfault, ?_, ?_, hdiff _ _ _ rfl rfl⟩
  · rw [hrules]
    decide +kernel
  · rw [hinit]
    decide +kernel

/-- **A variable that names a group and holds no JSON breaks every command down**: what comes of
it is no fault of a configuration. -/
theorem malformed_variable_breaks_down :
    Site.settings { environment := [("SCHEMAGUARD_DIFF", "\x7b")] } none =
        .error .malformedVariable ∧
      ConfigFault.malformedVariable.isExpected = false :=
  ⟨rfl, rfl⟩

end SchemaDrift
