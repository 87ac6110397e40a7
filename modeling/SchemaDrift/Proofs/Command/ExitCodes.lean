import SchemaDrift.Proofs.Config.Faults
import SchemaDrift.Proofs.Config.Layers
import SchemaDrift.Proofs.Intercept.Outcomes

/-!
# Exit codes of comparisons

The exit code of a comparison follows from what is in effect and from the two versions, and from
nothing else but whether the report can be written.

* `Effective.Concludes` — the verdict on two versions, whatever the words for the source are.
* `Surroundings.canReport` — can the report be printed, or written where it is asked for?
* `Surroundings.Follows` — what a run comes to by what is in effect.
* `exit_follows_policy` — the runs of all command lines that ask for a comparison.
* `misfit_remark_breaks_down` — a version that is not loaded and does not count as such.
-/

namespace SchemaDrift

/-! ## Verdicts -/

namespace Effective

variable {deliver : String → Request → Delivery} {effective other : Effective}
  {sources : Sources} {snapshot : Snapshot} {conclusion another : Conclusion}

/-- A service behind an endpoint cancels nothing. -/
theorem exists_outcome (effective : Effective) (deliver : String → Request → Delivery)
    (changes : List Change) :
    ∃ outcome, (effective.policy deliver).outcome changes = some outcome := by
  obtain ⟨interceptor, hinterceptor, hcancels⟩ | hnothing | ⟨response, hheard⟩ :=
    (effective.policy deliver).isCancelled_or_hearsNothing_or_hears changes
  · obtain ⟨url, -, rfl⟩ := Option.map_eq_some_iff.1 hinterceptor
    unfold Interceptor.remote at hcancels
    cases hcancels
  · obtain ⟨log, hlog⟩ := Policy.outcome_of_hearsNothing hnothing
    exact ⟨_, hlog⟩
  · exact ⟨_, Policy.outcome_of_hears hheard⟩

/-- A comparison comes to a verdict, which does not depend on the words for the source. -/
def Concludes (deliver : String → Request → Delivery) (effective : Effective)
    (sources : Sources) (snapshot : Snapshot) (conclusion : Conclusion) : Prop :=
  ∀ label, ∃ comparison,
    (effective.policy deliver).diff sources snapshot label = some comparison ∧
      comparison.result.conclusion = conclusion

theorem exists_concludes (effective : Effective) (deliver : String → Request → Delivery)
    (sources : Sources) (snapshot : Snapshot) :
    ∃ conclusion, effective.Concludes deliver sources snapshot conclusion := by
  obtain ⟨outcome, houtcome⟩ := effective.exists_outcome deliver snapshot.changes
  refine ⟨_, fun label => ⟨(effective.policy deliver).settle sources label outcome, ?_, rfl⟩⟩
  rw [Policy.diff, houtcome, Option.map_some]

/-- One policy comes to one verdict. -/
theorem Concludes.unique (h : effective.Concludes deliver sources snapshot conclusion)
    (hother : other.Concludes deliver sources snapshot another)
    (hpolicy : other.policy deliver = effective.policy deliver) : conclusion = another := by
  obtain ⟨comparison, hdiff, rfl⟩ := h (.text "")
  obtain ⟨_, hsame, rfl⟩ := hother (.text "")
  rw [hpolicy, hdiff] at hsame
  rw [Option.some.inj hsame]

end Effective

/-! ## Exit codes -/

/-- The exit code for a verdict. -/
def Conclusion.exit (conclusion : Conclusion) : ExitCode :=
  if conclusion = .failure then .breaking else .success

/-- The exit code for a fault of a version. -/
def LoadFault.exit (fault : LoadFault) : ExitCode := if fault.isFatal then .fatal else .schema

theorem Run.exit_ofFault (debug : Bool) (path : String) (fault : LoadFault) :
    (Run.ofFault debug path fault).exit = fault.exit := by
  unfold Run.ofFault LoadFault.exit
  cases fault.isFatal <;> rfl

/-- The run shows a text where the command wants it. -/
structure Run.Shows (run : Run) (told : DiffOptions) (text : String) : Prop where
  printed : told.output = none → run.out = [String.ofList (Text.dropSequences text.toList)]
  written : ∀ path ∈ told.output, run.written = [(Path.normal path, text ++ "\n")]

namespace Surroundings

/-- Can the report be printed, or written to the file that the command names? -/
def canReport (around : Surroundings) (told : DiffOptions) : Bool :=
  told.output.all fun path => around.working.canWrite (Path.normal path)

/-- How the report of a comparison is to look. -/
def viewOf (around : Surroundings) (told : DiffOptions) : View where
  oldName := Path.normal told.old
  newName := Path.normal told.new
  colored := around.colored && !told.colorless && told.output.isNone

variable {around : Surroundings} {told other : DiffOptions} {settings : Settings}
  {effective another : Effective} {run second : Run} {debug quiet : Bool}

/-- The exit code is that for the verdict, unless the report cannot be written. -/
theorem exit_report (around : Surroundings) (debug : Bool) (told : DiffOptions)
    (settings : Settings) (result : DiffResult) :
    (around.report debug told settings result).exit =
      if around.canReport told then result.conclusion.exit else .fatal := by
  unfold report canReport
  cases told.output with
  | none => rfl
  | some path =>
    dsimp only [Option.map_some, Option.all_some]
    split
    · rfl
    · rfl

theorem shows_report (h : around.canReport told = true) (debug : Bool) (settings : Settings)
    (result : DiffResult) :
    (around.report debug told settings result).Shows told
      ((formatOf told settings).render (around.viewOf told) result) := by
  unfold canReport at h
  unfold report viewOf
  cases houtput : told.output with
  | none => exact ⟨fun _ => rfl, fun path hpath => nomatch houtput.symm.trans hpath⟩
  | some path =>
    rw [houtput, Option.all_some] at h
    dsimp only [Option.map_some]
    rw [if_pos h]
    refine ⟨fun hnone => (nomatch houtput.symm.trans hnone), fun named hnamed => ?_⟩
    rw [← Option.some.inj (houtput.symm.trans hnamed)]

/-! ## What runs come to -/

/-- What a run comes to that compares the contents of two files by what is in effect. -/
inductive Follows (around : Surroundings) (debug : Bool) (told : DiffOptions)
    (effective : Effective) (old new : ByteArray) (run : Run) : Prop where
  /-- A file that is not UTF-8 breaks the run down. -/
  | undecoded (undecoded : schemaText? old = none ∨ schemaText? new = none)
      (exits : run.exit = .fatal)
  /-- A fault of the old version is said, whatever the new one is. -/
  | faultOfOld {oldText newText : String} {fault : LoadFault}
      (decodes : schemaText? old = some oldText ∧ schemaText? new = some newText)
      (fails : TypeMap.load oldText = .error fault)
      (exits : run.exit = fault.exit) (tells : run = .ofFault debug told.old fault)
  /-- A fault of the new version is said if the old one loads. -/
  | faultOfNew {oldText newText : String} {before : TypeMap} {fault : LoadFault}
      (decodes : schemaText? old = some oldText ∧ schemaText? new = some newText)
      (loads : TypeMap.load oldText = .ok before) (fails : TypeMap.load newText = .error fault)
      (exits : run.exit = fault.exit) (tells : run = .ofFault debug told.new fault)
  /-- The verdict on two versions that load is told, with the report. -/
  | concluded {oldText newText : String} {before after : TypeMap} {conclusion : Conclusion}
      (decodes : schemaText? old = some oldText ∧ schemaText? new = some newText)
      (loads : TypeMap.load oldText = .ok before ∧ TypeMap.load newText = .ok after)
      (concludes : effective.Concludes around.deliver ⟨some oldText, some newText⟩
        (.ofTypeMaps before after) conclusion)
      (exits : run.exit = if around.canReport told then conclusion.exit else .fatal)
      (shows : around.canReport told = true → ∃ comparison,
        (effective.policy around.deliver).diff ⟨some oldText, some newText⟩
            (.ofTypeMaps before after) (.text (effective.labelFor told.new)) = some comparison ∧
          run.Shows told (effective.format.render (around.viewOf told) comparison.result))

/-- Runs that follow one policy for the same files have one exit code, if the report can be made
in all of them or in none. -/
theorem Follows.exit_eq {debug' : Bool} {old new : ByteArray}
    (h : around.Follows debug told effective old new run)
    (hother : around.Follows debug' other another old new second)
    (hpolicy : another.policy around.deliver = effective.policy around.deliver)
    (hreport : around.canReport other = around.canReport told) : second.exit = run.exit := by
  -- What the files hold decides the case, so both runs are in the same one.
  cases h with
  | undecoded hundecoded hexit =>
    cases hother with
    | undecoded _ hexit' => rw [hexit, hexit']
    | faultOfOld hdecodes | faultOfNew hdecodes | concluded hdecodes => simp_all
  | faultOfOld hdecodes hfails hexit =>
    cases hother with
    | faultOfOld hdecodes' hfails' hexit' => simp_all
    | undecoded | faultOfNew | concluded => simp_all
  | faultOfNew hdecodes hloads hfails hexit =>
    cases hother with
    | faultOfNew hdecodes' hloads' hfails' hexit' => simp_all
    | undecoded | faultOfOld | concluded => simp_all
  | concluded hdecodes hloads hconcludes hexit =>
    cases hother with
    | concluded hdecodes' hloads' hconcludes' hexit' =>
      obtain rfl := Option.some.inj (hdecodes.1.symm.trans hdecodes'.1)
      obtain rfl := Option.some.inj (hdecodes.2.symm.trans hdecodes'.2)
      obtain rfl := Except.ok.inj (hloads.1.symm.trans hloads'.1)
      obtain rfl := Except.ok.inj (hloads.2.symm.trans hloads'.2)
      rw [hexit, hexit', hreport, hconcludes.unique hconcludes' hpolicy]
    | undecoded | faultOfOld | faultOfNew => simp_all

/-- The run on two versions that load reports on their comparison. -/
theorem compare_of_load {oldText newText : String} {before after : TypeMap}
    {comparison : Comparison} (hbefore : TypeMap.load oldText = .ok before)
    (hafter : TypeMap.load newText = .ok after)
    (hdiff : ((Effective.of told settings).policy around.deliver).diff
      ⟨some oldText, some newText⟩ (.ofTypeMaps before after)
        (.text ((Effective.of told settings).labelFor told.new)) = some comparison)
    (debug quiet : Bool) :
    around.compare debug quiet told settings oldText newText =
      (around.report debug told settings comparison.result).after []
        (if quiet then [] else comparison.log.map LogEntry.line) := by
  rw [Effective.labelFor_of, Effective.policy_of] at hdiff
  unfold compare
  rw [hbefore, hafter]
  dsimp only
  rw [hdiff]

theorem follows_compare {old new : ByteArray} {oldText newText : String}
    (hold : schemaText? old = some oldText) (hnew : schemaText? new = some newText)
    (debug quiet : Bool) :
    around.Follows debug told (.of told settings) old new
      (around.compare debug quiet told settings oldText newText) := by
  cases hbefore : TypeMap.load oldText with
  | error fault =>
    have hrun : around.compare debug quiet told settings oldText newText =
        .ofFault debug told.old fault := by
      unfold compare
      rw [hbefore]
    exact .faultOfOld ⟨hold, hnew⟩ hbefore (by rw [hrun, Run.exit_ofFault]) hrun
  | ok before =>
    cases hafter : TypeMap.load newText with
    | error fault =>
      have hrun : around.compare debug quiet told settings oldText newText =
          .ofFault debug told.new fault := by
        unfold compare
        rw [hbefore, hafter]
      exact .faultOfNew ⟨hold, hnew⟩ hbefore hafter (by rw [hrun, Run.exit_ofFault]) hrun
    | ok after =>
      obtain ⟨conclusion, hconcludes⟩ := (Effective.of told settings).exists_concludes
        around.deliver ⟨some oldText, some newText⟩ (.ofTypeMaps before after)
      obtain ⟨comparison, hdiff, rfl⟩ :=
        hconcludes (.text ((Effective.of told settings).labelFor told.new))
      rw [compare_of_load hbefore hafter hdiff]
      refine .concluded ⟨hold, hnew⟩ ⟨hbefore, hafter⟩ hconcludes
        (around.exit_report debug told settings comparison.result) fun hreport => ?_
      obtain ⟨hprinted, hwritten⟩ := shows_report hreport debug settings comparison.result
      exact ⟨comparison, hdiff, hprinted, hwritten⟩

/-- The run of a command line that asks for a comparison of two files, among settings that
load. -/
theorem follows_run {words : List String} {options : ProgramOptions} {old new : ByteArray}
    (hwords : Invocation.ofWords words = .command options (.diff told))
    (hthere : ∀ path ∈ options.config, (around.working.find? path).isSome = true)
    (hload : around.settings options.config = .ok settings)
    (hold : around.working.find? told.old = some (.file old))
    (hnew : around.working.find? told.new = some (.file new)) :
    around.Follows (words.contains "--debug") told (.of told settings) old new
      (around.run words) := by
  have hrun : around.run words =
      around.diff (words.contains "--debug") options.quiet (.ok settings) told := by
    simp only [Surroundings.run, hwords, command_of_there hthere, hload, act]
  rw [hrun]
  unfold diff
  rw [hold, hnew]
  dsimp only
  cases holdText : schemaText? old with
  | none => exact .undecoded (.inl holdText) rfl
  | some oldText =>
    cases hnewText : schemaText? new with
    | none => exact .undecoded (.inr hnewText) rfl
    | some newText => exact follows_compare holdText hnewText _ _

end Surroundings

/-- Another command is told the same versions and the same about the policy; how it is to show
what comes of that may differ. -/
structure DiffOptions.AgreesWith (told other : DiffOptions) : Prop where
  old : other.old = told.old
  new : other.new = told.new
  failOnDangerous : other.failOnDangerous = told.failOnDangerous
  interceptorUrl : given? other.interceptorUrl = given? told.interceptorUrl

/-- The same is in effect for the policy of commands that agree. -/
theorem DiffOptions.AgreesWith.policy_eq {told other : DiffOptions} (h : told.AgreesWith other)
    (deliver : String → Request → Delivery) (settings : Settings) :
    (Effective.of other settings).policy deliver = (Effective.of told settings).policy deliver := by
  unfold Effective.policy Effective.of
  rw [h.failOnDangerous, h.interceptorUrl]

/-- **The exit code of a comparison follows from what is in effect.**  If the settings load and
both files are there, each value in effect is what the command is told, or else what the file
gives, or else what the variables give, or else the standard value; the run comes to what follows
from that; and every other command line that agrees on the versions, the settings and what is said
about the policy has the same policy, and the same exit code if its report can be made as well. -/
theorem exit_follows_policy {around : Surroundings} {words : List String}
    {options : ProgramOptions} {told : DiffOptions} {settings : Settings} {old new : ByteArray}
    (hwords : Invocation.ofWords words = .command options (.diff told))
    (hthere : ∀ path ∈ options.config, (around.working.find? path).isSome = true)
    (hload : around.settings options.config = .ok settings)
    (hold : around.working.find? told.old = some (.file old))
    (hnew : around.working.find? told.new = some (.file new)) :
    ∃ file environment effective, around.Gives options.config file environment ∧
      effective.Layers told file environment ∧
      around.Follows (words.contains "--debug") told effective old new (around.run words) ∧
      ∀ others rest other another, Invocation.ofWords others = .command rest (.diff other) →
        rest.config = options.config → told.AgreesWith other →
        Effective.Layers other file environment another →
          another.policy around.deliver = effective.policy around.deliver ∧
          (around.canReport other = around.canReport told →
            (around.run others).exit = (around.run words).exit) := by
  obtain ⟨file, environment, hgives, hfiled, hsettings⟩ := Site.exists_gives_of_settings hload
  have hfollows := Surroundings.follows_run hwords hthere hload hold hnew
  refine ⟨file, environment, .of told settings, hgives, Effective.layers_of hfiled hsettings told,
    hfollows, fun others rest other another hothers hconfig hagrees hlayers => ?_⟩
  obtain rfl := hlayers.unique (Effective.layers_of hfiled hsettings other)
  have hpolicy := hagrees.policy_eq around.deliver settings
  rw [← hconfig] at hthere hload
  rw [← hagrees.old] at hold
  rw [← hagrees.new] at hnew
  have hfollows' := Surroundings.follows_run hothers hthere hload hold hnew
  exact ⟨hpolicy, hfollows.exit_eq hfollows' hpolicy⟩

/-- A site where the file and the variables say opposite things about dangerous changes, and
there is one. -/
def dividedSite : Site where
  working := { files := [(settingsFile, "[diff]\nfail_on_dangerous = true".toUTF8),
    ("old.graphql", "input I \x7b x: Int = 1 \x7d".toUTF8),
    ("new.graphql", "input I \x7b x: Int = 2 \x7d".toUTF8)] }
  environment := [("SCHEMAGUARD_DIFF__FAIL_ON_DANGEROUS", "false"),
    ("SCHEMAGUARD_OUTPUT__FORMAT", "json")]

/-- The surroundings of the site, with no service to be asked. -/
def dividedSurroundings : Surroundings := { dividedSite with deliver := fun _ _ => .late }

/-- The file goes before the variables, and how the report is shown makes no difference. -/
theorem file_decides_exit :
    (∃ file environment, ∃ effective : Effective,
      dividedSurroundings.Gives none file environment ∧
      effective.Layers { old := "old.graphql", new := "new.graphql" } file environment ∧
      (Given.at? file ["diff", "fail_on_dangerous"]).bind Given.toBool? = some true ∧
      effective.failOnDangerous = true) ∧
    (dividedSurroundings.run ["diff", "old.graphql", "new.graphql"]).exit = .breaking ∧
    (dividedSurroundings.run
      ["diff", "-f", "markdown", "-o", "a.md", "old.graphql", "new.graphql"]).exit = .breaking := by
  have hload : dividedSurroundings.settings none =
      .ok { diff := { failOnDangerous := true }, output := { format := .json } } := by
    decide +kernel
  have htrue : (dividedSurroundings.membersRead none).map (fun members =>
      (Given.at? (Given.ofTomlMembers members) ["diff", "fail_on_dangerous"]).bind
        Given.toBool?) = .ok (some true) := by
    decide +kernel
  have hbreaking : (dividedSurroundings.run ["diff", "old.graphql", "new.graphql"]).exit =
      .breaking := by
    decide +kernel
  have hwords : Invocation.ofWords
      ["diff", "-f", "markdown", "-o", "a.md", "old.graphql", "new.graphql"] = .command {}
        (.diff { old := "old.graphql", new := "new.graphql", format := some .markdown,
                 output := some "a.md" }) := by
    decide
  obtain ⟨file, environment, effective, hgives, hlayers, -, hothers⟩ :=
    @exit_follows_policy dividedSurroundings ["diff", "old.graphql", "new.graphql"] {}
      { old := "old.graphql", new := "new.graphql" } _ _ _ (by decide) nofun hload rfl rfl
  obtain ⟨_, _, another, hgives', hlayers', -, -⟩ :=
    @exit_follows_policy dividedSurroundings _ {} _ _ _ _ hwords nofun hload rfl rfl
  obtain ⟨rfl, rfl⟩ := hgives'.unique hgives
  refine ⟨⟨_, _, effective, hgives, hlayers, ?_⟩, hbreaking, ?_⟩
  · obtain ⟨hmembers, -, -⟩ := hgives
    rw [hmembers] at htrue
    have hfile := Except.ok.inj htrue
    obtain ⟨given, hgiven, hread⟩ := Option.bind_eq_some_iff.1 hfile
    exact ⟨hfile, hlayers.failOnDangerous.unique (.file rfl hgiven hread)⟩
  · obtain ⟨-, hexit⟩ := hothers _ _ _ another hwords rfl ⟨rfl, rfl, rfl, rfl⟩ hlayers'
    rw [hexit (by decide), hbreaking]

/-- The surroundings of an old version that has this text, with no service to be asked. -/
def surroundingsOf (text : String) : Surroundings where
  working := { files := [("old.graphql", text.toUTF8), ("new.graphql", "scalar A".toUTF8)] }
  deliver := fun _ _ => .late

/-- **A remark of a wrong kind on an enum value is no fault of a schema**: the version with it
does not load, and the run breaks down, where the same remark on a field ends with the exit code
for schemas. -/
theorem misfit_remark_breaks_down :
    ((TypeMap.load "enum A \x7b X @deprecated(reason: 5) \x7d").isOk = false ∧
      ((surroundingsOf "enum A \x7b X @deprecated(reason: 5) \x7d").run
        ["diff", "old.graphql", "new.graphql"]).exit = .fatal) ∧
    (TypeMap.load "type A \x7b x: Int @deprecated(reason: 5) \x7d").isOk = false ∧
      ((surroundingsOf "type A \x7b x: Int @deprecated(reason: 5) \x7d").run
        ["diff", "old.graphql", "new.graphql"]).exit = .schema := by
  decide +kernel

end SchemaDrift
