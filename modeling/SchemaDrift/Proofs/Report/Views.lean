import SchemaDrift.Proofs.Intercept.Outcomes
import SchemaDrift.Report.Terminal

/-!
# The views of a result agree

The notes, the numbers, the terminal report and the verdict each tell how severe a change is.
They tell the same, also of changes whose level an interceptor made up.

* `NoteLevel.ofChange_eq`, `Change.symbol_eq` — one reading of the level for all views.
* `Stats.ofChanges_eq` — the numbers by severity.
* `conclude_eq` — the verdict from the numbers.
* `Note.IsAbout`, `DiffResult.ShownMarked` — what notes and reports say of changes.
* `views_agree` — the results of comparisons.
-/

namespace SchemaDrift

/-! ## The severity of a change -/

theorem Change.hasLevel_iff {change : Change} {level : Level} :
    change.hasLevel level = true ↔ Level.ofId? change.levelText = some level := by
  rw [Change.hasLevel, beq_iff_eq]
  constructor
  · intro h
    rw [h, Level.ofId?_id]
  · intro h
    exact (Level.id_of_ofId? h).symm

/-- Words for no level count as the least severe. -/
theorem NoteLevel.ofChange_eq (change : Change) :
    NoteLevel.ofChange change =
      if change.isBreaking then .failure else if change.isDangerous then .warning else .notice := by
  simp only [Change.isBreaking, Change.isDangerous, Change.hasLevel_iff, NoteLevel.ofChange]
  cases Level.ofId? change.levelText with
  | none => rfl
  | some level => cases level <;> rfl

theorem NoteLevel.ofChange_eq_failure_iff {change : Change} :
    NoteLevel.ofChange change = .failure ↔ change.isBreaking = true := by
  rw [NoteLevel.ofChange_eq]
  split
  · simp [*]
  · split <;> simp [*]

theorem NoteLevel.ofChange_eq_warning_iff {change : Change} :
    NoteLevel.ofChange change = .warning ↔ change.isDangerous = true := by
  rw [Change.isDangerous, Change.hasLevel_iff, NoteLevel.ofChange]
  cases Level.ofId? change.levelText with
  | none => decide
  | some level => cases level <;> decide

namespace NoteLevel

/-- The symbol for a severity. -/
def symbol : NoteLevel → String
  | failure => "✖"
  | warning => "⚠"
  | notice => "✔"

/-- The ink of a severity. -/
def ink : NoteLevel → Ink
  | failure => .red
  | warning => .yellow
  | notice => .green

/-- The symbol for a severity in its ink. -/
def mark (colored : Bool) (level : NoteLevel) : String := inked colored [level.ink] level.symbol

theorem mark_injective (colored : Bool) : Function.Injective (mark colored) := by
  intro level other
  cases colored <;> cases level <;> cases other <;> decide

theorem length_mark (colored : Bool) (level other : NoteLevel) :
    (level.mark colored).toList.length = (other.mark colored).toList.length := by
  cases colored <;> cases level <;> cases other <;> decide +kernel

/-- No mark is the beginning of another. -/
theorem eq_of_mark_append {colored : Bool} {level other : NoteLevel} {rest more : List Char}
    (h : (level.mark colored).toList ++ rest = (other.mark colored).toList ++ more) :
    level = other := by
  have hmark := (List.append_inj h (length_mark colored level other)).1
  exact mark_injective colored (String.toList_inj.1 hmark)

end NoteLevel

theorem Change.symbol_eq (colored : Bool) (change : Change) :
    change.symbol colored = (NoteLevel.ofChange change).mark colored := by
  rw [NoteLevel.ofChange_eq, Change.symbol]
  split
  · rfl
  · split <;> rfl

/-! ## Numbers -/

/-- Numbers that are counted up tell how many changes there are of each severity. -/
theorem Stats.foldl_count (stats : Stats) (changes : List Change) :
    changes.foldl Stats.count stats =
      ⟨stats.breaking + (changes.map NoteLevel.ofChange).count .failure,
        stats.dangerous + (changes.map NoteLevel.ofChange).count .warning,
        stats.nonBreaking + (changes.map NoteLevel.ofChange).count .notice⟩ := by
  induction changes generalizing stats with
  | nil => simp
  | cons change rest ih =>
    rw [List.foldl_cons, ih, Stats.count, List.map_cons, NoteLevel.ofChange_eq]
    split
    · simp [Int.add_comm, Int.add_left_comm]
    · split
      · simp [Int.add_comm, Int.add_left_comm]
      · simp [Int.add_comm, Int.add_left_comm]

theorem Stats.ofChanges_eq (changes : List Change) :
    Stats.ofChanges changes =
      ⟨(changes.map NoteLevel.ofChange).count .failure,
        (changes.map NoteLevel.ofChange).count .warning,
        (changes.map NoteLevel.ofChange).count .notice⟩ := by
  have h := Stats.foldl_count {} changes
  simpa only [Stats.ofChanges, Int.zero_add] using h

theorem NoteLevel.count_add (levels : List NoteLevel) :
    levels.count .failure + levels.count .warning + levels.count .notice = levels.length := by
  induction levels with
  | nil => rfl
  | cons level rest ih =>
    rw [List.length_cons, ← ih]
    cases level <;> simp <;> omega

theorem Stats.breaking_pos_iff {changes : List Change} :
    0 < (Stats.ofChanges changes).breaking ↔ ∃ change ∈ changes, change.isBreaking = true := by
  rw [Stats.ofChanges_eq, Int.natCast_pos, List.count_pos_iff, List.mem_map]
  simp only [NoteLevel.ofChange_eq_failure_iff]

theorem Stats.dangerous_pos_iff {changes : List Change} :
    0 < (Stats.ofChanges changes).dangerous ↔ ∃ change ∈ changes, change.isDangerous = true := by
  rw [Stats.ofChanges_eq, Int.natCast_pos, List.count_pos_iff, List.mem_map]
  simp only [NoteLevel.ofChange_eq_warning_iff]

/-! ## Verdicts -/

/-- The verdict can be told from the numbers. -/
theorem conclude_eq (strict : Bool) (changes : List Change) :
    conclude strict changes =
      if 0 < (Stats.ofChanges changes).breaking ∨
          strict = true ∧ 0 < (Stats.ofChanges changes).dangerous
      then .failure else .success := by
  rw [conclude]
  refine if_congr ?_ rfl rfl
  rw [Stats.breaking_pos_iff, Stats.dangerous_pos_iff, List.any_eq_true]
  constructor
  · rintro ⟨change, hmem, h⟩
    rw [Bool.or_eq_true, Bool.and_eq_true] at h
    obtain h | ⟨hstrict, h⟩ := h
    · exact .inl ⟨change, hmem, h⟩
    · exact .inr ⟨hstrict, change, hmem, h⟩
  · rintro (⟨change, hmem, h⟩ | ⟨hstrict, change, hmem, h⟩)
    · exact ⟨change, hmem, by simp [h]⟩
    · exact ⟨change, hmem, by simp [h, hstrict]⟩

/-! ## Notes -/

/-- The note is about the change: it has the words for the source and the message of the
change, says the reason if one is given, or else the message again, stands on the line of the
change, and is a failure or a warning as the change is breaking or dangerous. -/
structure Note.IsAbout (sources : Sources) (label : Datum) (change : Change) (note : Note) :
    Prop where
  path : note.path = label
  title : note.title = change.message
  reasoned : ∀ reason, change.reason = .text reason → reason ≠ "" → note.message = .text reason
  unreasoned : change.reason = .nothing ∨ change.reason = .text "" → note.message = change.message
  located : ∀ path, change.path = .text path → note.startLine = (sources.locate path).line
  unlocated : change.path = .nothing → note.startLine = Location.fallback.line
  endLine : note.endLine = note.startLine
  failure : note.level = .failure ↔ change.isBreaking = true
  warning : note.level = .warning ↔ change.isDangerous = true

theorem Note.isAbout_ofChange (sources : Sources) (label : Datum) (change : Change) :
    (Note.ofChange sources label change).IsAbout sources label change where
  path := rfl
  title := rfl
  reasoned reason hreason hgiven := by simp [Note.ofChange, hreason, Datum.isGiven, hgiven]
  unreasoned h := by
    obtain h | h := h <;> simp [Note.ofChange, h, Datum.isGiven]
  located path hpath := by simp [Note.ofChange, Change.line, hpath]
  unlocated hpath := by simp [Note.ofChange, Change.line, hpath]
  endLine := rfl
  failure := NoteLevel.ofChange_eq_failure_iff
  warning := NoteLevel.ofChange_eq_warning_iff

/-- A relation of each change to its note, which is made from it, holds all along. -/
theorem forall₂_notes {related : Change → Note → Prop} {sources : Sources} {label : Datum}
    (h : ∀ change, related change (Note.ofChange sources label change)) (changes : List Change) :
    List.Forall₂ related changes (changes.map (Note.ofChange sources label)) := by
  rw [List.forall₂_map_right_iff]
  exact List.forall₂_same.2 fun change _ => h change

/-- The numbers are those of the notes of each severity. -/
theorem Stats.ofChanges_eq_notes (sources : Sources) (label : Datum) (changes : List Change) :
    Stats.ofChanges changes =
      ⟨((changes.map (Note.ofChange sources label)).map Note.level).count .failure,
        ((changes.map (Note.ofChange sources label)).map Note.level).count .warning,
        ((changes.map (Note.ofChange sources label)).map Note.level).count .notice⟩ := by
  rw [List.map_map]
  exact Stats.ofChanges_eq changes

theorem Stats.sum_ofChanges (changes : List Change) :
    (Stats.ofChanges changes).breaking + (Stats.ofChanges changes).dangerous
      + (Stats.ofChanges changes).nonBreaking = changes.length := by
  have hsum := NoteLevel.count_add (changes.map NoteLevel.ofChange)
  rw [List.length_map] at hsum
  rw [Stats.ofChanges_eq, ← hsum]
  push_cast
  rfl

/-! ## Terminal reports -/

/-- The line starts with the mark of a severity and the message of the change. -/
def Introduces (colored : Bool) (level : NoteLevel) (change : Change) (line : String) : Prop :=
  ∃ rest, line = "  " ++ level.mark colored ++ " " ++ change.message.written ++ rest

/-- The report has a block of lines for each change.  The first of them introduces the change
with the mark of a severity exactly if that is the severity of its note. -/
def DiffResult.ShownMarked (result : DiffResult) (colored : Bool) (report : String) : Prop :=
  ∃ before blocks after, report = String.intercalate "\n" (before ++ List.flatten blocks ++ after) ∧
    (result.changes ≠ [] → before.length = 7 ∧ after.length = 2) ∧
    List.Forall₂ (fun pair block => ∃ line more, block = line :: more ∧
        ∀ level, Introduces colored level pair.1 line ↔ pair.2.level = level)
      (result.changes.zip result.notes) blocks

/-- A line has no more than one mark. -/
theorem Introduces.level_eq {colored : Bool} {level other : NoteLevel} {change : Change}
    {line : String} (h : Introduces colored level change line)
    (hother : Introduces colored other change line) : level = other := by
  obtain ⟨rest, rfl⟩ := h
  obtain ⟨more, h⟩ := hother
  have hlist := congrArg String.toList h
  simp only [String.toList_append, List.append_assoc, List.append_cancel_left_eq] at hlist
  exact NoteLevel.eq_of_mark_append hlist

theorem exists_changeLines_eq (colored : Bool) (change : Change) (note : Note) :
    ∃ line more, changeLines colored change note = line :: more ∧
      Introduces colored (NoteLevel.ofChange change) change line := by
  unfold changeLines
  rw [Change.symbol_eq]
  dsimp only
  split
  · exact ⟨_, _, rfl, _, String.append_assoc⟩
  · exact ⟨_, _, rfl, _, String.append_assoc⟩

theorem DiffResult.exists_terminal_eq (result : DiffResult) (oldName newName : String)
    (colored : Bool) :
    ∃ first last : List String, first.length = 3 ∧ last.length = 1 ∧
      result.terminal oldName newName colored =
        String.intercalate "\n" (first ++ result.terminalBody colored ++ last) :=
  ⟨[_, _, _], [_], rfl, rfl, rfl⟩

theorem DiffResult.exists_terminalBody_eq {result : DiffResult} (colored : Bool)
    (h : result.changes ≠ []) :
    ∃ summary : List String, summary.length = 4 ∧
      result.terminalBody colored = summary ++ (result.changes.zip result.notes).flatMap
        (fun pair => changeLines colored pair.1 pair.2) ++ [""] := by
  have hsome : result.hasChanges = true := by simpa [DiffResult.hasChanges] using h
  exact ⟨_, rfl, by rw [DiffResult.terminalBody, hsome]; rfl⟩

theorem DiffResult.shownMarked_terminal {result : DiffResult} (oldName newName : String)
    (colored : Bool)
    (h : List.Forall₂ (fun change (note : Note) => note.level = NoteLevel.ofChange change)
      result.changes result.notes) :
    result.ShownMarked colored (result.terminal oldName newName colored) := by
  obtain ⟨first, last, hfirst, hlast, hreport⟩ := result.exists_terminal_eq oldName newName colored
  rw [hreport]
  by_cases hchanges : result.changes = []
  · refine ⟨first ++ result.terminalBody colored ++ last, [], [], by simp, ?_, ?_⟩
    · intro hne
      exact absurd hchanges hne
    · rw [hchanges]
      exact .nil
  · obtain ⟨summary, hsummary, hbody⟩ := result.exists_terminalBody_eq colored hchanges
    refine ⟨first ++ summary, (result.changes.zip result.notes).map fun pair =>
      changeLines colored pair.1 pair.2, "" :: last, ?_, ?_, ?_⟩
    · rw [hbody, List.flatMap_def]
      simp
    · simp [hfirst, hsummary, hlast]
    · rw [List.forall₂_map_right_iff]
      refine List.forall₂_same.2 fun pair hpair => ?_
      obtain ⟨line, more, hlines, hintroduced⟩ := exists_changeLines_eq colored pair.1 pair.2
      refine ⟨line, more, hlines, fun level => ?_⟩
      rw [(List.forall₂_iff_zip.1 h).2 hpair]
      constructor
      · intro hlevel
        exact hintroduced.level_eq hlevel
      · rintro rfl
        exact hintroduced

/-! ## Results of comparisons -/

/-- The parts of the change are texts, of which those for the path and the reason may be
missing. -/
structure Change.IsWorded (change : Change) : Prop where
  message : ∃ text, change.message = .text text
  path : ∃ text : Option String, change.path = .ofOption text
  reason : ∃ text : Option String, change.reason = .ofOption text

theorem Detection.isWorded_classify (d : Detection) : d.classify.IsWorded :=
  ⟨⟨_, rfl⟩, ⟨_, rfl⟩, ⟨_, rfl⟩⟩

theorem Payload.isWorded_toChange (payload : Payload) : payload.toChange.IsWorded :=
  ⟨⟨_, rfl⟩, ⟨some payload.path, rfl⟩, ⟨_, rfl⟩⟩

/-- Whatever an interceptor answers, the changes that remain hold texts. -/
theorem Policy.isWorded_of_outcome {policy : Policy} {snapshot : Snapshot} {outcome : Outcome}
    (h : policy.outcome snapshot.changes = some outcome) :
    ∀ change ∈ outcome.changes, change.IsWorded := by
  have hdetected : ∀ change ∈ snapshot.changes, change.IsWorded := by
    intro change hchange
    obtain ⟨d, -, rfl⟩ := List.mem_map.1 hchange
    exact d.isWorded_classify
  obtain ⟨log, rfl⟩ | ⟨response, -, rfl⟩ := Policy.outcome_cases h
  · exact hdetected
  · intro change hchange
    cases hreplaced : response.changes with
    | none =>
      rw [Outcome.apply, hreplaced] at hchange
      exact hdetected change hchange
    | some payloads =>
      rw [Outcome.apply, hreplaced] at hchange
      obtain ⟨payload, -, rfl⟩ := List.mem_map.1 hchange
      exact payload.isWorded_toChange

/-- If no answer sets the verdict, it is that on the changes that remain. -/
theorem Policy.conclusion_eq_none {policy : Policy} {changes : List Change} {outcome : Outcome}
    (h : policy.outcome changes = some outcome)
    (hunset : ∀ response, policy.Hears changes response → response.conclusion = none) :
    outcome.conclusion = none := by
  obtain ⟨log, rfl⟩ | ⟨response, hheard, rfl⟩ := Policy.outcome_cases h
  · rfl
  · exact hunset response hheard

/-- **The views of a result agree.**  Whatever is compared and whatever an interceptor answers:
the changes hold texts and each has a note about it; the numbers are those of the notes of each
severity, and sum up to the number of changes; the terminal report introduces each change with
the mark of its note, in colour or not; and unless an answer sets the verdict, it is failure
exactly if there are breaking changes, or dangerous ones that are to fail. -/
theorem views_agree {policy : Policy} {sources : Sources} {snapshot : Snapshot} {label : Datum}
    {comparison : Comparison} (h : policy.diff sources snapshot label = some comparison) :
    (∀ change ∈ comparison.result.changes, change.IsWorded) ∧
    List.Forall₂ (Note.IsAbout sources label) comparison.result.changes comparison.result.notes ∧
    comparison.result.stats.breaking = (comparison.result.notes.map Note.level).count .failure ∧
    comparison.result.stats.dangerous = (comparison.result.notes.map Note.level).count .warning ∧
    comparison.result.stats.nonBreaking = (comparison.result.notes.map Note.level).count .notice ∧
    comparison.result.stats.breaking + comparison.result.stats.dangerous
      + comparison.result.stats.nonBreaking = comparison.result.changes.length ∧
    (∀ oldName newName colored, comparison.result.ShownMarked colored
      (comparison.result.terminal oldName newName colored)) ∧
    ((∀ response, policy.Hears snapshot.changes response → response.conclusion = none) →
      comparison.result.conclusion =
        if 0 < comparison.result.stats.breaking ∨
            policy.failOnDangerous = true ∧ 0 < comparison.result.stats.dangerous
        then .failure else .success) := by
  obtain ⟨outcome, houtcome, rfl⟩ := Option.map_eq_some_iff.1 h
  have hstats := Stats.ofChanges_eq_notes sources label outcome.changes
  have hmarked : List.Forall₂ (fun change (note : Note) => note.level = NoteLevel.ofChange change)
      outcome.changes (outcome.changes.map (Note.ofChange sources label)) := by
    refine forall₂_notes ?_ outcome.changes
    intro change
    rfl
  refine ⟨Policy.isWorded_of_outcome houtcome,
    forall₂_notes (Note.isAbout_ofChange sources label) outcome.changes,
    congrArg Stats.breaking hstats, congrArg Stats.dangerous hstats,
    congrArg Stats.nonBreaking hstats, Stats.sum_ofChanges outcome.changes, ?_, ?_⟩
  · intro oldName newName colored
    exact DiffResult.shownMarked_terminal oldName newName colored hmarked
  · intro hunset
    have hnone := Policy.conclusion_eq_none houtcome hunset
    have hverdict := conclude_eq policy.failOnDangerous outcome.changes
    change outcome.conclusion.getD _ = _
    rw [hnone]
    exact hverdict

/-- An answer with one change, of a level that is not known, in place of all others. -/
def minorChange : String :=
  "\x7b\"changes\": [\x7b\"ruleId\": \"R\", \"criticalityLevel\": \"MINOR\", "
    ++ "\"message\": \"m\", \"path\": \"A\"\x7d]\x7d"

/-- A service answers so. -/
def softened : Policy where
  interceptor := some (.constant 200 minorChange)

theorem softened_views_agree :
    ∃ comparison, softened.diff ⟨none, none⟩ dateDropped .nothing = some comparison ∧
      comparison.result.notes.map Note.level = [.notice] ∧
      comparison.result.stats.nonBreaking = (comparison.result.notes.map Note.level).count .notice ∧
      comparison.result.conclusion =
        if 0 < comparison.result.stats.breaking ∨
            softened.failOnDangerous = true ∧ 0 < comparison.result.stats.dangerous
        then .failure else .success := by
  have hjson : Json.read? .wire minorChange =
      some (.object [("changes", .array [.object [("ruleId", .text "R"),
        ("criticalityLevel", .text "MINOR"), ("message", .text "m"),
        ("path", .text "A")]])]) := by cbv
  have hheard : softened.Hears dateDropped.changes
      { changes := some [⟨"R", "MINOR", none, "m", "A"⟩] } := by
    refine ⟨_, rfl, Interceptor.constant_answers (by decide) rfl (by decide) hjson ?_⟩
    exact ⟨⟨_, rfl⟩, .replaced (.cons ⟨⟨_, rfl⟩, rfl, rfl, rfl, rfl, rfl⟩ .nil), rfl⟩
  obtain ⟨comparison, hdiff⟩ : ∃ comparison,
      softened.diff ⟨none, none⟩ dateDropped .nothing = some comparison :=
    ⟨_, by rw [Policy.diff, Policy.outcome_of_hears hheard]; rfl⟩
  obtain ⟨-, -, -, -, hnotices, -, -, hverdict⟩ := views_agree hdiff
  refine ⟨comparison, hdiff, ?_, hnotices, hverdict fun response hresponse => ?_⟩
  · rw [Policy.diff, Policy.outcome_of_hears hheard] at hdiff
    rw [← Option.some.inj hdiff]
    rfl
  · have hsame := (Policy.outcome_of_hears hheard).symm.trans (Policy.outcome_of_hears hresponse)
    exact (congrArg Outcome.conclusion (Option.some.inj hsame)).symm

end SchemaDrift
