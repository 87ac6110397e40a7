import SchemaDrift.Proofs.Json.Characters
import SchemaDrift.Proofs.Report.Views
import SchemaDrift.Proofs.Text.Lines
import SchemaDrift.Report.Markdown
import SchemaDrift.Sdl.Load

/-!
# The lines of a report in Markdown

A report is put together from entries, each of which is meant as one line.  An entry with line
feeds in it, such as the bullet of a change that quotes a description of several lines, makes
several, and those after the first may look like bullets or headings of the report.

* `Markdown.linesOf`, `firstLine`, `laterLines` — the lines of a text.
* `Markdown.isBullet`, `Markdown.isHeading` — what a line looks like.
* `Markdown.linesUnder` — the lines between a heading and the next one.
* `DiffResult.strayLines` — the lines of a report after the first of each entry.
* `markdown_bullets` — bullets, headings and sections of a report, up to the stray lines.
-/

namespace SchemaDrift

/-! ## Lines of a text -/

namespace Markdown

/-- The lines of a text. -/
def linesOf (text : String) : List String := (Text.splitAtFeeds text.toList).map String.ofList

/-- The first line of a text. -/
def firstLine (text : String) : String := (linesOf text).headD ""

/-- The lines of a text after the first. -/
def laterLines (text : String) : List String := (linesOf text).tail

theorem linesOf_eq (text : String) : linesOf text = firstLine text :: laterLines text := by
  rw [firstLine, laterLines, linesOf]
  cases hsplit : Text.splitAtFeeds text.toList with
  | nil => exact absurd hsplit (Text.splitAtFeeds_ne_nil _)
  | cons line more => rfl

theorem linesOf_of_notMem {text : String} (h : '\n' ∉ text.toList) : linesOf text = [text] := by
  rw [linesOf, Text.splitAtFeeds_of_notMem h, List.map_singleton, String.ofList_toList]

theorem laterLines_of_notMem {text : String} (h : '\n' ∉ text.toList) : laterLines text = [] := by
  rw [laterLines, linesOf_of_notMem h, List.tail_cons]

/-- The lines of entries that are put together are those of each entry. -/
theorem linesOf_intercalate {entries : List String} (h : entries ≠ []) :
    linesOf (String.intercalate "\n" entries) = entries.flatMap linesOf := by
  induction entries with
  | nil => exact absurd rfl h
  | cons entry rest ih =>
    cases rest with
    | nil => rw [String.intercalate_singleton, List.flatMap_singleton]
    | cons next others =>
      rw [List.flatMap_cons, ← ih (List.cons_ne_nil _ _), linesOf,
        Text.toList_intercalate_cons_cons, Text.splitAtFeeds_append_feed, List.map_append]
      rfl

/-- What stands in front of a text without a line feed stands in front of its first line. -/
theorem prefix_firstLine {front : String} (h : '\n' ∉ front.toList) (rest : String) :
    front.toList <+: (firstLine (front ++ rest)).toList := by
  have hsplit : ∀ front : List Char, '\n' ∉ front → ∃ line more,
      Text.splitAtFeeds (front ++ rest.toList) = (front ++ line) :: more := by
    intro front hfront
    induction front with
    | nil =>
      cases hrest : Text.splitAtFeeds rest.toList with
      | nil => exact absurd hrest (Text.splitAtFeeds_ne_nil _)
      | cons line more => exact ⟨line, more, hrest⟩
    | cons c front ih =>
      rw [List.mem_cons, not_or] at hfront
      obtain ⟨line, more, hline⟩ := ih hfront.2
      exact ⟨line, more, by rw [List.cons_append, Text.splitAtFeeds, if_neg (Ne.symm hfront.1),
        hline, List.cons_append]⟩
  obtain ⟨line, more, hline⟩ := hsplit front.toList h
  rw [firstLine, linesOf, String.toList_append, hline, List.map_cons, List.headD_cons,
    String.toList_ofList]
  exact List.prefix_append _ _

/-- Lines of entries are counted as first lines and as later ones. -/
theorem countP_flatMap_linesOf (counted : String → Bool) (entries : List String) :
    (entries.flatMap linesOf).countP counted =
      entries.countP (fun entry => counted (firstLine entry))
        + (entries.flatMap laterLines).countP counted := by
  induction entries with
  | nil => rfl
  | cons entry rest ih =>
    rw [List.flatMap_cons, List.flatMap_cons, List.countP_append, List.countP_append, ih,
      linesOf_eq, List.countP_cons, List.countP_cons]
    omega

/-! ## What lines look like -/

/-- Does a line look like a bullet? -/
def isBullet (line : String) : Bool := "- ".toList.isPrefixOf line.toList

/-- Does a line look like the heading of a section? -/
def isHeading (line : String) : Bool := Section.all.any fun part => line == part.heading

/-- The lines between the heading of a section and the next heading. -/
def linesUnder (part : Section) (lines : List String) : List String :=
  ((lines.dropWhile (· != part.heading)).drop 1).takeWhile fun line => !isHeading line

/-- A line looks neither like a bullet nor like a heading. -/
def IsPlain (line : String) : Prop := isBullet line = false ∧ isHeading line = false

end Markdown

open Markdown

namespace Section

theorem mem_all (part : Section) : part ∈ all := by cases part <;> decide

theorem heading_injective {part other : Section} (h : part.heading = other.heading) :
    part = other := by
  cases part <;> cases other <;> first | rfl | exact absurd h (by decide)

theorem isHeading_heading (part : Section) : isHeading part.heading = true :=
  List.any_eq_true.2 ⟨part, part.mem_all, beq_self_eq_true _⟩

theorem ne_heading {line : String} (h : isHeading line = false) (part : Section) :
    line ≠ part.heading := by
  rintro rfl
  exact nomatch h.symm.trans part.isHeading_heading

theorem linesOf_heading (part : Section) : linesOf part.heading = [part.heading] :=
  linesOf_of_notMem (by cases part <;> decide)

theorem isBullet_heading (part : Section) : isBullet part.heading = false := by
  cases part <;> decide

end Section

namespace Markdown

theorem linesOf_empty : linesOf "" = [""] := rfl

theorem isPlain_empty : IsPlain "" := ⟨by decide, by decide⟩

/-- A line that starts neither like a bullet nor like a heading is plain. -/
theorem isPlain_firstLine {front : String} (hfront : '\n' ∉ front.toList)
    (hnone : front ≠ "" ∧ front.toList.head? ≠ some '-' ∧
      ∀ part ∈ Section.all, front.toList.isPrefixOf part.heading.toList = false)
    (rest : String) : IsPlain (firstLine (front ++ rest)) := by
  obtain ⟨hne, hdash, hheadings⟩ := hnone
  obtain ⟨more, hmore⟩ := prefix_firstLine hfront rest
  constructor
  · cases hlist : front.toList with
    | nil => exact absurd (String.toList_eq_nil_iff.1 hlist) hne
    | cons c tail =>
      rw [hlist] at hdash hmore
      have hc : c ≠ '-' := fun h => hdash (h ▸ rfl)
      rw [isBullet, ← hmore]
      simp [List.isPrefixOf, Ne.symm hc]
  · rw [isHeading, List.any_eq_false]
    intro part hpart heq
    have hprefix : front.toList <+: part.heading.toList := by
      rw [← beq_iff_eq.1 heq]
      exact ⟨more, hmore⟩
    have hfalse := hheadings part hpart
    rw [List.isPrefixOf_iff_prefix.2 hprefix] at hfalse
    exact nomatch hfalse

theorem isBullet_firstLine_bullet (change : Change) :
    isBullet (firstLine (Section.bullet change)) = true := by
  have hbullet : Section.bullet change =
      "- " ++ (change.message.written ++ (" (`" ++ (change.path.written ++ "`)"))) := by
    simp only [Section.bullet, String.append_assoc]
  rw [hbullet]
  exact List.isPrefixOf_iff_prefix.2 (prefix_firstLine (by decide) _)

end Markdown

/-! ## Entries of a report -/

namespace Section

/-- The number of changes in a section, as the table has it. -/
def number (part : Section) (stats : Stats) : Int :=
  match part with
  | breaking => stats.breaking
  | dangerous => stats.dangerous
  | nonBreaking => stats.nonBreaking

/-- The severity of the changes in a section. -/
def noteLevel : Section → NoteLevel
  | breaking => .failure
  | dangerous => .warning
  | nonBreaking => .notice

theorem holds_iff {part : Section} {change : Change} :
    part.holds change = true ↔ NoteLevel.ofChange change = part.noteLevel := by
  have hboth : change.isBreaking = true → change.isDangerous = true → False := by
    intro hbreaking hdangerous
    have h := NoteLevel.ofChange_eq_warning_iff.2 hdangerous
    rw [NoteLevel.ofChange_eq_failure_iff.2 hbreaking] at h
    exact nomatch h
  rw [NoteLevel.ofChange_eq]
  cases part <;> cases hbreaking : change.isBreaking <;> cases hdangerous : change.isDangerous <;>
    simp_all [holds, noteLevel]

theorem exists_holds (change : Change) : ∃ part : Section, part.holds change = true := by
  simp only [holds_iff]
  cases NoteLevel.ofChange change with
  | failure => exact ⟨breaking, rfl⟩
  | warning => exact ⟨dangerous, rfl⟩
  | notice => exact ⟨nonBreaking, rfl⟩

theorem number_ofChanges (part : Section) (changes : List Change) :
    part.number (.ofChanges changes) = (changes.filter part.holds).length := by
  have hcount : (changes.map NoteLevel.ofChange).count part.noteLevel =
      (changes.filter part.holds).length := by
    rw [List.count_eq_countP, List.countP_map, ← List.countP_eq_length_filter]
    refine List.countP_congr fun change _ => ?_
    rw [holds_iff]
    exact beq_iff_eq
  rw [Stats.ofChanges_eq, ← hcount]
  cases part <;> rfl

end Section

/-- The first lines of the entries of a section: its heading, a blank line, the bullets, and
a blank line. -/
theorem Section.map_firstLine_lines (part : Section) {changes : List Change}
    (h : changes.filter part.holds ≠ []) :
    (part.lines changes).map firstLine = part.heading :: "" ::
      ((changes.filter part.holds).map fun change => firstLine (bullet change)) ++ [""] := by
  have hheading : firstLine part.heading = part.heading := by
    rw [firstLine, part.linesOf_heading, List.headD_cons]
  have hempty : firstLine "" = "" := rfl
  rw [Section.lines, if_neg (by simpa using h)]
  simp [hheading, hempty, Function.comp_def]

theorem Section.lines_of_filter_eq_nil {part : Section} {changes : List Change}
    (h : changes.filter part.holds = []) : part.lines changes = [] := by
  rw [Section.lines, if_pos (by rw [h]; rfl)]

theorem Section.countP_isBullet_lines (part : Section) (changes : List Change) :
    (part.lines changes).countP (fun entry => isBullet (firstLine entry)) =
      (changes.filter part.holds).length := by
  by_cases h : changes.filter part.holds = []
  · rw [Section.lines_of_filter_eq_nil h, h]
    rfl
  · have hall : ((changes.filter part.holds).map fun change =>
        firstLine (bullet change)).countP isBullet = (changes.filter part.holds).length := by
      rw [List.countP_eq_length.2, List.length_map]
      intro line hline
      obtain ⟨change, -, rfl⟩ := List.mem_map.1 hline
      exact isBullet_firstLine_bullet change
    rw [show (fun entry => isBullet (firstLine entry)) = isBullet ∘ firstLine from rfl,
      ← List.countP_map, part.map_firstLine_lines h, List.cons_append, List.cons_append,
      List.countP_cons, List.countP_cons, List.countP_append, hall, part.isBullet_heading,
      isPlain_empty.1]
    rfl

theorem Markdown.isHeading_of_isBullet {line : String} (h : isBullet line = true) :
    isHeading line = false := by
  rw [isHeading, List.any_eq_false]
  rintro part - heq
  rw [beq_iff_eq.1 heq, part.isBullet_heading] at h
  exact nomatch h

/-- A heading is among the first lines of its own section only, and only if that has changes. -/
theorem Section.countP_heading_lines (part other : Section) (changes : List Change) :
    (other.lines changes).countP (fun entry => firstLine entry == part.heading) =
      if other = part ∧ changes.filter part.holds ≠ [] then 1 else 0 := by
  by_cases h : changes.filter other.holds = []
  · rw [Section.lines_of_filter_eq_nil h, if_neg (by rintro ⟨rfl, hne⟩; exact hne h)]
    rfl
  · have hempty : ("" == part.heading) = false :=
      beq_eq_false_iff_ne.2 (part.ne_heading isPlain_empty.2)
    have hnone : ((changes.filter other.holds).map fun change =>
        firstLine (bullet change)).countP (· == part.heading) = 0 := by
      rw [List.countP_eq_zero]
      intro line hline heq
      obtain ⟨change, -, rfl⟩ := List.mem_map.1 hline
      exact part.ne_heading (isHeading_of_isBullet (isBullet_firstLine_bullet change))
        (beq_iff_eq.1 heq)
    rw [show (fun entry => firstLine entry == part.heading) = (· == part.heading) ∘ firstLine
        from rfl, ← List.countP_map, other.map_firstLine_lines h, List.cons_append,
      List.cons_append, List.countP_cons, List.countP_cons, List.countP_append, hnone,
      List.countP_singleton, hempty]
    by_cases hsame : other = part
    · subst hsame
      simp [h]
    · have hheading : (other.heading == part.heading) = false :=
        beq_eq_false_iff_ne.2 fun heq => hsame (heading_injective heq)
      simp [hheading, hsame]

namespace DiffResult

/-- The entries of a report before its sections. -/
def preamble (result : DiffResult) (oldName newName : String) : List String :=
  ["# Schema Diff: `" ++ oldName ++ "` → `" ++ newName ++ "`", "",
    "**Conclusion:** " ++ result.conclusion.word, ""]
  ++ if !result.hasChanges then ["*No changes detected.*"]
    else ["## Summary", ""] ++ result.stats.table ++ [""]

/-- The lines of a report that are not the first of their entry. -/
def strayLines (result : DiffResult) (oldName newName : String) : List String :=
  (result.markdownLines oldName newName).flatMap laterLines

variable (result : DiffResult) (oldName newName : String)

theorem markdownLines_eq :
    result.markdownLines oldName newName = result.preamble oldName newName
      ++ Section.all.flatMap fun part => part.lines result.changes := by
  rw [markdownLines, preamble]
  cases hchanges : result.hasChanges with
  | true => simp
  | false =>
    have hnil : result.changes = [] := by simpa [hasChanges] using hchanges
    simp [hnil, Section.lines]

theorem linesOf_markdown :
    linesOf (result.markdown oldName newName) =
      (result.markdownLines oldName newName).flatMap linesOf :=
  linesOf_intercalate (by rw [markdownLines]; simp)

/-- No entry before the sections starts like a bullet or a heading. -/
theorem isPlain_preamble : ∀ entry ∈ result.preamble oldName newName,
    IsPlain (firstLine entry) := by
  have hfixed : ∀ entry ∈ ["", "*No changes detected.*", "## Summary",
      "| Breaking | Dangerous | Non-breaking |", "|----------|-----------|--------------|"],
      isBullet (firstLine entry) = false ∧ isHeading (firstLine entry) = false := by
    decide +kernel
  have htitle : IsPlain (firstLine ("# Schema Diff: `" ++ oldName ++ "` → `" ++ newName ++ "`")) := by
    simp only [String.append_assoc]
    exact isPlain_firstLine (by decide) (by decide) _
  have hconclusion : IsPlain (firstLine ("**Conclusion:** " ++ result.conclusion.word)) :=
    isPlain_firstLine (by decide) (by decide) _
  have hrow : IsPlain (firstLine ("| " ++ toString result.stats.breaking ++ " | " ++
      toString result.stats.dangerous ++ " | " ++ toString result.stats.nonBreaking ++ " |")) := by
    simp only [String.append_assoc]
    exact isPlain_firstLine (by decide) (by decide) _
  unfold preamble Stats.table
  split <;> simp only [List.cons_append, List.nil_append, List.forall_mem_cons, List.not_mem_nil,
    false_implies, implies_true, and_true]
  · exact ⟨htitle, isPlain_empty, hconclusion, isPlain_empty, hfixed _ (by simp)⟩
  · exact ⟨htitle, isPlain_empty, hconclusion, isPlain_empty, hfixed _ (by simp), isPlain_empty,
      hfixed _ (by simp), hfixed _ (by simp), hrow, isPlain_empty⟩

end DiffResult

/-! ## Lines under a heading -/

namespace Markdown

theorem linesUnder_of_notMem {part : Section} {lines : List String} (h : part.heading ∉ lines) :
    linesUnder part lines = [] := by
  have hnone : lines.dropWhile (· != part.heading) = [] := by
    rw [List.dropWhile_eq_nil_iff]
    intro line hline
    exact bne_iff_ne.2 fun heq => h (heq ▸ hline)
  rw [linesUnder, hnone]
  rfl

/-- What stands between a heading and the next one is found under it. -/
theorem linesUnder_append_cons {part : Section} {before block after : List String}
    (hbefore : part.heading ∉ before) (hblock : ∀ line ∈ block, isHeading line = false)
    (hafter : ∀ line ∈ after.head?, isHeading line = true) :
    linesUnder part (before ++ part.heading :: (block ++ after)) = block := by
  have hfound : (before ++ part.heading :: (block ++ after)).dropWhile (· != part.heading) =
      part.heading :: (block ++ after) := by
    have hpassed : ∀ line ∈ before, (line != part.heading) = true := by
      intro line hline
      exact bne_iff_ne.2 fun heq => hbefore (heq ▸ hline)
    rw [List.dropWhile_append_of_pos hpassed]
    exact List.dropWhile_cons_of_neg (by simp)
  have hrest : after.takeWhile (fun line => !isHeading line) = [] := by
    cases after with
    | nil => rfl
    | cons line more => exact List.takeWhile_cons_of_neg (by simp [hafter line rfl])
  rw [linesUnder, hfound, List.drop_one, List.tail_cons,
    List.takeWhile_append_of_pos fun line hline => by rw [hblock line hline]; rfl, hrest,
    List.append_nil]

end Markdown

namespace Section

/-- The lines of a section between its heading and the next one. -/
def body (part : Section) (changes : List Change) : List String :=
  "" :: (changes.filter part.holds).flatMap (fun change => linesOf (bullet change)) ++ [""]

variable {part : Section} {changes : List Change}

/-- No bullet has a later line that looks like a bullet or a heading. -/
def Undisturbed (changes : List Change) : Prop :=
  ∀ change ∈ changes, ∀ line ∈ laterLines (bullet change), IsPlain line

theorem linesOf_lines (h : changes.filter part.holds ≠ []) :
    (part.lines changes).flatMap linesOf = part.heading :: part.body changes := by
  rw [Section.lines, if_neg (by simpa using h), body]
  simp [part.linesOf_heading, linesOf_empty, List.flatMap_map]

theorem isHeading_of_mem_body (h : Undisturbed changes) {line : String}
    (hline : line ∈ part.body changes) : isHeading line = false := by
  simp only [body, List.cons_append, List.mem_cons, List.mem_append, List.mem_flatMap,
    List.not_mem_nil, or_false] at hline
  obtain rfl | ⟨change, hchange, hline⟩ | rfl := hline
  · exact isPlain_empty.2
  · rw [linesOf_eq, List.mem_cons] at hline
    obtain rfl | hlater := hline
    · exact isHeading_of_isBullet (isBullet_firstLine_bullet change)
    · exact (h change (List.mem_of_mem_filter hchange) line hlater).2
  · exact isPlain_empty.2

/-- The bullets in a section are the first lines of those of its changes, in order. -/
theorem filter_isBullet_body (h : Undisturbed changes) :
    (part.body changes).filter isBullet =
      (changes.filter part.holds).map fun change => firstLine (bullet change) := by
  have hbullets : ∀ held : List Change, Undisturbed held →
      (held.flatMap fun change => linesOf (bullet change)).filter isBullet =
        held.map fun change => firstLine (bullet change) := by
    intro held hheld
    induction held with
    | nil => rfl
    | cons change rest ih =>
      obtain ⟨hchange, hrest⟩ := List.forall_mem_cons.1 hheld
      have hlater : (laterLines (bullet change)).filter isBullet = [] := by
        rw [List.filter_eq_nil_iff]
        intro line hline hbullet
        exact nomatch hbullet.symm.trans (hchange line hline).1
      rw [List.flatMap_cons, List.filter_append, ih hrest, linesOf_eq,
        List.filter_cons_of_pos (isBullet_firstLine_bullet change), hlater]
      rfl
  have hempty : ¬ isBullet "" = true := by rw [isPlain_empty.1]; decide
  rw [body, List.cons_append, List.filter_cons_of_neg hempty, List.filter_append,
    hbullets _ fun change hchange => h change (List.mem_of_mem_filter hchange),
    List.filter_cons_of_neg hempty, List.filter_nil, List.append_nil]

/-- A heading among the lines of a section is that of the section. -/
theorem eq_of_heading_mem_lines {other : Section} (h : Undisturbed changes)
    (hmem : part.heading ∈ (other.lines changes).flatMap linesOf) : other = part := by
  by_cases hheld : changes.filter other.holds = []
  · rw [lines_of_filter_eq_nil hheld] at hmem
    exact nomatch hmem
  · rw [linesOf_lines hheld, List.mem_cons] at hmem
    obtain heq | hbody := hmem
    · exact heading_injective heq.symm
    · exact nomatch part.isHeading_heading.symm.trans (isHeading_of_mem_body h hbody)

/-- Sections start with a heading, if they have any line. -/
theorem isHeading_of_mem_head? (parts : List Section) {line : String}
    (h : line ∈ (parts.flatMap fun part => (part.lines changes).flatMap linesOf).head?) :
    isHeading line = true := by
  induction parts with
  | nil => exact nomatch h
  | cons part rest ih =>
    rw [List.flatMap_cons] at h
    by_cases hheld : changes.filter part.holds = []
    · rw [lines_of_filter_eq_nil hheld] at h
      exact ih h
    · rw [linesOf_lines hheld, List.cons_append, List.head?_cons, Option.mem_some_iff] at h
      rw [← h]
      exact part.isHeading_heading

/-- Behind lines without headings, the bullets under the heading of a section are those of its
changes. -/
theorem filter_isBullet_linesUnder (h : Undisturbed changes) {before : List String}
    (hbefore : ∀ line ∈ before, isHeading line = false) :
    (linesUnder part (before ++
        all.flatMap fun other => (other.lines changes).flatMap linesOf)).filter isBullet =
      (changes.filter part.holds).map fun change => firstLine (bullet change) := by
  by_cases hheld : changes.filter part.holds = []
  · have hnone : part.heading ∉ before ++
        all.flatMap fun other => (other.lines changes).flatMap linesOf := by
      intro hmem
      obtain hmem | hmem := List.mem_append.1 hmem
      · exact part.ne_heading (hbefore _ hmem) rfl
      · obtain ⟨other, -, hmem⟩ := List.mem_flatMap.1 hmem
        obtain rfl := eq_of_heading_mem_lines h hmem
        rw [lines_of_filter_eq_nil hheld] at hmem
        exact nomatch hmem
    rw [linesUnder_of_notMem hnone, hheld]
    rfl
  · obtain ⟨front, back, hall, hfront⟩ := List.eq_append_cons_of_mem part.mem_all
    rw [hall, List.flatMap_append, List.flatMap_cons, linesOf_lines hheld, List.cons_append,
      ← List.append_assoc, linesUnder_append_cons ?_ (fun _ => isHeading_of_mem_body h)
        (fun _ => isHeading_of_mem_head? back), filter_isBullet_body h]
    intro hmem
    obtain hmem | hmem := List.mem_append.1 hmem
    · exact part.ne_heading (hbefore _ hmem) rfl
    · obtain ⟨other, hother, hmem⟩ := List.mem_flatMap.1 hmem
      exact hfront (eq_of_heading_mem_lines h hmem ▸ hother)

end Section

/-! ## Reports -/

/-- Every change is in one section. -/
theorem Section.sum_length_filter (changes : List Change) :
    (changes.filter breaking.holds).length + (changes.filter dangerous.holds).length
      + (changes.filter nonBreaking.holds).length = changes.length := by
  have hsum := Stats.sum_ofChanges changes
  have hbreaking := breaking.number_ofChanges changes
  have hdangerous := dangerous.number_ofChanges changes
  have hrest := nonBreaking.number_ofChanges changes
  simp only [number] at hbreaking hdangerous hrest
  omega

/-- What the lines of a report show of a result, up to stray lines: as many bullets as changes;
each heading once, or not at all if the number for it is zero; numbers in a table that are those
of the changes of each section; and under each heading, if no stray line looks like a bullet or
a heading, a bullet for each change of the section, in order. -/
structure DiffResult.ShownInSections (result : DiffResult) (lines stray : List String) : Prop where
  bullets : lines.countP isBullet = result.changes.length + stray.countP isBullet
  headings : ∀ part : Section, lines.count part.heading =
    (if part.number result.stats = 0 then 0 else 1) + stray.count part.heading
  numbers : ∀ part : Section,
    part.number result.stats = (result.changes.filter part.holds).length
  table : result.changes ≠ [] → result.stats.table <:+: lines
  sections : (∀ line ∈ stray, IsPlain line) → ∀ part : Section,
    (linesUnder part lines).filter isBullet =
      (result.changes.filter part.holds).map fun change => firstLine (Section.bullet change)

namespace DiffResult

variable (result : DiffResult) (oldName newName : String)

theorem feed_notMem_row (stats : Stats) : ∀ line ∈ stats.table, '\n' ∉ line.toList := by
  have hnumber : ∀ number : Int, '\n' ∉ (toString number).toList := fun number hfeed =>
    absurd (Json.isPrintable_of_mem_toString hfeed) (by decide)
  simp only [Stats.table, List.forall_mem_cons, List.not_mem_nil, false_implies, implies_true,
    and_true, String.toList_append, List.mem_append, not_or]
  exact ⟨by decide, by decide, ⟨⟨⟨⟨⟨by decide, hnumber _⟩, by decide⟩, hnumber _⟩, by decide⟩,
    hnumber _⟩, by decide⟩

theorem table_infix_linesOf_markdown (h : result.changes ≠ []) :
    result.stats.table <:+: linesOf (result.markdown oldName newName) := by
  have hchanges : result.hasChanges = true := by simpa [hasChanges] using h
  obtain ⟨front, back, hentries⟩ : ∃ front back,
      result.markdownLines oldName newName = front ++ result.stats.table ++ back := by
    refine ⟨["# Schema Diff: `" ++ oldName ++ "` → `" ++ newName ++ "`", "",
      "**Conclusion:** " ++ result.conclusion.word, "", "## Summary", ""],
      "" :: Section.all.flatMap fun part => part.lines result.changes, ?_⟩
    rw [markdownLines, hchanges]
    simp
  have htable : result.stats.table.flatMap linesOf = result.stats.table := by
    rw [List.flatMap_congr fun line hline => linesOf_of_notMem (feed_notMem_row _ line hline)]
    exact List.flatMap_singleton' _
  rw [linesOf_markdown, hentries, List.flatMap_append, List.flatMap_append, htable]
  exact List.infix_append _ _ _

theorem countP_isBullet_markdownLines :
    (result.markdownLines oldName newName).countP (fun entry => isBullet (firstLine entry)) =
      result.changes.length := by
  have hpreamble : (result.preamble oldName newName).countP
      (fun entry => isBullet (firstLine entry)) = 0 := by
    rw [List.countP_eq_zero]
    intro entry hentry hbullet
    exact nomatch hbullet.symm.trans (result.isPlain_preamble oldName newName entry hentry).1
  rw [markdownLines_eq, List.countP_append, hpreamble, ← Section.sum_length_filter]
  simp [Section.all, Section.countP_isBullet_lines, Nat.add_assoc]

theorem countP_heading_markdownLines (part : Section) :
    (result.markdownLines oldName newName).countP (fun entry => firstLine entry == part.heading) =
      if result.changes.filter part.holds = [] then 0 else 1 := by
  have hpreamble : (result.preamble oldName newName).countP
      (fun entry => firstLine entry == part.heading) = 0 := by
    rw [List.countP_eq_zero]
    intro entry hentry heq
    exact part.ne_heading (result.isPlain_preamble oldName newName entry hentry).2
      (beq_iff_eq.1 heq)
  rw [markdownLines_eq, List.countP_append, hpreamble]
  by_cases hheld : result.changes.filter part.holds = []
  · simp [Section.all, Section.countP_heading_lines, hheld]
  · cases part <;> simp [Section.all, Section.countP_heading_lines, hheld]

theorem bullet_mem_markdownLines {change : Change} (h : change ∈ result.changes) :
    Section.bullet change ∈ result.markdownLines oldName newName := by
  obtain ⟨part, hpart⟩ := Section.exists_holds change
  have hheld : change ∈ result.changes.filter part.holds := List.mem_filter.2 ⟨h, hpart⟩
  have hmem : Section.bullet change ∈ part.lines result.changes := by
    rw [Section.lines, if_neg (by simpa using ⟨change, h, hpart⟩)]
    exact List.mem_append_left _ (List.mem_append_right _ (List.mem_map.2 ⟨change, hheld, rfl⟩))
  rw [markdownLines_eq]
  exact List.mem_append_right _ (List.mem_flatMap.2 ⟨part, part.mem_all, hmem⟩)

theorem shownInSections_markdown (hstats : result.stats = .ofChanges result.changes) :
    result.ShownInSections (linesOf (result.markdown oldName newName))
      (result.strayLines oldName newName) where
  bullets := by
    rw [linesOf_markdown, countP_flatMap_linesOf, countP_isBullet_markdownLines, strayLines]
  headings part := by
    rw [linesOf_markdown, List.count_eq_countP, countP_flatMap_linesOf,
      countP_heading_markdownLines, strayLines, List.count_eq_countP, hstats,
      part.number_ofChanges]
    simp
  numbers part := by rw [hstats, part.number_ofChanges]
  table := result.table_infix_linesOf_markdown oldName newName
  sections hstray part := by
    have hundisturbed : Section.Undisturbed result.changes := fun change hchange line hline =>
      hstray line (List.mem_flatMap.2
        ⟨_, result.bullet_mem_markdownLines oldName newName hchange, hline⟩)
    rw [linesOf_markdown, markdownLines_eq, List.flatMap_append, List.flatMap_assoc]
    refine Section.filter_isBullet_linesUnder hundisturbed fun line hline => ?_
    obtain ⟨entry, hentry, hline⟩ := List.mem_flatMap.1 hline
    rw [linesOf_eq, List.mem_cons] at hline
    obtain rfl | hlater := hline
    · exact (result.isPlain_preamble oldName newName entry hentry).2
    · refine (hstray line ?_).2
      rw [strayLines, markdownLines_eq, List.flatMap_append]
      exact List.mem_append_left _ (List.mem_flatMap.2 ⟨entry, hentry, hlater⟩)

theorem feed_notMem_preamble (hold : '\n' ∉ oldName.toList) (hnew : '\n' ∉ newName.toList) :
    ∀ entry ∈ result.preamble oldName newName, '\n' ∉ entry.toList := by
  have hword : '\n' ∉ result.conclusion.word.toList := by
    cases result.conclusion <;> decide
  have htable := feed_notMem_row result.stats
  have htitle : '\n' ∉ ("# Schema Diff: `" ++ oldName ++ "` → `" ++ newName ++ "`").toList := by
    simp [hold, hnew]
  have hconclusion : '\n' ∉ ("**Conclusion:** " ++ result.conclusion.word).toList := by
    simp [hword]
  unfold preamble
  split <;> simp only [List.forall_mem_append, List.forall_mem_cons, List.not_mem_nil,
    false_implies, implies_true, and_true]
  · exact ⟨⟨htitle, by decide, hconclusion, by decide⟩, by decide⟩
  · exact ⟨⟨htitle, by decide, hconclusion, by decide⟩,
      ⟨⟨by decide, by decide⟩, htable⟩, by decide⟩

theorem feed_notMem_lines {part : Section} {changes : List Change}
    (h : ∀ change ∈ changes,
      '\n' ∉ change.message.written.toList ∧ '\n' ∉ change.path.written.toList) :
    ∀ entry ∈ part.lines changes, '\n' ∉ entry.toList := by
  have hheading : '\n' ∉ part.heading.toList := by cases part <;> decide
  intro entry hentry
  rw [Section.lines] at hentry
  split at hentry
  · exact nomatch hentry
  · simp only [List.cons_append, List.nil_append, List.mem_cons, List.mem_append, List.mem_map,
      List.not_mem_nil, or_false] at hentry
    obtain rfl | rfl | ⟨change, hchange, rfl⟩ | rfl := hentry
    · exact hheading
    · decide
    · obtain ⟨hmessage, hpath⟩ := h change (List.mem_of_mem_filter hchange)
      simp [Section.bullet, hmessage, hpath]
    · decide

/-- Without line feeds in names, messages and paths every entry is one line. -/
theorem linesOf_markdown_of_notMem (hold : '\n' ∉ oldName.toList) (hnew : '\n' ∉ newName.toList)
    (h : ∀ change ∈ result.changes,
      '\n' ∉ change.message.written.toList ∧ '\n' ∉ change.path.written.toList) :
    linesOf (result.markdown oldName newName) = result.markdownLines oldName newName ∧
      result.strayLines oldName newName = [] := by
  have hentries : ∀ entry ∈ result.markdownLines oldName newName, '\n' ∉ entry.toList := by
    rw [markdownLines_eq]
    refine List.forall_mem_append.2 ⟨result.feed_notMem_preamble oldName newName hold hnew, ?_⟩
    intro entry hentry
    obtain ⟨part, -, hentry⟩ := List.mem_flatMap.1 hentry
    exact feed_notMem_lines h entry hentry
  constructor
  · rw [linesOf_markdown,
      List.flatMap_congr fun entry hentry => linesOf_of_notMem (hentries entry hentry)]
    exact List.flatMap_singleton' _
  · exact List.flatMap_eq_nil_iff.2 fun entry hentry => laterLines_of_notMem (hentries entry hentry)

end DiffResult

/-- **A report in Markdown has one bullet for each change, but for stray lines.**  Whatever is
compared without an interceptor, and whatever the versions are called: the report has as many
bullets as changes, each heading once or not at all as the table says, and under it the bullets
of the changes of its section, in order, as many as the table says; but each line inside a name,
a message or a path that looks like a bullet or a heading counts as one more.  Without line
feeds in them no line is stray. -/
theorem markdown_bullets (strict : Bool) (seconds : Double) (sources : Sources)
    (snapshot : Snapshot) (label : Datum) (oldName newName : String) :
    ∃ comparison, Policy.diff ⟨strict, none, seconds⟩ sources snapshot label = some comparison ∧
      comparison.result.ShownInSections (linesOf (comparison.result.markdown oldName newName))
        (comparison.result.strayLines oldName newName) ∧
      ('\n' ∉ oldName.toList → '\n' ∉ newName.toList →
        (∀ change ∈ comparison.result.changes,
          '\n' ∉ change.message.written.toList ∧ '\n' ∉ change.path.written.toList) →
        linesOf (comparison.result.markdown oldName newName) =
            comparison.result.markdownLines oldName newName ∧
          comparison.result.strayLines oldName newName = []) :=
  ⟨_, rfl, DiffResult.shownInSections_markdown _ _ _ rfl,
    DiffResult.linesOf_markdown_of_notMem _ _ _⟩

/-- A schema without descriptions. -/
def bareText : String := "type Query \x7b a: Int \x7d"

/-- The same with a description of two lines, the second of which looks like a bullet. -/
def listingText : String := "\"\"\"\nx\n- y\n\"\"\"\n" ++ bareText

/-- The two texts are loaded, and the report on the one change has two bullets. -/
theorem listing_makes_a_bullet :
    ∃ before after comparison, TypeMap.load bareText = .ok before ∧
      TypeMap.load listingText = .ok after ∧
      Policy.diff {} ⟨some bareText, some listingText⟩ (.ofTypeMaps before after)
        (.text "schema.graphql") = some comparison ∧
      comparison.result.changes.length = 1 ∧
      (linesOf (comparison.result.markdown "old" "new")).countP isBullet = 2 := by
  have hcounts : (do
      let before ← (TypeMap.load bareText).toOption
      let after ← (TypeMap.load listingText).toOption
      let comparison ← Policy.diff {} ⟨some bareText, some listingText⟩
        (.ofTypeMaps before after) (.text "schema.graphql")
      return (comparison.result.changes.length,
        ((comparison.result.markdownLines "old" "new").flatMap linesOf).countP isBullet)) =
          some (1, 2) := by
    decide +kernel
  have hloaded : ∀ {text : String} {types : TypeMap},
      (TypeMap.load text).toOption = some types → TypeMap.load text = .ok types := by
    intro text types h
    cases hload : TypeMap.load text with
    | error fault => rw [hload] at h; exact nomatch h
    | ok found => rw [hload] at h; rw [Option.some.inj h]
  simp only [Option.bind_eq_bind, Option.bind_eq_some_iff, Option.pure_def, Option.some.injEq,
    Prod.mk.injEq] at hcounts
  obtain ⟨before, hbefore, after, hafter, comparison, hdiff, hchanges, hbullets⟩ := hcounts
  rw [← DiffResult.linesOf_markdown] at hbullets
  exact ⟨before, after, comparison, hloaded hbefore, hloaded hafter, hdiff, hchanges, hbullets⟩

end SchemaDrift
