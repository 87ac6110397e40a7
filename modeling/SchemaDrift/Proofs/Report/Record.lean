import SchemaDrift.Proofs.Json.Characters
import SchemaDrift.Report.Record

/-!
# Reports as JSON are faithful

A report is read back as the result it is about, whatever texts the result holds, by every
reader that takes the numbers in it.

* `DiffResult.numbers` — the numbers of a result.
* `Json.Reading.Takes` — a reader refuses nothing that a report holds; the one that refuses
  only what is malformed takes every report (`takes_lenient`), the one with a limit on the
  digits of integers all with shorter numbers (`takes_loose_iff`).
* `DiffResult.report_faithful` — the reports are read back, and hold printable characters.
-/

namespace SchemaDrift

/-! ## The numbers of a result -/

/-- The number that stands in place of a text, if one does. -/
def Datum.numbers : Datum → List Int
  | .number value => [value]
  | _ => []

/-- The numbers of a change. -/
def Change.numbers (change : Change) : List Int :=
  change.reason.numbers ++ change.message.numbers ++ change.path.numbers

/-- The numbers of a note. -/
def Note.numbers (note : Note) : List Int :=
  note.startLine :: note.endLine ::
    (note.path.numbers ++ note.title.numbers ++ note.message.numbers)

/-- The numbers of changes, as they are counted. -/
def Stats.numbers (stats : Stats) : List Int :=
  [stats.breaking, stats.dangerous, stats.nonBreaking]

/-- The numbers of a result. -/
def DiffResult.numbers (result : DiffResult) : List Int :=
  result.stats.numbers ++ result.changes.flatMap Change.numbers
    ++ result.notes.flatMap Note.numbers

/-! ## Readers -/

namespace Json

/-- How values are read if nothing is refused but what is malformed. -/
def Reading.lenient : Reading where
  readsHalves := true
  reads _ := true
  depth := none

/-- A reader takes a result: it reads all its numbers, and goes three levels deep. -/
structure Reading.Takes (reading : Reading) (result : DiffResult) : Prop where
  numbers : ∀ number ∈ result.numbers, reading.reads (.ofInt number) = true
  depth : ∀ limit ∈ reading.depth, 3 ≤ limit

theorem Reading.takes_lenient (result : DiffResult) : Reading.lenient.Takes result where
  numbers _ _ := rfl
  depth _ h := nomatch h

theorem Reading.takes_loose_iff {result : DiffResult} :
    Reading.loose.Takes result ↔ ∀ number ∈ result.numbers, number.natAbs < 10 ^ digitLimit := by
  have hreads : ∀ number,
      Reading.loose.reads (.ofInt number) = true ↔ number.natAbs < 10 ^ digitLimit := by
    intro number
    have hwhole : (Numeral.ofInt number).isWhole = true := rfl
    have hlength : (Numeral.ofInt number).whole.length ≤ digitLimit ↔
        number.natAbs < 10 ^ digitLimit := Nat.length_toDigits_le_iff (by decide) (by decide)
    simpa [Reading.loose, hwhole] using hlength
  constructor
  · exact fun htakes number hnumber => (hreads number).1 (htakes.numbers number hnumber)
  · exact fun hall => ⟨fun number hnumber => (hreads number).2 (hall number hnumber), nofun⟩

end Json

/-! ## Parts of reports -/

open Json

theorem Datum.depth_toJson (datum : Datum) : datum.toJson.depth = 0 := by
  cases datum <;> rfl

theorem Change.depth_toJson (change : Change) : change.toJson.depth = 1 := by
  simp [Change.toJson, Json.depth, Json.depthOfMembers, Datum.depth_toJson]

theorem Note.depth_toJson (note : Note) : note.toJson.depth = 1 := by
  simp [Note.toJson, Json.depth, Json.depthOfMembers, Datum.depth_toJson]

section Plain

variable {reading : Reading}

theorem Datum.plain_toJson {datum : Datum}
    (h : ∀ number ∈ datum.numbers, reading.reads (.ofInt number) = true) :
    datum.toJson.Plain reading := by
  cases datum with
  | text content => exact .text content
  | number value => exact .int (h value List.mem_cons_self)
  | nothing => exact .null

theorem Change.plain_toJson {change : Change}
    (h : ∀ number ∈ change.numbers, reading.reads (.ofInt number) = true) :
    change.toJson.Plain reading := by
  simp only [Change.numbers, List.forall_mem_append] at h
  obtain ⟨⟨hreason, hmessage⟩, hpath⟩ := h
  refine .object ?_
  simp only [List.forall_mem_cons, List.not_mem_nil, false_implies, implies_true, and_true]
  exact ⟨.text _, .text _, Datum.plain_toJson hreason, Datum.plain_toJson hmessage,
    Datum.plain_toJson hpath⟩

theorem Note.plain_toJson {note : Note}
    (h : ∀ number ∈ note.numbers, reading.reads (.ofInt number) = true) :
    note.toJson.Plain reading := by
  simp only [Note.numbers, List.forall_mem_cons, List.forall_mem_append] at h
  obtain ⟨hstart, hend, ⟨hpath, htitle⟩, hmessage⟩ := h
  refine .object ?_
  simp only [List.forall_mem_cons, List.not_mem_nil, false_implies, implies_true, and_true]
  exact ⟨Datum.plain_toJson hpath, .int hstart, .int hend, .text _, Datum.plain_toJson htitle,
    Datum.plain_toJson hmessage⟩

theorem Stats.plain_toJson {stats : Stats}
    (h : ∀ number ∈ stats.numbers, reading.reads (.ofInt number) = true) :
    stats.toJson.Plain reading := by
  simp only [Stats.numbers, List.forall_mem_cons] at h
  obtain ⟨hbreaking, hdangerous, hrest, -⟩ := h
  refine .object ?_
  simp only [List.forall_mem_cons, List.not_mem_nil, false_implies, implies_true, and_true]
  exact ⟨.int hbreaking, .int hdangerous, .int hrest⟩

end Plain

/-! ## Reports -/

namespace DiffResult

variable {result : DiffResult} {reading : Reading}

theorem depth_changes (result : DiffResult) :
    (Json.array (result.changes.map Change.toJson)).depth ≤ 2 := by
  refine depth_array_le fun item hitem => ?_
  obtain ⟨change, -, rfl⟩ := List.mem_map.1 hitem
  exact Nat.le_of_eq change.depth_toJson

theorem depth_notes (result : DiffResult) :
    (Json.array (result.notes.map Note.toJson)).depth ≤ 2 := by
  refine depth_array_le fun item hitem => ?_
  obtain ⟨note, -, rfl⟩ := List.mem_map.1 hitem
  exact Nat.le_of_eq note.depth_toJson

theorem depth_toJson_le (result : DiffResult) : result.toJson.depth ≤ 3 := by
  have hchanges := result.depth_changes
  have hnotes := result.depth_notes
  simp only [toJson, Stats.toJson, Json.depth, Json.depthOfMembers]
  omega

theorem depth_notesJson_le (result : DiffResult) : result.notesJson.depth ≤ 3 := by
  have hnotes := result.depth_notes
  simp only [notesJson, Json.depth, Json.depthOfMembers]
  omega

theorem plain_notes (h : ∀ number ∈ result.numbers, reading.reads (.ofInt number) = true) :
    (Json.array (result.notes.map Note.toJson)).Plain reading := by
  refine .array fun item hitem => ?_
  obtain ⟨note, hnote, rfl⟩ := List.mem_map.1 hitem
  refine Note.plain_toJson fun number hnumber => h number ?_
  exact List.mem_append_right _ (List.mem_flatMap.2 ⟨note, hnote, hnumber⟩)

theorem plain_changes (h : ∀ number ∈ result.numbers, reading.reads (.ofInt number) = true) :
    (Json.array (result.changes.map Change.toJson)).Plain reading := by
  refine .array fun item hitem => ?_
  obtain ⟨change, hchange, rfl⟩ := List.mem_map.1 hitem
  refine Change.plain_toJson fun number hnumber => h number ?_
  exact List.mem_append_left _
    (List.mem_append_right _ (List.mem_flatMap.2 ⟨change, hchange, hnumber⟩))

theorem plain_toJson (h : ∀ number ∈ result.numbers, reading.reads (.ofInt number) = true) :
    result.toJson.Plain reading := by
  have hstats : result.stats.toJson.Plain reading := Stats.plain_toJson fun number hnumber =>
    h number (List.mem_append_left _ (List.mem_append_left _ hnumber))
  refine .object ?_
  simp only [List.forall_mem_cons, List.not_mem_nil, false_implies, implies_true, and_true]
  exact ⟨.text _, .bool _, .bool _, hstats, plain_changes h, plain_notes h⟩

theorem plain_notesJson (h : ∀ number ∈ result.numbers, reading.reads (.ofInt number) = true) :
    result.notesJson.Plain reading := by
  refine .object ?_
  simp only [List.forall_mem_cons, List.not_mem_nil, false_implies, implies_true, and_true]
  exact ⟨.text _, plain_notes h⟩

/-- Nothing but printable characters is in a report, and line feeds if it is spread over
lines. -/
theorem mem_write_report {json : Json} (h : json.Plain reading) {pretty : Bool} {c : Char}
    (hc : c ∈ (Json.write (.report pretty) json).toList) :
    IsPrintable c ∨ pretty = true ∧ c = '\n' := by
  rw [Json.write, String.toList_ofList] at hc
  obtain hprintable | ⟨hlayout, hfeed⟩ := h.mayWrite_of_mem_writeAt rfl hc
  · exact .inl hprintable
  · refine .inr ⟨?_, hfeed⟩
    cases pretty with
    | false => cases hlayout
    | true => rfl

/-- **Reports as JSON are faithful.** For every result, whatever texts it holds, and both
layouts: every reader that takes the result reads the report back as that result, and the
report on the notes alone as the members of it for the verdict and the notes.  Such a reader
is the one that refuses only what is malformed, and the one with a limit on the digits of
integers unless a number of the result has more.  Both reports consist of printable characters
of ASCII, and of line feeds if they are spread over lines. -/
theorem report_faithful (result : DiffResult) (pretty : Bool) :
    (∀ reading : Reading, reading.Takes result →
      Json.read? reading (result.record pretty) = some result.toJson ∧
      ∃ conclusion annotations, result.toJson.get? "conclusion" = some conclusion ∧
        result.toJson.get? "annotations" = some annotations ∧
        Json.read? reading (result.notesRecord pretty) =
          some (.object [("conclusion", conclusion), ("annotations", annotations)])) ∧
    Reading.lenient.Takes result ∧
    (Reading.loose.Takes result ↔ ∀ number ∈ result.numbers, number.natAbs < 10 ^ digitLimit) ∧
    ∀ report ∈ [result.record pretty, result.notesRecord pretty], ∀ c ∈ report.toList,
      IsPrintable c ∨ pretty = true ∧ c = '\n' := by
  refine ⟨fun reading htakes => ⟨?_, ?_⟩, Reading.takes_lenient result, Reading.takes_loose_iff, ?_⟩
  · exact read?_write (plain_toJson htakes.numbers)
      (fun limit hlimit => Nat.le_trans result.depth_toJson_le (htakes.depth limit hlimit)) _
  · refine ⟨_, _, rfl, rfl, ?_⟩
    exact read?_write (plain_notesJson htakes.numbers)
      (fun limit hlimit => Nat.le_trans result.depth_notesJson_le (htakes.depth limit hlimit)) _
  · have htakes := Reading.takes_lenient result
    simp only [List.forall_mem_cons, List.not_mem_nil, false_implies, implies_true, and_true]
    exact ⟨fun _ => mem_write_report (plain_toJson htakes.numbers),
      fun _ => mem_write_report (plain_notesJson htakes.numbers)⟩

end DiffResult

end SchemaDrift
