import SchemaDrift.Proofs.Text.Lines
import SchemaDrift.Toml.Document

/-!
# Reading documents line by line

What a text comes to does not depend on the bound on its lines, if that is large enough.

* `Comes` — what the lines of a text come to after those before them.
* `Comes.blank`, `Comes.comment`, `Comes.statement`, `Comes.fault` — one line.
* `comes_blank_line` and those after it — the same for lines that are given one by one.
* `readAssignment_scalar` — an assignment of a value that holds no others.
* `read_of_comes` — the table of a document.
-/

namespace SchemaDrift.Toml

/-- After a document so far, the lines of a text come to a result. -/
def Comes (outline : Outline) (text : List Char) (result : Except TomlFault Outline) : Prop :=
  ∀ bound, text.length < bound → readOutline bound outline text = result

namespace Comes

variable {outline : Outline} {result : Except TomlFault Outline}

theorem nil (outline : Outline) : Comes outline [] (.ok outline) := by
  intro bound hbound
  cases bound with
  | zero => exact absurd hbound (Nat.not_lt_zero _)
  | succ bound => rfl

/-- A line on which nothing stands. -/
theorem blank {rest : List Char} (h : Comes outline rest result) :
    Comes outline ('\n' :: rest) result := by
  intro bound hbound
  cases bound with
  | zero => exact absurd hbound (Nat.not_lt_zero _)
  | succ bound => exact h bound (Nat.lt_of_succ_lt_succ hbound)

/-- The characters of which comments are made. -/
def isRemark (c : Char) : Bool := c != '\n' && !isControl c

theorem finishLine?_comment {line : List Char} (hline : line.all isRemark = true)
    (rest : List Char) : finishLine? true (line ++ '\n' :: rest) = some rest := by
  induction line with
  | nil => rfl
  | cons c line ih =>
    obtain ⟨hc, hline⟩ := Bool.and_eq_true_iff.1 hline
    obtain ⟨hfeed, hcontrol⟩ := Bool.and_eq_true_iff.1 hc
    rw [List.cons_append, finishLine?, if_neg (bne_iff_ne.1 hfeed), if_pos rfl,
      if_neg (by simpa using hcontrol)]
    exact ih hline

/-- A line on which a comment stands. -/
theorem comment {line rest : List Char} (hline : line.all isRemark = true)
    (h : Comes outline rest result) : Comes outline ('#' :: (line ++ '\n' :: rest)) result := by
  intro bound hbound
  cases bound with
  | zero => exact absurd hbound (Nat.not_lt_zero _)
  | succ bound =>
    have hfinish : finishLine? false ('#' :: (line ++ '\n' :: rest)) = some rest :=
      finishLine?_comment hline rest
    have hread : readOutline (bound + 1) outline ('#' :: (line ++ '\n' :: rest)) =
        require (finishLine? false ('#' :: (line ++ '\n' :: rest))) >>=
          readOutline bound outline := rfl
    rw [hread, hfinish]
    refine h bound ?_
    rw [List.length_cons, List.length_append, List.length_cons] at hbound
    omega

/-- What starts a line with a statement on it. -/
def Starts (c : Char) : Prop := isBlank c = false ∧ c ≠ '\n' ∧ c ≠ '#'

instance Starts.decidable (c : Char) : Decidable (Starts c) :=
  inferInstanceAs (Decidable (_ ∧ _ ∧ _))

theorem readOutline_statement {c : Char} (hc : Starts c) (bound : Nat) (more : List Char) :
    readOutline (bound + 1) outline (c :: more) = (do
      let (statement, rest) ← readStatement (c :: more)
      let outline ← require (outline.add statement)
      readOutline bound outline (← require (finishLine? false rest))) := by
  obtain ⟨hblank, hfeed, hsign⟩ := hc
  have hskip : skipBlanks (c :: more) = c :: more := by
    rw [skipBlanks, List.dropWhile_cons_of_neg (by simp [hblank])]
  rw [readOutline, hskip]
  simp only [hfeed, hsign, decide_false, Bool.or_self, Bool.false_eq_true, if_false]

/-- A line with a statement on it. -/
theorem statement {c : Char} {more after rest : List Char} {found : Statement} {next : Outline}
    (hc : Starts c) (hread : readStatement (c :: more) = .ok (found, after))
    (hadd : outline.add found = some next) (hfinish : finishLine? false after = some rest)
    (hrest : rest.length ≤ more.length) (h : Comes next rest result) :
    Comes outline (c :: more) result := by
  intro bound hbound
  cases bound with
  | zero => exact absurd hbound (Nat.not_lt_zero _)
  | succ bound =>
    have hnext := h bound (Nat.lt_of_le_of_lt hrest (Nat.lt_of_succ_lt_succ hbound))
    rw [readOutline_statement hc, hread]
    show (do
      let outline ← require (outline.add found)
      readOutline bound outline (← require (finishLine? false after))) = result
    rw [hadd, hfinish]
    exact hnext

/-- A line with a statement that is not read. -/
theorem fault {c : Char} {more : List Char} {fault : TomlFault} (hc : Starts c)
    (hread : readStatement (c :: more) = .error fault) :
    Comes outline (c :: more) (.error fault) := by
  intro bound hbound
  cases bound with
  | zero => exact absurd hbound (Nat.not_lt_zero _)
  | succ bound =>
    rw [readOutline_statement hc, hread]
    rfl

end Comes

/-! ## Lines of their own -/

/-- The text of lines. -/
abbrev textOf (lines : List String) : List Char := (String.intercalate "\n" lines).toList

theorem textOf_cons_cons (line next : String) (rest : List String) :
    textOf (line :: next :: rest) = line.toList ++ '\n' :: textOf (next :: rest) :=
  Text.toList_intercalate_cons_cons line next rest

theorem return_not_mem_textOf {lines : List String} (h : ∀ line ∈ lines, '\r' ∉ line.toList) :
    '\r' ∉ textOf lines := by
  induction lines with
  | nil => exact List.not_mem_nil
  | cons line rest ih =>
    obtain ⟨hline, hrest⟩ := List.forall_mem_cons.1 h
    cases rest with
    | nil => rwa [textOf, String.intercalate_singleton]
    | cons next others =>
      rw [textOf_cons_cons, List.mem_append, List.mem_cons]
      rintro (hmem | hmem | hmem)
      · exact hline hmem
      · exact absurd hmem (by decide)
      · exact ih hrest hmem

section Lines

variable {outline next : Outline} {result : Except TomlFault Outline} {line following : String}
  {others : List String}

theorem comes_blank_line (h : Comes outline (textOf (following :: others)) result) :
    Comes outline (textOf ("" :: following :: others)) result := by
  rw [textOf_cons_cons]
  exact h.blank

theorem comes_comment_line {content : List Char} (hline : line.toList = '#' :: content)
    (hcontent : content.all Comes.isRemark = true)
    (h : Comes outline (textOf (following :: others)) result) :
    Comes outline (textOf (line :: following :: others)) result := by
  rw [textOf_cons_cons, hline]
  exact h.comment hcontent

/-- A statement, with nothing but a comment after it. -/
theorem comes_statement_line (front trail : List Char) {c : Char} {content : List Char}
    {found : Statement} (hline : line.toList = front ++ trail) (hfront : front = c :: content)
    (hc : Comes.Starts c)
    (hread : ∀ more, readStatement (front ++ (trail ++ '\n' :: more)) =
      .ok (found, trail ++ '\n' :: more))
    (htrail : ∀ more, finishLine? false (trail ++ '\n' :: more) = some more)
    (hadd : outline.add found = some next)
    (h : Comes next (textOf (following :: others)) result) :
    Comes outline (textOf (line :: following :: others)) result := by
  have hread := hread (textOf (following :: others))
  rw [hfront, List.cons_append] at hread
  rw [textOf_cons_cons, hline, hfront, List.append_assoc, List.cons_append]
  refine .statement hc hread hadd (htrail _) ?_ h
  rw [List.length_append, List.length_append, List.length_cons]
  omega

theorem comes_fault_line {c : Char} {content : List Char} {fault : TomlFault}
    (hline : line.toList = c :: content) (hc : Comes.Starts c)
    (hread : ∀ more, readStatement (line.toList ++ '\n' :: more) = .error fault) :
    Comes outline (textOf (line :: following :: others)) (.error fault) := by
  have hread := hread (textOf (following :: others))
  rw [hline, List.cons_append] at hread
  rw [textOf_cons_cons, hline, List.cons_append]
  exact .fault hc hread

end Lines

/-! ## Assignments -/

/-- Neither an array nor a table starts with the character. -/
def StartsScalar (text : List Char) : Prop := text.head? ≠ some '[' ∧ text.head? ≠ some '\x7b'

theorem readValue_scalar {text : List Char} (h : StartsScalar text) (bound room : Nat) :
    readValue (bound + 1) room text = readScalar text := by
  rw [readValue]
  · rintro rest rfl
    exact h.1 rfl
  · rintro rest rfl
    exact h.2 rfl

/-- An assignment of a value that holds no others. -/
theorem readAssignment_scalar {text after rest : List Char} {key : Key}
    (hkey : readKey? text = some (key, after)) (hassign : afterWord? "=" after = some rest)
    (hvalue : StartsScalar (skipBlanks rest)) :
    readAssignment text =
      (readScalar (skipBlanks rest)).map fun found => (.assign key found.1, found.2) := by
  unfold readAssignment
  rw [hkey]
  show (require (afterWord? "=" after)).bind _ = _
  rw [hassign]
  show (readValue (2 * text.length + 1 + 1) nestingRoom (skipBlanks rest)).bind _ = _
  rw [readValue_scalar hvalue]
  cases readScalar (skipBlanks rest) <;> rfl

/-! ## Whole documents -/

/-- Line feeds alone end the lines of a text without carriage returns. -/
theorem unixLines_of_not_mem {text : List Char} (h : '\r' ∉ text) : unixLines text = text := by
  induction text with
  | nil => rfl
  | cons c rest ih =>
    rw [List.mem_cons, not_or] at h
    rw [unixLines.eq_3 c rest fun _ hc _ => h.1 hc.symm, ih h.2]

theorem read_of_comes {document : String} {text : List Char} {result : Except TomlFault Outline}
    (htext : unixLines document.toList = text) (h : Comes {} text result) :
    read document = result.map fun outline => Node.settleMembers outline.members := by
  unfold read
  dsimp only
  rw [htext, h _ (Nat.lt_succ_self _)]
  cases result <;> rfl

end SchemaDrift.Toml
