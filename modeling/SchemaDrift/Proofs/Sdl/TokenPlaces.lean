import Mathlib.Data.List.Induction
import SchemaDrift.Proofs.Locate.Masking
import SchemaDrift.Proofs.Sdl.Steps
import SchemaDrift.Proofs.Text.Lines
import SchemaDrift.Sdl.Lexeme
import SchemaDrift.Text.Excerpt

/-!
# Lines and columns of tokens

The lexer counts lines as it goes, and a column is counted from the last line end before a
token.  Both are those of the text in which every line end is a line feed.

* `positionAt_unifyBreaks` — the line and column in the text with line feeds.
* `exists_last_lexemesFrom` — what ends the tokens.
* `exists_passed_of_mem_lexemesFrom` — the offset and the line of a token.
* `pairwise_offset_lexemesFrom` — tokens stand one after the other.
-/

namespace SchemaDrift

open Sdl Text

/-! ## Line ends -/

theorem lineEnds_append {rest : List Char} (h : rest.head? ≠ some '\n') (front : List Char) :
    lineEnds (front ++ rest) = lineEnds front + lineEnds rest := by
  induction front with
  | nil => simp [lineEnds]
  | cons c front ih =>
    have hends : endsLine c (front ++ rest) = endsLine c front := by
      cases front with
      | nil =>
        simp only [endsLine, List.nil_append, List.head?_nil]
        cases hc : rest.head? with
        | none => rfl
        | some d =>
          rw [hc] at h
          have hd : (some d != some '\n') = true := bne_iff_ne.2 h
          rw [hd]
          rfl
      | cons d front => rfl
    rw [List.cons_append, lineEnds, lineEnds, hends, ih, Nat.add_assoc]

/-- With line feeds for line ends, the lines that end are counted by the line feeds. -/
theorem count_unifyBreaks (text : List Char) :
    (unifyBreaks text).count '\n' = lineEnds text := by
  fun_induction unifyBreaks text with
  | case1 => rfl
  | case2 rest ih =>
    rw [List.count_cons_self, ih]
    simp [lineEnds, endsLine, Nat.add_comm]
  | case3 rest hnot ih =>
    have hhead : rest.head? ≠ some '\n' := by
      intro hhead
      cases rest with
      | nil => exact absurd hhead.symm (Option.some_ne_none _)
      | cons c rest => exact hnot rest (by rw [Option.some.inj hhead])
    rw [List.count_cons_self, ih]
    simp [lineEnds, endsLine, hhead, Nat.add_comm]
  | case4 c rest _ hreturn ih =>
    have hends : endsLine c rest = (c == '\n') := by
      rw [endsLine, beq_eq_false_iff_ne.2 hreturn, Bool.false_and, Bool.or_false]
    rw [List.count_cons, ih, lineEnds, hends, Nat.add_comm]

/-- The characters after the last line end of a text. -/
def lastLine (text : List Char) : List Char := (text.reverse.takeWhile fun c => !isBreak c).reverse

theorem lastLine_append_break {c : Char} (hc : isBreak c = true) (front : List Char) :
    lastLine (front ++ [c]) = [] := by
  simp [lastLine, hc]

theorem lastLine_append_char {c : Char} (hc : isBreak c = false) (front : List Char) :
    lastLine (front ++ [c]) = lastLine front ++ [c] := by
  simp [lastLine, hc]

theorem exists_unifyBreaks_append_feed (front : List Char) :
    ∃ before, unifyBreaks (front ++ ['\n']) = before ++ ['\n'] := by
  fun_induction unifyBreaks front with
  | case1 => exact ⟨[], rfl⟩
  | case2 rest ih =>
    obtain ⟨before, hbefore⟩ := ih
    refine ⟨'\n' :: before, ?_⟩
    rw [List.cons_append, List.cons_append, unifyBreaks, hbefore, List.cons_append]
  | case3 rest hnot ih =>
    obtain ⟨before, hbefore⟩ := ih
    rw [List.cons_append, unifyBreaks_return]
    split
    · exact ⟨before, hbefore⟩
    · exact ⟨'\n' :: before, by rw [hbefore, List.cons_append]⟩
  | case4 c rest _ hreturn ih =>
    obtain ⟨before, hbefore⟩ := ih
    refine ⟨c :: before, ?_⟩
    rw [List.cons_append, unifyBreaks_cons hreturn, hbefore, List.cons_append]

theorem lastLine_unifyBreaks (text : List Char) : lastLine (unifyBreaks text) = lastLine text := by
  induction text using List.reverseRecOn with
  | nil => rfl
  | append_singleton front c ih =>
    by_cases hfeed : c = '\n'
    · subst hfeed
      obtain ⟨before, hbefore⟩ := exists_unifyBreaks_append_feed front
      rw [hbefore, lastLine_append_break (by decide), lastLine_append_break (by decide)]
    · have hhead : [c].head? ≠ some '\n' := fun h => hfeed (Option.some.inj h)
      rw [unifyBreaks_append_of_head hhead]
      by_cases hreturn : c = '\r'
      · subst hreturn
        have hone : unifyBreaks ['\r'] = ['\n'] := rfl
        rw [hone, lastLine_append_break (by decide), lastLine_append_break (by decide)]
      · have hone : unifyBreaks [c] = [c] := unifyBreaks_cons hreturn []
        have hc : isBreak c = false := by simp [isBreak, hfeed, hreturn]
        rw [hone, lastLine_append_char hc, lastLine_append_char hc, ih]

theorem takeWhile_ne_feed {text : List Char} (h : '\r' ∉ text) :
    text.takeWhile (· != '\n') = text.takeWhile fun c => !isBreak c := by
  induction text with
  | nil => rfl
  | cons c text ih =>
    rw [List.mem_cons, not_or] at h
    have hc : isBreak c = (c == '\n') := by
      rw [isBreak, beq_eq_false_iff_ne.2 (Ne.symm h.1), Bool.or_false]
    rw [List.takeWhile_cons, List.takeWhile_cons, ih h.2, hc]
    rfl

/-- With line feeds for line ends, the last line is what follows the last line feed. -/
theorem length_takeWhile_unifyBreaks (text : List Char) :
    ((unifyBreaks text).reverse.takeWhile (· != '\n')).length = (lastLine text).length := by
  have hreturn : '\r' ∉ (unifyBreaks text).reverse := by
    rw [List.mem_reverse]
    exact return_notMem_unifyBreaks text
  rw [takeWhile_ne_feed hreturn, ← lastLine_unifyBreaks, lastLine, List.length_reverse]

/-- Lines and columns of the text with line feeds are those of the text. -/
theorem positionAt_unifyBreaks {front rest : List Char} (h : rest.head? ≠ some '\n') :
    positionAt (unifyBreaks front).length (unifyBreaks (front ++ rest)) =
      (lineEnds front + 1, (lastLine front).length + 1) := by
  rw [positionAt, unifyBreaks_append_of_head h, List.take_left, count_unifyBreaks,
    length_takeWhile_unifyBreaks]

/-! ## Tokens in a text -/

namespace Sdl

/-- Only the last token of a text can be its end or a fault. -/
theorem exists_last_lexemesFrom (text : List Char) (taken offset line : Nat) :
    ∃ front last, lexemesFrom taken offset line text = front ++ [last] ∧
      ∀ lexeme ∈ front, lexeme.token ≠ .stop ∧ ∀ fault, lexeme.token ≠ .invalid fault := by
  induction text generalizing taken offset line with
  | nil => exact ⟨[], _, rfl, nofun⟩
  | cons c rest ih =>
    cases taken with
    | succ taken => exact ih ..
    | zero =>
      rw [lexemesFrom]
      cases hstep : step c rest with
      | ignored size => exact ih ..
      | token token size =>
        obtain ⟨front, last, htokens, hfront⟩ :=
          ih (size - 1) (offset + 1) (if endsLine c rest then line + 1 else line)
        refine ⟨⟨token, offset, line⟩ :: front, last, ?_, ?_⟩
        · rw [List.cons_append, ← htokens]
        · exact List.forall_mem_cons.2 ⟨ne_stop_of_step hstep, hfront⟩
      | fault fault after => exact ⟨[], _, rfl, nofun⟩

/-- A token of a text starts with it, or it is one of the rest after the first character, or a
fault further on. -/
theorem mem_lexemesFrom_cons {c : Char} {rest : List Char} {taken offset line : Nat}
    {lexeme : Lexeme} (h : lexeme ∈ lexemesFrom taken offset line (c :: rest)) :
    (lexeme.offset = offset ∧ lexeme.line = line) ∨
      (∃ taken, lexeme ∈
        lexemesFrom taken (offset + 1) (if endsLine c rest then line + 1 else line) rest) ∨
      ((∃ fault, lexeme.token = .invalid fault) ∧ offset ≤ lexeme.offset) := by
  cases taken with
  | succ taken => exact .inr (.inl ⟨taken, h⟩)
  | zero =>
    rw [lexemesFrom] at h
    cases hstep : step c rest with
    | ignored size =>
      rw [hstep] at h
      exact .inr (.inl ⟨_, h⟩)
    | token token size =>
      rw [hstep] at h
      rcases List.mem_cons.1 h with rfl | h
      · exact .inl ⟨rfl, rfl⟩
      · exact .inr (.inl ⟨_, h⟩)
    | fault fault after =>
      rw [hstep] at h
      rw [List.mem_singleton.1 h]
      exact .inr (.inr ⟨⟨fault, rfl⟩, Nat.le_add_right offset after⟩)

/-- A token other than a fault starts somewhere in the text, on the line after those that end
before it. -/
theorem exists_passed_of_mem_lexemesFrom {text : List Char} {taken offset line : Nat}
    {lexeme : Lexeme} (h : lexeme ∈ lexemesFrom taken offset line text)
    (hvalid : ∀ fault, lexeme.token ≠ .invalid fault) :
    ∃ passed after, text = passed ++ after ∧ lexeme.offset = offset + passed.length ∧
      lexeme.line + lineEnds after = line + lineEnds text := by
  induction text generalizing taken offset line with
  | nil =>
    rw [lexemesFrom, List.mem_singleton] at h
    subst h
    exact ⟨[], [], rfl, rfl, rfl⟩
  | cons c rest ih =>
    rcases mem_lexemesFrom_cons h with ⟨hoffset, hline⟩ | ⟨taken, hlater⟩ | ⟨⟨fault, hfault⟩, -⟩
    · exact ⟨[], c :: rest, rfl, hoffset, by rw [hline]⟩
    · obtain ⟨passed, after, rfl, hoffset, hends⟩ := ih hlater
      have hline : (if endsLine c (passed ++ after) then line + 1 else line) +
          lineEnds (passed ++ after) = line + lineEnds (c :: (passed ++ after)) := by
        rw [lineEnds]
        split <;> omega
      refine ⟨c :: passed, after, rfl, ?_, hends.trans hline⟩
      rw [hoffset, List.length_cons, Nat.add_assoc, Nat.add_comm 1]
    · exact absurd hfault (hvalid fault)

theorem offset_le_of_mem_lexemesFrom {text : List Char} {taken offset line : Nat}
    {lexeme : Lexeme} (h : lexeme ∈ lexemesFrom taken offset line text) :
    offset ≤ lexeme.offset := by
  induction text generalizing taken offset line with
  | nil =>
    rw [lexemesFrom, List.mem_singleton] at h
    rw [h]
  | cons c rest ih =>
    rcases mem_lexemesFrom_cons h with ⟨hoffset, -⟩ | ⟨taken, hlater⟩ | ⟨-, hle⟩
    · exact Nat.le_of_eq hoffset.symm
    · exact Nat.le_of_succ_le (ih hlater)
    · exact hle

/-- Tokens stand one after the other. -/
theorem pairwise_offset_lexemesFrom (text : List Char) (taken offset line : Nat) :
    (lexemesFrom taken offset line text).Pairwise fun one other => one.offset < other.offset := by
  induction text generalizing taken offset line with
  | nil => exact List.pairwise_singleton _ _
  | cons c rest ih =>
    cases taken with
    | succ taken => exact ih ..
    | zero =>
      rw [lexemesFrom]
      cases step c rest with
      | ignored size => exact ih ..
      | token token size =>
        exact List.pairwise_cons.2 ⟨fun _ h => offset_le_of_mem_lexemesFrom h, ih ..⟩
      | fault fault after => exact List.pairwise_singleton _ _

end Sdl

end SchemaDrift
