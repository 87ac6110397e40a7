import Mathlib.Data.List.Induction
import SchemaDrift.Locate.Locator
import SchemaDrift.Proofs.Text.Lines

/-!
# Positions in a text

The line and column of an offset lead back to the text: the line has from the column on what
the text has from the offset on, up to the end of the line.

* `getElem?_splitAtFeeds` — the line after so many line feeds.
* `exists_line_at` — what stands at a line and column.
* `positionAt_injOn` — no two offsets have the same line and column.
-/

namespace SchemaDrift

open Text

/-! ## The line of an offset -/

/-- A text is what comes before its last line, and that. -/
theorem exists_last_line (text : List Char) :
    ∃ line, '\n' ∉ line ∧ text.reverse.takeWhile (· != '\n') = line.reverse ∧
      (text = line ∨ ∃ front, text = front ++ '\n' :: line) := by
  induction text using List.reverseRecOn with
  | nil => exact ⟨[], List.not_mem_nil, rfl, .inl rfl⟩
  | append_singleton text c ih =>
    by_cases hc : c = '\n'
    · exact ⟨[], List.not_mem_nil, by simp [hc], .inr ⟨text, by rw [hc]⟩⟩
    · obtain ⟨line, hline, htake, htext⟩ := ih
      refine ⟨line ++ [c], ?_, ?_, ?_⟩
      · simp [hline, Ne.symm hc]
      · simp [hc, htake]
      · rcases htext with rfl | ⟨front, rfl⟩
        · exact .inl rfl
        · exact .inr ⟨front, by simp⟩

/-- A text is its first line, and what comes after that. -/
theorem exists_first_line (text : List Char) :
    ∃ line, '\n' ∉ line ∧ text.takeWhile (· != '\n') = line ∧
      (text = line ∨ ∃ after, text = line ++ '\n' :: after) := by
  induction text with
  | nil => exact ⟨[], List.not_mem_nil, rfl, .inl rfl⟩
  | cons c rest ih =>
    by_cases hc : c = '\n'
    · exact ⟨[], List.not_mem_nil, by simp [hc], .inr ⟨rest, by rw [hc]; rfl⟩⟩
    · obtain ⟨line, hline, htake, hrest⟩ := ih
      refine ⟨c :: line, ?_, ?_, ?_⟩
      · simp [hline, Ne.symm hc]
      · simp [hc, htake]
      · rcases hrest with rfl | ⟨after, rfl⟩
        · exact .inl rfl
        · exact .inr ⟨after, rfl⟩

/-- The line after so many line feeds as come before it. -/
theorem getElem?_splitAtFeeds {before line : List Char} (hline : '\n' ∉ line)
    (hbefore : before = line ∨ ∃ front, before = front ++ '\n' :: line) (after : List Char) :
    (splitAtFeeds (before ++ after))[before.count '\n']? =
      some (line ++ after.takeWhile (· != '\n')) := by
  obtain ⟨first, hfirst, htake, hafter⟩ := exists_first_line after
  have hwhole : '\n' ∉ line ++ first := by simp [hline, hfirst]
  -- the line starts the lines of what follows the last line feed before it
  have hhead : (splitAtFeeds (line ++ after)).head? = some (line ++ first) := by
    rcases hafter with rfl | ⟨rest, rfl⟩
    · rw [splitAtFeeds_of_notMem hwhole, List.head?_cons]
    · rw [← List.append_assoc, splitAtFeeds_append_feed, splitAtFeeds_of_notMem hwhole]
      rfl
  rw [htake]
  rcases hbefore with rfl | ⟨front, rfl⟩
  · rw [List.count_eq_zero_of_not_mem hline, ← List.head?_eq_getElem?, hhead]
  · have hcount : (front ++ '\n' :: line).count '\n' = (splitAtFeeds front).length := by
      rw [List.count_append, List.count_cons_self, List.count_eq_zero_of_not_mem hline,
        length_splitAtFeeds]
    rw [hcount, List.append_assoc, List.cons_append, splitAtFeeds_append_feed,
      List.getElem?_append_right (Nat.le_refl _), Nat.sub_self, ← List.head?_eq_getElem?, hhead]

/-- **A position leads back to the text.**  There is a line of its number, and from its column
on stands what stands in the text from the offset on, up to the end of the line. -/
theorem exists_line_at (offset : Nat) (text : List Char) :
    ∃ line, (splitAtFeeds text)[(positionAt offset text).1 - 1]? = some line ∧
      line.drop ((positionAt offset text).2 - 1) =
        (text.drop offset).takeWhile (· != '\n') := by
  obtain ⟨line, hline, htake, hbefore⟩ := exists_last_line (text.take offset)
  have hget := getElem?_splitAtFeeds hline hbefore (text.drop offset)
  rw [List.take_append_drop] at hget
  refine ⟨_, hget, ?_⟩
  rw [positionAt, htake, List.length_reverse, Nat.add_sub_cancel]
  exact List.drop_left

/-! ## One place for each offset -/

theorem positionAt_injOn {text : List Char} {one other : Nat} (hone : one ≤ text.length)
    (hother : other ≤ text.length) (h : positionAt one text = positionAt other text) :
    one = other := by
  -- of two offsets on one line, the later one has more before it on that line
  have hlt {first second : Nat} (hsecond : second ≤ text.length) (hlt : first < second) :
      positionAt first text ≠ positionAt second text := by
    intro heq
    obtain ⟨hline, hcolumn⟩ := Prod.mk.inj heq
    have hsplit : text.take second =
        text.take first ++ (text.drop first).take (second - first) := by
      rw [← List.take_add, Nat.add_sub_cancel' (Nat.le_of_lt hlt)]
    have hlength : ((text.drop first).take (second - first)).length = second - first := by
      rw [List.length_take, List.length_drop]
      omega
    have hcount : ((text.drop first).take (second - first)).count '\n' = 0 := by
      rw [hsplit, List.count_append] at hline
      omega
    have hall : ∀ c ∈ ((text.drop first).take (second - first)).reverse, (c != '\n') = true := by
      intro c hc
      rw [bne_iff_ne]
      rintro rfl
      exact List.count_eq_zero.1 hcount (List.mem_reverse.1 hc)
    rw [hsplit, List.reverse_append, List.takeWhile_append_of_pos hall, List.length_append,
      List.length_reverse, hlength] at hcolumn
    omega
  rcases Nat.lt_trichotomy one other with hless | heq | hmore
  · exact absurd h (hlt hother hless)
  · exact heq
  · exact absurd h.symm (hlt hone hmore)

end SchemaDrift
