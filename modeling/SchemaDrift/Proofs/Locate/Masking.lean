import Mathlib.Data.List.Forall2
import Mathlib.Data.List.TakeWhile
import SchemaDrift.Locate.Locator

/-!
# What masking keeps

A masked text has the length and the line ends of the text, and wherever it does not show a
space it shows the text.

* `Shows` — what may stand in place of a character.
* `forall₂_shows_mask` — a masked text shows the text, character by character.
* `prefix_drop_of_mask` — what a masked text shows at an offset stands there in the text.
* `positionAt_mask` — lines and columns are those of the text.
-/

namespace SchemaDrift

open Text

/-! ## Character by character -/

/-- What a masked text has in place of a character: the character itself, or a space if it
ends no line. -/
def Shows (shown c : Char) : Prop := shown = c ∨ (shown = ' ' ∧ isBreak c = false)

namespace Shows

theorem refl (c : Char) : Shows c c := .inl rfl

theorem space {c : Char} (h : isBreak c = false) : Shows ' ' c := .inr ⟨rfl, h⟩

theorem blankOut (c : Char) : Shows (blankOut c) c := by
  unfold SchemaDrift.blankOut
  split
  · exact refl c
  · exact space (Bool.eq_false_iff.2 ‹_›)

theorem quote : Shows ' ' '"' := space (by decide)

theorem eq_of_ne_space {shown c : Char} (h : Shows shown c) (hne : shown ≠ ' ') : shown = c :=
  h.resolve_right fun hs => hne hs.1

theorem isFeed_eq {shown c : Char} (h : Shows shown c) : (shown == '\n') = (c == '\n') := by
  rcases h with rfl | ⟨rfl, hc⟩
  · rfl
  · have hne : c ≠ '\n' := by
      rintro rfl
      exact absurd hc (by decide)
    rw [beq_eq_false_iff_ne.2 hne]
    rfl

end Shows

/-- A masked text shows the text, whatever surrounds it. -/
theorem forall₂_shows_maskIn (around : Masking) (text : List Char) :
    List.Forall₂ Shows (maskIn around text) text := by
  fun_induction maskIn around text with
  | case1 => exact .nil
  | case2 _ ih => exact .cons .quote (.cons .quote (.cons .quote ih))
  | case3 _ _ ih => exact .cons .quote ih
  | case4 _ ih => exact .cons (.space (by decide)) ih
  | case5 c _ _ _ _ ih => exact .cons (.refl c) ih
  | case6 c _ _ ih => exact .cons (.refl c) ih
  | case7 _ _ hc ih => exact .cons (.space (Bool.eq_false_iff.2 hc)) ih
  | case8 c _ ih => exact .cons (.space (by decide)) (.cons (.blankOut c) ih)
  | case9 _ ih => exact .cons .quote ih
  | case10 c _ _ _ _ ih => exact .cons (.refl c) ih
  | case11 _ _ _ _ hc ih => exact .cons (.space (Bool.eq_false_iff.2 hc)) ih
  | case12 _ ih =>
    exact .cons (.space (by decide)) (.cons .quote (.cons .quote (.cons .quote ih)))
  | case13 _ ih => exact .cons .quote (.cons .quote (.cons .quote ih))
  | case14 c _ _ _ ih => exact .cons (.blankOut c) ih

theorem forall₂_shows_mask (text : List Char) : List.Forall₂ Shows (mask text) text :=
  forall₂_shows_maskIn .bare text

theorem length_mask (text : List Char) : (mask text).length = text.length :=
  (forall₂_shows_mask text).length_eq

/-! ## What is shown -/

/-- A word without spaces that is shown at the start stands there. -/
theorem prefix_of_shows {word shown text : List Char} (hspace : ' ' ∉ word)
    (hword : word <+: shown) (h : List.Forall₂ Shows shown text) : word <+: text := by
  induction word generalizing shown text with
  | nil => exact List.nil_prefix
  | cons c word ih =>
    obtain ⟨rest, rfl⟩ := hword
    cases h with
    | @cons _ d _ tail hc hrest =>
      rw [List.mem_cons, not_or] at hspace
      obtain ⟨hne, hspace⟩ := hspace
      obtain rfl : c = d := hc.eq_of_ne_space (Ne.symm hne)
      exact List.prefix_cons_inj c |>.2 (ih hspace (List.prefix_append _ _) hrest)

/-- What a masked text shows at an offset stands there in the text. -/
theorem prefix_drop_of_mask {word text : List Char} {offset : Nat} (hspace : ' ' ∉ word)
    (hword : word <+: (mask text).drop offset) : word <+: text.drop offset :=
  prefix_of_shows hspace hword (List.forall₂_drop offset (forall₂_shows_mask text))

/-! ## Lines and columns -/

/-- Where the line feeds are in a text decides the line and column of an offset. -/
theorem positionAt_eq_of_feeds {one other : List Char}
    (h : one.map (· == '\n') = other.map (· == '\n')) (offset : Nat) :
    positionAt offset one = positionAt offset other := by
  have hbefore : (one.take offset).map (· == '\n') = (other.take offset).map (· == '\n') := by
    rw [List.map_take, List.map_take, h]
  have hcount (text : List Char) : text.count '\n' = (text.map (· == '\n')).count true := by
    rw [List.count_eq_countP, List.count_eq_countP, List.countP_map]
    exact List.countP_congr fun c _ => by simp
  have hcolumn (text : List Char) :
      (text.takeWhile (· != '\n')).length = ((text.map (· == '\n')).takeWhile (!·)).length := by
    rw [List.takeWhile_map, List.length_map]
    rfl
  simp only [positionAt, hcount, hcolumn, List.map_reverse, hbefore]

/-- Masking moves nothing to another line or column. -/
theorem positionAt_mask (offset : Nat) (text : List Char) :
    positionAt offset (mask text) = positionAt offset text := by
  refine positionAt_eq_of_feeds ?_ offset
  have h := forall₂_shows_mask text
  exact List.forall₂_eq_eq_eq ▸ (List.forall₂_map_left_iff.2
    (List.forall₂_map_right_iff.2 (h.imp fun _ _ => Shows.isFeed_eq)))

end SchemaDrift
