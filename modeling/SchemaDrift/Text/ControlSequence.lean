import SchemaDrift.Text.Lines

/-!
# Control sequences

A control sequence tells a terminal to do something: an escape character, an opening
bracket, parameters, intermediate characters and a final character.

* `afterSequence?` — the text after a control sequence at its start.
* `dropSequences` — a text without its control sequences.
-/

namespace SchemaDrift.Text

/-- A character between two others, both included. -/
def isWithin (low high c : Char) : Bool := low ≤ c && c ≤ high

/-- The text after a control sequence, from after the opening bracket on. -/
def afterSequence? (text : List Char) : Option (List Char) :=
  match (text.dropWhile (isWithin '0' '?')).dropWhile (isWithin ' ' '/') with
  | c :: rest => if isWithin '@' '~' c then some rest else none
  | [] => none

theorem length_of_afterSequence? {text rest : List Char} (h : afterSequence? text = some rest) :
    rest.length < text.length := by
  unfold afterSequence? at h
  have h₁ := (List.dropWhile_suffix (isWithin '0' '?') (l := text)).length_le
  have h₂ := (List.dropWhile_suffix (isWithin ' ' '/')
    (l := text.dropWhile (isWithin '0' '?'))).length_le
  split at h
  next c more hm =>
    rw [hm] at h₂
    split at h
    · simp at h h₂; subst h; omega
    · simp at h
  next => simp at h

/-- A text without its control sequences.  What is left is not looked at again. -/
def dropSequences (text : List Char) : List Char :=
  match text with
  | '\x1b' :: '[' :: rest =>
    match _h : afterSequence? rest with
    | some after => dropSequences after
    | none => '\x1b' :: dropSequences ('[' :: rest)
  | c :: rest => c :: dropSequences rest
  | [] => []
termination_by text.length
decreasing_by
  · have := length_of_afterSequence? _h
    simp only [List.length_cons]
    omega
  all_goals simp

end SchemaDrift.Text
