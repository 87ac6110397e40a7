import Mathlib.Data.List.Forall2
import SchemaDrift.Proofs.Json.Characters
import SchemaDrift.Report.Terminal

/-!
# Colours only decorate

A report for a terminal says the same with and without colours: what colours add are display
sequences, and these can be told from what a report quotes unless it quotes an escape character.

* `Ink.erase`, `withoutInks` — a text without its display sequences.
* `EscapeFree` — texts without an escape character.
* `Decorates` — a text is another one with display sequences strewn in, whatever comes after it.
* `colors_only_decorate` — a report with colours decorates the one without.
-/

namespace SchemaDrift

open Text

/-! ## Deleting display sequences -/

namespace Ink

/-- The text after what a display sequence goes on with after its opening bracket: one digit or
more, and the letter m. -/
def after? (text : List Char) : Option (List Char) :=
  match text.takeWhile isDigit, text.dropWhile isDigit with
  | _ :: _, 'm' :: rest => some rest
  | _, _ => none

theorem length_of_after? {text rest : List Char} (h : after? text = some rest) :
    rest.length < text.length := by
  have hle := (List.dropWhile_suffix isDigit (l := text)).length_le
  unfold after? at h
  split at h
  next more _ hm =>
    obtain rfl : more = rest := Option.some.inj h
    rw [hm, List.length_cons] at hle
    omega
  next => exact nomatch h

/-- A text without its display sequences.  What is left is not looked at again. -/
def erase (text : List Char) : List Char :=
  match text with
  | '\x1b' :: '[' :: rest =>
    match _h : after? rest with
    | some more => erase more
    | none => '\x1b' :: erase ('[' :: rest)
  | c :: rest => c :: erase rest
  | [] => []
termination_by text.length
decreasing_by
  · have := length_of_after? _h
    simp only [List.length_cons]
    omega
  all_goals simp

theorem erase_cons_of_ne {c : Char} (h : c ≠ '\x1b') (rest : List Char) :
    erase (c :: rest) = c :: erase rest := by
  rw [erase]
  intro more hescape
  exact absurd hescape h

theorem erase_append_of_notMem {text : List Char} (h : '\x1b' ∉ text) (rest : List Char) :
    erase (text ++ rest) = text ++ erase rest := by
  induction text with
  | nil => rfl
  | cons c more ih =>
    rw [List.mem_cons, not_or] at h
    rw [List.cons_append, erase_cons_of_ne (Ne.symm h.1), ih h.2, List.cons_append]

theorem after?_digits {digits : List Char} (hne : digits ≠ [])
    (hall : digits.all isDigit = true) (rest : List Char) :
    after? (digits ++ 'm' :: rest) = some rest := by
  have hdigits := List.all_eq_true.1 hall
  obtain ⟨digit, more, rfl⟩ := List.exists_cons_of_ne_nil hne
  have htake : (digit :: more ++ 'm' :: rest).takeWhile isDigit = digit :: more := by
    rw [List.takeWhile_append_of_pos hdigits]
    simp [isDigit]
  have hdrop : (digit :: more ++ 'm' :: rest).dropWhile isDigit = 'm' :: rest := by
    rw [List.dropWhile_append_of_pos hdigits]
    simp [isDigit]
  simp only [after?, htake, hdrop]

theorem erase_sequence {code : String} (hne : code.toList ≠ [])
    (hall : code.toList.all isDigit = true) (rest : List Char) :
    erase ((sequence code).toList ++ rest) = erase rest := by
  have hsequence : (sequence code).toList ++ rest =
      '\x1b' :: '[' :: (code.toList ++ 'm' :: rest) := by
    simp [sequence, String.toList_append]
  rw [hsequence, erase]
  split
  next more h =>
    rw [after?_digits hne hall, Option.some.injEq] at h
    rw [h]
  next h =>
    rw [after?_digits hne hall] at h
    exact nomatch h

theorem erase_start (ink : Ink) (rest : List Char) :
    erase (ink.start.toList ++ rest) = erase rest := by
  cases ink <;> exact erase_sequence (by decide) (by decide) rest

theorem erase_join_starts (inks : List Ink) (rest : List Char) :
    erase ((String.join (inks.map start)).toList ++ rest) = erase rest := by
  induction inks with
  | nil => rfl
  | cons ink more ih =>
    rw [List.map_cons, String.join_cons, String.toList_append, List.append_assoc, erase_start, ih]

end Ink

/-- A text without its display sequences: an escape character, an opening bracket, one digit or
more and the letter m. -/
def withoutInks (text : String) : String := String.ofList (Ink.erase text.toList)

/-! ## Texts without an escape character -/

/-- There is no escape character in the text. -/
def EscapeFree (text : String) : Prop := '\x1b' ∉ text.toList

instance (text : String) : Decidable (EscapeFree text) :=
  inferInstanceAs (Decidable ('\x1b' ∉ text.toList))

theorem escapeFree_append {front back : String} :
    EscapeFree (front ++ back) ↔ EscapeFree front ∧ EscapeFree back := by
  rw [EscapeFree, String.toList_append, List.mem_append, not_or]
  rfl

theorem escapeFree_toString (value : Int) : EscapeFree (toString value) := by
  intro h
  exact absurd (Json.isPrintable_of_mem_toString h) (by decide)

/-- No text in the place of the datum has an escape character in it. -/
def Datum.EscapeFree : Datum → Prop
  | .text content => SchemaDrift.EscapeFree content
  | .number _ => True
  | .nothing => True

instance : DecidablePred Datum.EscapeFree
  | .text content => inferInstanceAs (Decidable (SchemaDrift.EscapeFree content))
  | .number _ => inferInstanceAs (Decidable True)
  | .nothing => inferInstanceAs (Decidable True)

theorem Datum.EscapeFree.written {datum : Datum} (h : datum.EscapeFree) :
    SchemaDrift.EscapeFree datum.written := by
  cases datum with
  | text content => exact h
  | number value => exact escapeFree_toString value
  | nothing => exact (by decide : '\x1b' ∉ "None".toList)

/-- Neither the message of the change nor its path nor its reason has an escape character in it. -/
structure Change.EscapeFree (change : Change) : Prop where
  message : change.message.EscapeFree
  path : change.path.EscapeFree
  reason : change.reason.EscapeFree

/-! ## Decoration -/

/-- The first text becomes the second, which has no escape character in it, once its display
sequences are deleted, and whatever comes after it does not matter to that. -/
structure Decorates (decorated plain : String) : Prop where
  -- What follows is part of the statement: an escape character at the end of a text could make a
  -- display sequence with what comes next, and then texts could not be joined.
  erase_append : ∀ rest,
    Ink.erase (decorated.toList ++ rest) = plain.toList ++ Ink.erase rest
  escapeFree : EscapeFree plain

theorem EscapeFree.decorates {text : String} (h : EscapeFree text) : Decorates text text where
  erase_append rest := Ink.erase_append_of_notMem h rest
  escapeFree := h

namespace Decorates

theorem withoutInks_eq {decorated plain : String} (h : Decorates decorated plain) :
    withoutInks decorated = plain := by
  have herase := h.erase_append []
  rw [Ink.erase, List.append_nil, List.append_nil] at herase
  rw [withoutInks, herase, String.ofList_toList]

theorem append {front back front' back' : String} (hfront : Decorates front front')
    (hback : Decorates back back') : Decorates (front ++ back) (front' ++ back') where
  erase_append rest := by
    rw [String.toList_append, String.toList_append, List.append_assoc, hfront.erase_append,
      hback.erase_append, List.append_assoc]
  escapeFree := escapeFree_append.2 ⟨hfront.escapeFree, hback.escapeFree⟩

theorem intercalate {separator : String} (hseparator : EscapeFree separator)
    {decorated plain : List String} (h : List.Forall₂ Decorates decorated plain) :
    Decorates (String.intercalate separator decorated) (String.intercalate separator plain) := by
  induction h with
  | nil => exact EscapeFree.decorates (by simp [EscapeFree])
  | cons hfirst hrest ih =>
    cases hrest with
    | nil => simpa only [String.intercalate_singleton] using hfirst
    | cons hnext hothers =>
      rw [String.intercalate_cons_cons, String.intercalate_cons_cons]
      exact (hfirst.append hseparator.decorates).append ih

end Decorates

/-- A text in inks decorates the plain text. -/
theorem decorates_inked (inks : List Ink) {text : String} (h : EscapeFree text) :
    Decorates (inked true inks text) (inked false inks text) where
  erase_append rest := by
    have hreset : Ink.erase (Ink.reset.toList ++ rest) = Ink.erase rest :=
      Ink.erase_sequence (by decide) (by decide) rest
    simp only [inked, if_true, String.toList_append, List.append_assoc, Ink.erase_join_starts]
    rw [h.decorates.erase_append, hreset]
    rfl
  escapeFree := h

/-! ## The parts of a report -/

theorem decorates_symbol (change : Change) :
    Decorates (change.symbol true) (change.symbol false) := by
  unfold Change.symbol
  split
  · exact decorates_inked _ (by decide)
  · split
    · exact decorates_inked _ (by decide)
    · exact decorates_inked _ (by decide)

theorem decorates_countPart (ink : Ink) (count : Int) {word : String} (h : EscapeFree word) :
    List.Forall₂ Decorates (countPart true ink count word) (countPart false ink count word) := by
  unfold countPart
  split
  · exact .nil
  · refine .cons (decorates_inked _ ?_) .nil
    exact escapeFree_append.2 ⟨escapeFree_append.2 ⟨escapeFree_toString count, by decide⟩, h⟩

theorem decorates_terminalLine (stats : Stats) :
    Decorates (stats.terminalLine true) (stats.terminalLine false) := by
  refine (EscapeFree.decorates (by decide)).append (Decorates.intercalate (by decide) ?_)
  refine List.rel_append (List.rel_append ?_ ?_) ?_
  · exact decorates_countPart .red stats.breaking (by decide)
  · exact decorates_countPart .yellow stats.dangerous (by decide)
  · exact decorates_countPart .green stats.nonBreaking (by decide)

theorem decorates_changeLines {change : Change} (h : change.EscapeFree) (note : Note) :
    List.Forall₂ Decorates (changeLines true change note) (changeLines false change note) := by
  have hplace : EscapeFree
      ("(" ++ change.path.written ++ ", line " ++ toString note.startLine ++ ")") := by
    simp only [escapeFree_append]
    exact ⟨⟨⟨⟨by decide, h.path.written⟩, by decide⟩, escapeFree_toString _⟩, by decide⟩
  have hspace : Decorates " " " " := EscapeFree.decorates (by decide)
  have hindent : Decorates "  " "  " := EscapeFree.decorates (by decide)
  have hfirst := ((((hindent.append (decorates_symbol change)).append hspace).append
    h.message.written.decorates).append hspace).append (decorates_inked [.dim] hplace)
  unfold changeLines
  split
  · refine .cons hfirst (.cons ?_ .nil)
    exact (EscapeFree.decorates (by decide)).append (decorates_inked _ h.reason.written)
  · exact .cons hfirst .nil

theorem decorates_pairLines {pairs : List (Change × Note)} (h : ∀ pair ∈ pairs, pair.1.EscapeFree) :
    List.Forall₂ Decorates (pairs.flatMap fun pair => changeLines true pair.1 pair.2)
      (pairs.flatMap fun pair => changeLines false pair.1 pair.2) := by
  induction pairs with
  | nil => exact .nil
  | cons pair rest ih =>
    obtain ⟨hpair, hrest⟩ := List.forall_mem_cons.1 h
    exact List.rel_append (decorates_changeLines hpair pair.2) (ih hrest)

namespace DiffResult

theorem decorates_terminalBody {result : DiffResult}
    (h : ∀ change ∈ result.changes, change.EscapeFree) :
    List.Forall₂ Decorates (result.terminalBody true) (result.terminalBody false) := by
  unfold terminalBody
  split
  · exact .cons (decorates_inked _ (by decide)) .nil
  · have hblank : Decorates "" "" := EscapeFree.decorates (by decide)
    refine List.rel_append (List.rel_append ?_ ?_) (.cons hblank .nil)
    · exact .cons (decorates_inked _ (by decide)) (.cons (decorates_terminalLine result.stats)
        (.cons hblank (.cons (decorates_inked _ (by decide)) .nil)))
    · exact decorates_pairLines fun pair hpair => h pair.1 (List.of_mem_zip hpair).1

theorem decorates_terminal {result : DiffResult} {oldName newName : String}
    (hold : EscapeFree oldName) (hnew : EscapeFree newName)
    (hchanges : ∀ change ∈ result.changes, change.EscapeFree) :
    Decorates (result.terminal oldName newName true) (result.terminal oldName newName false) := by
  have hheader : EscapeFree ("Schema diff: " ++ oldName ++ " → " ++ newName) := by
    simp only [escapeFree_append]
    exact ⟨⟨⟨by decide, hold⟩, by decide⟩, hnew⟩
  have hruler : ∀ width : Nat, EscapeFree (String.ofList (List.replicate width '=')) := by
    intro width hmem
    rw [String.toList_ofList] at hmem
    exact absurd (List.eq_of_mem_replicate hmem) (by decide)
  have hverdict : EscapeFree ("Conclusion: " ++ result.conclusion.word
      ++ if result.intercepted then " (intercepted)" else "") := by
    cases result.conclusion <;> cases result.intercepted <;> decide
  have hfeed : EscapeFree "\n" := by decide
  rw [terminal, terminal]
  refine Decorates.intercalate hfeed ?_
  refine List.rel_append (List.rel_append ?_ (decorates_terminalBody hchanges)) ?_
  · exact .cons (decorates_inked _ hheader) (.cons (decorates_inked _ (hruler _))
      (.cons (EscapeFree.decorates (by decide)) .nil))
  · exact .cons (decorates_inked _ hverdict) .nil

end DiffResult

/-- **Colours only decorate.**  If no text of a change and neither name of a version has an escape
character in it, then deleting the display sequences from the report with colours gives the report
without, and that one has no escape character in it. -/
theorem colors_only_decorate (result : DiffResult) (oldName newName : String)
    (hold : EscapeFree oldName) (hnew : EscapeFree newName)
    (hchanges : ∀ change ∈ result.changes, change.EscapeFree) :
    withoutInks (result.terminal oldName newName true) = result.terminal oldName newName false ∧
      EscapeFree (result.terminal oldName newName false) :=
  have h := DiffResult.decorates_terminal hold hnew hchanges
  ⟨h.withoutInks_eq, h.escapeFree⟩

/-- What only looks like a part of a display sequence stays, in a message as in the name of a
version, and a change without a note is left out of both reports. -/
theorem colors_only_decorate_fragments :
    let removed : Change :=
      { rule := .known .typeRemoved, level := .known .breaking, message := .text "[31mred[0m",
        path := .text "A", reason := .text "31m" }
    let result : DiffResult :=
      { changes := [removed, removed],
        notes := [⟨.nothing, 7, 7, .failure, .nothing, .nothing⟩],
        conclusion := .failure, intercepted := true, stats := ⟨1, 0, -2⟩ }
    (EscapeFree "[0m" ∧ EscapeFree "new" ∧ ∀ change ∈ result.changes, change.EscapeFree) ∧
      withoutInks (result.terminal "[0m" "new" true) = result.terminal "[0m" "new" false ∧
      EscapeFree (result.terminal "[0m" "new" false) := by
  intro removed result
  have hold : EscapeFree "[0m" := by decide
  have hnew : EscapeFree "new" := by decide
  have hchanges : ∀ change ∈ result.changes, change.EscapeFree := by
    intro change hchange
    have hremoved : change = removed := by simpa [result] using hchange
    rw [hremoved]
    exact ⟨by decide, by decide, by decide⟩
  exact ⟨⟨hold, hnew, hchanges⟩, colors_only_decorate result "[0m" "new" hold hnew hchanges⟩

/-- An escape character in the name of a version is in the report without colours. -/
example : ¬EscapeFree (({} : DiffResult).terminal "\x1b[1mold" "new" false) := by decide

end SchemaDrift
