import Mathlib.Data.List.TakeWhile
import Mathlib.Tactic.SplitIfs
import SchemaDrift.Locate.Marks

/-!
# The marks of a text

* `Mark.Stands` — a mark of a text stands in it at its offset.
* `stands_of_mem_marks` — all marks of a text do.
* `stands_findMember`, `stands_findArgument` — a member or argument that is found stands in
  the text.
-/

namespace SchemaDrift

open Text

/-! ## Marks stand in the text -/

/-- Neither white space nor anything else that masking puts in place of a character. -/
def IsWritten (word : List Char) : Prop := ∀ c ∈ word, isMarkChar c = true ∨ isNameChar c = true

theorem IsWritten.space_notMem {word : List Char} (h : IsWritten word) : ' ' ∉ word :=
  fun hm => absurd (h ' ' hm) (by decide)

theorem IsWritten.feed_notMem {word : List Char} (h : IsWritten word) : '\n' ∉ word :=
  fun hm => absurd (h '\n' hm) (by decide)

theorem isWritten_of_name {c : Char} {more : List Char} (hc : isNameStart c = true)
    (hmore : ∀ d ∈ more, isNameChar d = true) : IsWritten (c :: more) :=
  List.forall_mem_cons.2 ⟨.inr (isNameChar_of_isNameStart hc), fun d hd => .inr (hmore d hd)⟩

theorem isWritten_of_isName {name : List Char} (h : isName name = true) : IsWritten name := by
  cases name with
  | nil => exact absurd h nofun
  | cons c more =>
    obtain ⟨hc, hmore⟩ := Bool.and_eq_true_iff.1 h
    exact isWritten_of_name hc (List.all_eq_true.1 hmore)

/-- A word stands in a text that starts at the first offset, at the second one. -/
def StandsAt (word text : List Char) (offset start : Nat) : Prop :=
  ∃ before, start = offset + before ∧ word <+: text.drop before

theorem StandsAt.cons {word text : List Char} {offset start : Nat} (c : Char)
    (h : StandsAt word text (offset + 1) start) : StandsAt word (c :: text) offset start := by
  obtain ⟨before, rfl, hword⟩ := h
  exact ⟨before + 1, by omega, hword⟩

/-- What stands in the text from an offset on stands in the whole. -/
theorem StandsAt.prefix_drop {word text : List Char} {offset start : Nat}
    (h : StandsAt word (text.drop offset) offset start) : word <+: text.drop start := by
  obtain ⟨before, rfl, hword⟩ := h
  rwa [List.drop_drop] at hword

/-- All marks of a text are written in it, each at its offset. -/
theorem stands_of_mem_marksFrom {mark : Mark} {taken offset : Nat} {text : List Char}
    (h : mark ∈ marksFrom taken offset text) :
    IsWritten mark.text ∧ StandsAt mark.text text offset mark.start := by
  induction text generalizing taken offset with
  | nil => simp [marksFrom] at h
  | cons c rest ih =>
    have hmore {taken : Nat} (hmem : mark ∈ marksFrom taken (offset + 1) rest) :
        IsWritten mark.text ∧ StandsAt mark.text (c :: rest) offset mark.start :=
      ⟨(ih hmem).1, (ih hmem).2.cons c⟩
    cases taken with
    | succ taken => exact hmore (by rwa [marksFrom] at h)
    | zero =>
      rw [marksFrom] at h
      split at h
      case isTrue hmark =>
        rcases List.mem_cons.1 h with rfl | h
        · exact ⟨List.forall_mem_singleton.2 (.inl hmark), 0, rfl, List.prefix_append [c] rest⟩
        · exact hmore h
      case isFalse =>
        split at h
        case isFalse => exact hmore h
        case isTrue hname =>
          rcases List.mem_cons.1 h with rfl | h
          · refine ⟨isWritten_of_name hname fun d hd => List.mem_takeWhile_imp hd, 0, rfl, ?_⟩
            exact (List.prefix_cons_inj c).2 (List.takeWhile_prefix _)
          · exact hmore h

/-! ## What is found stands in the text -/

/-- One mark ends the search, is what is searched for, or is passed. -/
theorem memberAmong_cons_cases (name : List Char) (isEnum : Bool) (search : MemberSearch)
    (mark : Mark) (rest : List Mark) :
    memberAmong name isEnum search (mark :: rest) = none ∨
      (mark.text = name ∧ memberAmong name isEnum search (mark :: rest) = some mark.start) ∨
      ∃ next, memberAmong name isEnum search (mark :: rest) =
        memberAmong name isEnum next rest := by
  have hname (h : (search.braces = 1 && !search.afterAt && mark.isMember name isEnum) = true) :
      mark.text = name := by
    simp only [Bool.and_eq_true, Mark.isMember, beq_iff_eq] at h
    exact h.2.1
  rw [memberAmong]
  split_ifs with _ _ _ _ _ _ _ _ hfound
  exacts [.inr (.inr ⟨_, rfl⟩), .inr (.inr ⟨_, rfl⟩), .inr (.inr ⟨_, rfl⟩),
    .inr (.inr ⟨_, rfl⟩), .inl rfl, .inr (.inr ⟨_, rfl⟩), .inl rfl, .inr (.inr ⟨_, rfl⟩),
    .inr (.inl ⟨hname hfound, rfl⟩), .inr (.inr ⟨_, rfl⟩)]

/-- One mark ends the search, is what is searched for, or is passed. -/
theorem argumentAmong_cons_cases (name : List Char) (search : ArgumentSearch) (mark : Mark)
    (rest : List Mark) :
    argumentAmong name search (mark :: rest) = none ∨
      (mark.text = name ∧ argumentAmong name search (mark :: rest) = some mark.start) ∨
      ∃ next, argumentAmong name search (mark :: rest) = argumentAmong name next rest := by
  have hname (h : (search.parens = 1 && search.braces = 0 && mark.text == name
      && mark.next == some ':') = true) : mark.text = name := by
    simp only [Bool.and_eq_true, beq_iff_eq] at h
    exact h.1.2
  rw [argumentAmong]
  split_ifs with _ _ _ _ _ hfound
  exacts [.inr (.inr ⟨_, rfl⟩), .inl rfl, .inr (.inr ⟨_, rfl⟩), .inr (.inr ⟨_, rfl⟩),
    .inr (.inr ⟨_, rfl⟩), .inr (.inl ⟨hname hfound, rfl⟩), .inr (.inr ⟨_, rfl⟩)]

theorem exists_mark_of_memberAmong {name : List Char} {isEnum : Bool} {search : MemberSearch}
    {marks : List Mark} {start : Nat} (h : memberAmong name isEnum search marks = some start) :
    ∃ mark ∈ marks, mark.text = name ∧ mark.start = start := by
  induction marks generalizing search with
  | nil => exact absurd h nofun
  | cons mark rest ih =>
    rcases memberAmong_cons_cases name isEnum search mark rest with
      hnone | ⟨hname, hsome⟩ | ⟨next, hnext⟩
    · exact absurd (hnone.symm.trans h) nofun
    · exact ⟨mark, List.mem_cons_self, hname, Option.some.inj (hsome.symm.trans h)⟩
    · obtain ⟨found, hmem, hfound⟩ := ih (hnext.symm.trans h)
      exact ⟨found, List.mem_cons_of_mem _ hmem, hfound⟩

theorem exists_mark_of_argumentAmong {name : List Char} {search : ArgumentSearch}
    {marks : List Mark} {start : Nat} (h : argumentAmong name search marks = some start) :
    ∃ mark ∈ marks, mark.text = name ∧ mark.start = start := by
  induction marks generalizing search with
  | nil => exact absurd h nofun
  | cons mark rest ih =>
    rcases argumentAmong_cons_cases name search mark rest with
      hnone | ⟨hname, hsome⟩ | ⟨next, hnext⟩
    · exact absurd (hnone.symm.trans h) nofun
    · exact ⟨mark, List.mem_cons_self, hname, Option.some.inj (hsome.symm.trans h)⟩
    · obtain ⟨found, hmem, hfound⟩ := ih (hnext.symm.trans h)
      exact ⟨found, List.mem_cons_of_mem _ hmem, hfound⟩

/-- A member that is found stands in the text. -/
theorem stands_findMember {name text : List Char} {isEnum : Bool} {offset start : Nat}
    (h : findMember name isEnum offset text = some start) :
    IsWritten name ∧ StandsAt name text offset start := by
  obtain ⟨mark, hmem, rfl, rfl⟩ := exists_mark_of_memberAmong h
  exact stands_of_mem_marksFrom hmem

/-- An argument that is found stands in the text. -/
theorem stands_findArgument {name text : List Char} {offset start : Nat}
    (h : findArgument name offset text = some start) :
    IsWritten name ∧ StandsAt name text offset start := by
  unfold findArgument at h
  dsimp only at h
  split at h
  case isFalse => exact absurd h nofun
  case isTrue =>
    obtain ⟨mark, hmem, rfl, rfl⟩ := exists_mark_of_argumentAmong h
    obtain ⟨hwritten, before, hstart, hword⟩ := stands_of_mem_marksFrom hmem
    have hopening : skipBlanks text = text.drop (text.length - (skipBlanks text).length) :=
      List.suffix_iff_eq_drop.1 (List.dropWhile_suffix _)
    refine ⟨hwritten, text.length - (skipBlanks text).length + before, ?_, ?_⟩
    · rw [hstart, Nat.add_assoc]
    · rwa [← List.drop_drop, ← hopening]

end SchemaDrift
