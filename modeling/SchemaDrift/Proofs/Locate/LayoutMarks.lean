import SchemaDrift.Proofs.Locate.Declarations
import SchemaDrift.Proofs.Locate.Layout

/-!
# The marks of a layout

* `marks_cons_of_isMark`, `marks_cons_of_not_isMark` — the marks of a layout, piece by piece.
* `head?_skipBlanks_laid` — the character that comes next is that of the next piece, or one of
  the gap before it.
* `Calm`, `calm_laidText` — neither a colon nor an opening parenthesis comes next.
-/

namespace SchemaDrift

open Text Sdl

/-! ## Marks of a layout -/

theorem isNameChar_eq_false_of_isMarkChar {c : Char} (h : isMarkChar c = true) :
    isNameChar c = false := by
  simp only [isMarkChar, Bool.or_eq_true, beq_iff_eq, or_assoc] at h
  rcases h with rfl | rfl | rfl | rfl | rfl | rfl <;> decide

theorem isNameStart_eq_false {c : Char} (h : isNameChar c = false) : isNameStart c = false := by
  cases hc : isNameStart c with
  | false => rfl
  | true => exact absurd (isNameChar_of_isNameStart hc) (Bool.eq_false_iff.1 h)

/-- The characters that belong to a name already read are passed over. -/
theorem marksFrom_eq_marks_drop (taken offset : Nat) (text : List Char) :
    marksFrom taken offset text = marks (offset + taken) (text.drop taken) := by
  induction text generalizing taken offset with
  | nil => rw [List.drop_nil, marks, marksFrom, marksFrom]
  | cons c rest ih =>
    cases taken with
    | zero => rfl
    | succ taken => rw [marksFrom, ih, List.drop_succ_cons, Nat.add_right_comm, Nat.add_assoc]

theorem marks_cons_of_isMarkChar {c : Char} (h : isMarkChar c = true) (offset : Nat)
    (rest : List Char) :
    marks offset (c :: rest) =
      ⟨offset, [c], (skipBlanks rest).head?⟩ :: marks (offset + 1) rest := by
  rw [marks, marksFrom, if_pos h, marks]

theorem marks_cons_of_not {c : Char} (hmark : isMarkChar c = false)
    (hname : isNameStart c = false) (offset : Nat) (rest : List Char) :
    marks offset (c :: rest) = marks (offset + 1) rest := by
  rw [marks, marksFrom, if_neg (Bool.eq_false_iff.1 hmark), if_neg (Bool.eq_false_iff.1 hname),
    marks]

/-- A name that stands at the end of a text does not go on in what follows. -/
theorem takeWhile_append_of_not_starts {rest : List Char} (h : startsWithNameChar rest = false)
    (text : List Char) :
    (text ++ rest).takeWhile isNameChar = text.takeWhile isNameChar := by
  induction text with
  | nil =>
    cases rest with
    | nil => rfl
    | cons c rest =>
      have hc : ¬isNameChar c = true := Bool.eq_false_iff.1 h
      rw [List.nil_append, List.takeWhile_cons_of_neg hc, List.takeWhile_nil]
  | cons c text ih => rw [List.cons_append, List.takeWhile_cons, List.takeWhile_cons, ih]

theorem drop_takeWhile_append (text rest : List Char) :
    (text ++ rest).drop (text.takeWhile isNameChar).length =
      text.dropWhile isNameChar ++ rest := by
  induction text with
  | nil => rfl
  | cons c text ih =>
    cases hc : isNameChar c with
    | true =>
      rw [List.takeWhile_cons_of_pos hc, List.dropWhile_cons_of_pos hc, List.length_cons,
        List.cons_append, List.drop_succ_cons, ih]
    | false =>
      have hc : ¬isNameChar c = true := Bool.eq_false_iff.1 hc
      rw [List.takeWhile_cons_of_neg hc, List.dropWhile_cons_of_neg hc, List.length_nil,
        List.drop_zero]

/-- A name that does not go on is a mark. -/
theorem marks_name_append {name rest : List Char} (hname : isName name = true)
    (hrest : startsWithNameChar rest = false) (offset : Nat) :
    marks offset (name ++ rest) =
      ⟨offset, name, (skipBlanks rest).head?⟩ :: marks (offset + name.length) rest := by
  cases name with
  | nil => exact absurd hname (by decide)
  | cons c more =>
    obtain ⟨hc, hmore⟩ := Bool.and_eq_true_iff.1 hname
    have hmark : ¬isMarkChar c = true := fun h =>
      absurd (isNameChar_of_isNameStart hc)
        (Bool.eq_false_iff.1 (isNameChar_eq_false_of_isMarkChar h))
    have hwhole : (more ++ rest).takeWhile isNameChar = more := by
      rw [takeWhile_append_of_not_starts hrest,
        List.takeWhile_eq_self_iff.2 (List.all_eq_true.1 hmore)]
    rw [List.cons_append, marks, marksFrom, if_neg hmark, if_pos hc, hwhole]
    dsimp only
    rw [marksFrom_eq_marks_drop, List.drop_left, List.length_cons, Nat.add_assoc,
      Nat.add_comm 1]

theorem isMarkChar_eq_false_of_isGap {c : Char} (h : isGap c = true) : isMarkChar c = false := by
  cases hmark : isMarkChar c with
  | false => rfl
  | true =>
    simp only [isMarkChar, Bool.or_eq_true, beq_iff_eq, or_assoc] at hmark
    rcases hmark with rfl | rfl | rfl | rfl | rfl | rfl <;> exact absurd h (by decide)

theorem isNameChar_eq_false_of_isGap {c : Char} (h : isGap c = true) : isNameChar c = false := by
  rcases Bool.or_eq_true_iff.1 h with h | h
  · exact isNameChar_eq_false_of_isBlank h
  · simp only [isIgnored, isBreak, Bool.or_eq_true, beq_iff_eq, or_assoc] at h
    rcases h with rfl | rfl | rfl | rfl | rfl | rfl <;> decide

/-- What stands between pieces has no marks. -/
theorem marks_gap_append {gap : List Char} (h : gap.all isGap = true) (offset : Nat)
    (rest : List Char) : marks offset (gap ++ rest) = marks (offset + gap.length) rest := by
  induction gap generalizing offset with
  | nil => rfl
  | cons c gap ih =>
    obtain ⟨hc, hgap⟩ := Bool.and_eq_true_iff.1 h
    rw [List.cons_append, marks_cons_of_not (isMarkChar_eq_false_of_isGap hc)
      (isNameStart_eq_false (isNameChar_eq_false_of_isGap hc)), ih hgap, List.length_cons,
      Nat.add_assoc, Nat.add_comm 1]

namespace Piece

/-- Is a piece a mark of the text? -/
def isMark : Piece → Bool
  | label _ => true
  | word _ => true
  | number _ => false
  | punct mark => mark.text.toList.any isMarkChar

/-- Is a piece neither a colon nor an opening parenthesis? -/
def isCalm : Piece → Bool
  | punct .colon => false
  | punct .parenOpen => false
  | _ => true

end Piece

/-- A piece that is a mark is the first of the layout that it starts. -/
theorem marks_cons_of_isMark {first : Laid} {more : List Laid} {rest : List Char}
    (h : first.Fits more rest) (hmark : first.piece.isMark = true) (offset : Nat) :
    marks offset (laidText (first :: more) ++ rest) =
      ⟨offset + first.gap.length, first.piece.text,
          (skipBlanks (laidText more ++ rest)).head?⟩ ::
        marks (offset + (first.gap.length + first.piece.text.length)) (laidText more ++ rest) := by
  obtain ⟨gap, piece⟩ := first
  have hmark : piece.isMark = true := hmark
  rw [laidText_cons, List.append_assoc, List.append_assoc, marks_gap_append h.gap,
    ← Nat.add_assoc]
  cases piece with
  | label name => exact marks_name_append h.proper (h.ends rfl) _
  | word name => exact marks_name_append h.proper (h.ends rfl) _
  | number text => exact absurd hmark nofun
  | punct mark =>
    cases mark with
    | parenOpen | parenClose | colon | atSign | braceOpen | braceClose =>
      exact marks_cons_of_isMarkChar (by decide) _ _
    | bang | dollar | amp | spread | equals | bracketOpen | bracketClose | pipe =>
      exact absurd hmark (by decide)

/-- A punctuator that is no mark is passed over. -/
theorem marks_cons_of_not_isMark {gap : List Char} {mark : Punct} {more : List Laid}
    {rest : List Char} (h : Laid.Fits ⟨gap, .punct mark⟩ more rest)
    (hmark : (Piece.punct mark).isMark = false) (offset : Nat) :
    marks offset (laidText (⟨gap, .punct mark⟩ :: more) ++ rest) =
      marks (offset + (gap.length + mark.text.toList.length)) (laidText more ++ rest) := by
  rw [laidText_cons, List.append_assoc, List.append_assoc, marks_gap_append h.gap,
    ← Nat.add_assoc]
  cases mark with
  | spread =>
    have hdot (offset : Nat) (rest : List Char) :
        marks offset ('.' :: rest) = marks (offset + 1) rest :=
      marks_cons_of_not (by decide) (by decide) offset rest
    exact (hdot _ _).trans ((hdot _ _).trans (hdot _ _))
  | bang | dollar | amp | equals | bracketOpen | bracketClose | pipe =>
    exact marks_cons_of_not (by decide) (by decide) _ _
  | parenOpen | parenClose | colon | atSign | braceOpen | braceClose =>
    exact absurd hmark (by decide)

/-! ## What comes next -/

/-- The next character that is not blank is neither a colon nor an opening parenthesis. -/
def Calm (text : List Char) : Prop :=
  (skipBlanks text).head? ≠ some ':' ∧ (skipBlanks text).head? ≠ some '('

theorem isBlank_eq_false_of_isNumberChar {c : Char} (h : isNumberChar c = true) :
    isBlank c = false := by
  cases hc : isBlank c with
  | false => rfl
  | true =>
    have hname := isNameChar_eq_false_of_isBlank hc
    simp only [isNumberChar, Bool.or_eq_true, beq_iff_eq, or_assoc] at h
    rcases h with h | rfl | rfl | rfl | rfl | rfl
    · rw [isNameChar, h, Bool.or_true] at hname
      exact Bool.noConfusion hname
    all_goals exact absurd hc (by decide)

theorem ne_of_isNumberChar {c : Char} (h : isNumberChar c = true) : c ≠ ':' ∧ c ≠ '(' :=
  ⟨by rintro rfl; exact absurd h (by decide), by rintro rfl; exact absurd h (by decide)⟩

theorem isBlank_eq_false_of_isNameChar {c : Char} (h : isNameChar c = true) :
    isBlank c = false := by
  cases hc : isBlank c with
  | false => rfl
  | true => exact absurd h (Bool.eq_false_iff.1 (isNameChar_eq_false_of_isBlank hc))

/-- A piece starts with a character that is not blank, and only two with a colon or an opening
parenthesis. -/
theorem Piece.exists_text_eq_cons {piece : Piece} (h : piece.isProper = true) :
    ∃ c more, piece.text = c :: more ∧ isBlank c = false ∧
      (c = ':' → piece = .punct .colon) ∧ (c = '(' → piece = .punct .parenOpen) := by
  have hname {name : List Char} (h : isName name = true) :
      ∃ c more, name = c :: more ∧ isBlank c = false ∧ c ≠ ':' ∧ c ≠ '(' := by
    cases name with
    | nil => exact absurd h (by decide)
    | cons c more =>
      have hc := isNameChar_of_isNameStart (Bool.and_eq_true_iff.1 h).1
      refine ⟨c, more, rfl, isBlank_eq_false_of_isNameChar hc, ?_, ?_⟩
      · rintro rfl
        exact absurd hc (by decide)
      · rintro rfl
        exact absurd hc (by decide)
  cases piece with
  | label name | word name =>
    obtain ⟨c, more, rfl, hblank, hcolon, hparen⟩ := hname h
    exact ⟨c, more, rfl, hblank, (absurd · hcolon), (absurd · hparen)⟩
  | number text =>
    cases text with
    | nil => exact absurd h (by decide)
    | cons c more =>
      have hc := isNumberChar_of_isNumber h c List.mem_cons_self
      exact ⟨c, more, rfl, isBlank_eq_false_of_isNumberChar hc,
        (absurd · (ne_of_isNumberChar hc).1), (absurd · (ne_of_isNumberChar hc).2)⟩
  | punct mark => cases mark <;> exact ⟨_, _, rfl, by decide, by decide, by decide⟩

theorem skipBlanks_append (gap rest : List Char) :
    (∃ c ∈ gap, isBlank c = false ∧ (skipBlanks (gap ++ rest)).head? = some c) ∨
      skipBlanks (gap ++ rest) = skipBlanks rest := by
  induction gap with
  | nil => exact .inr rfl
  | cons c gap ih =>
    cases hc : isBlank c with
    | false =>
      refine .inl ⟨c, List.mem_cons_self, hc, ?_⟩
      rw [List.cons_append, skipBlanks, List.dropWhile_cons_of_neg (Bool.eq_false_iff.1 hc),
        List.head?_cons]
    | true =>
      have hskip : skipBlanks (c :: gap ++ rest) = skipBlanks (gap ++ rest) := by
        rw [List.cons_append, skipBlanks, List.dropWhile_cons_of_pos hc, skipBlanks]
      rw [hskip]
      rcases ih with ⟨d, hd, hblank, hhead⟩ | ih
      · exact .inl ⟨d, List.mem_cons_of_mem c hd, hblank, hhead⟩
      · exact .inr ih

/-- The first piece of a layout is what comes next, unless something that is not blank stands
before it. -/
theorem head?_skipBlanks_laid {first : Laid} {more : List Laid} {rest : List Char}
    (h : first.Fits more rest) :
    (∃ c ∈ first.gap, isBlank c = false ∧
        (skipBlanks (laidText (first :: more) ++ rest)).head? = some c) ∨
      (skipBlanks (laidText (first :: more) ++ rest)).head? = first.piece.text.head? := by
  obtain ⟨c, tail, htext, hc, -⟩ := Piece.exists_text_eq_cons h.proper
  rw [laidText_cons, List.append_assoc, List.append_assoc]
  rcases skipBlanks_append first.gap (first.piece.text ++ (laidText more ++ rest)) with
    hgap | hgap
  · exact .inl hgap
  · right
    rw [hgap, htext, List.cons_append, skipBlanks,
      List.dropWhile_cons_of_neg (Bool.eq_false_iff.1 hc), List.head?_cons, List.head?_cons]

/-- The piece after a label is what comes next. -/
theorem head?_skipBlanks_after_label {first next : Laid} {more : List Laid} {rest : List Char}
    (h : Tidy (first :: next :: more) rest) (hlabel : first.piece.isLabel = true) :
    (skipBlanks (laidText (next :: more) ++ rest)).head? = next.piece.text.head? := by
  rcases head?_skipBlanks_laid h.2.1 with ⟨c, hc, hblank, -⟩ | hhead
  · exact absurd (List.all_eq_true.1 (h.1.tight hlabel next rfl) c hc) (Bool.eq_false_iff.1 hblank)
  · exact hhead

theorem ne_of_isGap {c : Char} (h : isGap c = true) : c ≠ ':' ∧ c ≠ '(' :=
  ⟨by rintro rfl; exact absurd h (by decide), by rintro rfl; exact absurd h (by decide)⟩

/-- Only a colon brings a colon next, and only an opening parenthesis brings one. -/
theorem ne_of_head?_skipBlanks_laid {first : Laid} {more : List Laid} {rest : List Char}
    (h : first.Fits more rest) :
    (first.piece ≠ .punct .colon →
        (skipBlanks (laidText (first :: more) ++ rest)).head? ≠ some ':') ∧
      (first.piece ≠ .punct .parenOpen →
        (skipBlanks (laidText (first :: more) ++ rest)).head? ≠ some '(') := by
  obtain ⟨c, tail, htext, -, hcolon, hparen⟩ := Piece.exists_text_eq_cons h.proper
  rcases head?_skipBlanks_laid h with ⟨d, hd, -, hhead⟩ | hhead
  · obtain ⟨hne, hne'⟩ := ne_of_isGap (List.all_eq_true.1 h.gap d hd)
    exact ⟨fun _ heq => hne (Option.some.inj (hhead.symm.trans heq)),
      fun _ heq => hne' (Option.some.inj (hhead.symm.trans heq))⟩
  · rw [hhead, htext, List.head?_cons]
    exact ⟨fun hne heq => hne (hcolon (Option.some.inj heq)),
      fun hne heq => hne (hparen (Option.some.inj heq))⟩

theorem isMarkChar_eq_false_of_isNumberChar {c : Char} (h : isNumberChar c = true) :
    isMarkChar c = false := by
  cases hc : isMarkChar c with
  | false => rfl
  | true =>
    simp only [isMarkChar, Bool.or_eq_true, beq_iff_eq, or_assoc] at hc
    rcases hc with rfl | rfl | rfl | rfl | rfl | rfl <;> exact absurd h (by decide)

/-- What is left of a number brings neither a colon nor an opening parenthesis next. -/
theorem calm_number_append {text rest : List Char} (h : ∀ c ∈ text, isNumberChar c = true)
    (hrest : Calm rest) : Calm (text ++ rest) := by
  cases text with
  | nil => exact hrest
  | cons c text =>
    have hc := h c List.mem_cons_self
    have hskip : (skipBlanks (c :: text ++ rest)).head? = some c := by
      rw [List.cons_append, skipBlanks, List.dropWhile_cons_of_neg
        (Bool.eq_false_iff.1 (isBlank_eq_false_of_isNumberChar hc)), List.head?_cons]
    obtain ⟨hcolon, hparen⟩ := ne_of_isNumberChar hc
    exact ⟨fun h => hcolon (Option.some.inj (hskip.symm.trans h)),
      fun h => hparen (Option.some.inj (hskip.symm.trans h))⟩

/-- Do pieces not start with a colon or an opening parenthesis? -/
def startsCalm : List Piece → Bool
  | [] => true
  | piece :: _ => piece.isCalm

theorem startsCalm_append {front back : List Piece} (h : startsCalm front = true)
    (h' : startsCalm back = true) : startsCalm (front ++ back) = true := by
  cases front with
  | nil => exact h'
  | cons => exact h

theorem startsCalm_flatMap {α : Type} {pieces : α → List Piece}
    (h : ∀ part, startsCalm (pieces part) = true) (parts : List α) :
    startsCalm (parts.flatMap pieces) = true := by
  induction parts with
  | nil => rfl
  | cons part parts ih => exact startsCalm_append (h part) ih

theorem startsCalm_typePieces (type : TypeRef) : startsCalm (typePieces type) = true := by
  induction type with
  | absent => rfl
  | unnamed => rfl
  | named => rfl
  | list => rfl
  | nonNull inner ih => exact startsCalm_append ih rfl

theorem startsCalm_literal (value : Literal) : startsCalm value.pieces = true := by
  cases value <;> rw [Literal.pieces] <;> rfl

theorem startsCalm_itemPieces (items : List Literal) : startsCalm (itemPieces items) = true := by
  induction items with
  | nil => rfl
  | cons item more ih => exact startsCalm_append (startsCalm_literal item) ih

theorem startsCalm_entryPieces (fields : List (String × Literal)) :
    startsCalm (entryPieces fields) = true := by
  cases fields <;> rfl

theorem startsCalm_defaultPieces (default? : Option Literal) :
    startsCalm (defaultPieces default?) = true := by
  cases default? <;> rfl

theorem startsCalm_directives (directives : List Applied) :
    startsCalm (directives.flatMap Applied.pieces) = true :=
  startsCalm_flatMap (fun _ => rfl) directives

theorem calm_laidText_cons {first : Laid} {more : List Laid} {rest : List Char}
    (h : Tidy (first :: more) rest) (hcalm : first.piece.isCalm = true) :
    Calm (laidText (first :: more) ++ rest) := by
  obtain ⟨hcolon, hparen⟩ := ne_of_head?_skipBlanks_laid h.1
  exact ⟨hcolon (by rintro heq; rw [heq] at hcalm; exact absurd hcalm (by decide)),
    hparen (by rintro heq; rw [heq] at hcalm; exact absurd hcalm (by decide))⟩

theorem calm_laidText_of_ne_nil {laid : List Laid} {rest : List Char} (h : Tidy laid rest)
    (hstart : startsCalm (laid.map Laid.piece) = true) (hne : laid ≠ []) :
    Calm (laidText laid ++ rest) := by
  cases laid with
  | nil => exact absurd rfl hne
  | cons first more => exact calm_laidText_cons h hstart

theorem calm_laidText {laid : List Laid} {rest : List Char} (h : Tidy laid rest)
    (hstart : startsCalm (laid.map Laid.piece) = true) (hrest : Calm rest) :
    Calm (laidText laid ++ rest) := by
  cases laid with
  | nil => exact hrest
  | cons first more => exact calm_laidText_cons h hstart

end SchemaDrift
