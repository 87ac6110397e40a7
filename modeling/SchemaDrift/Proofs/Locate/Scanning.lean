import SchemaDrift.Proofs.Locate.LayoutMarks

/-!
# Scanning a layout

The searches for members and arguments read the marks of a text one after the other.  Values,
types and applied directives, however deep these are nested, leave a search where it was.

* `Passes` — pieces lead a search from one state to another.
* `Steady`, `Skipping` — what a search does with single marks.
* `Steady.passes_literal`, `Skipping.passes_applied`, `Skipping.passes_typed` — hence it passes
  over values, over applied directives, and over all that follows the colon of a member.
-/

namespace SchemaDrift

open Text Sdl

section

variable {σ : Type} {run : σ → List Mark → Option Nat} {before between after : σ}
variable {Next Next' : List Char → Prop}

/-! ## Passing over pieces -/

/-- Pieces lead a search from one state to another, wherever and however they are laid out,
before a text of the given kind. -/
def Passes (Next : List Char → Prop) (run : σ → List Mark → Option Nat) (before after : σ)
    (pieces : List Piece) : Prop :=
  ∀ laid offset rest, laid.map Laid.piece = pieces → Tidy laid rest → Next rest →
    run before (marks offset (laidText laid ++ rest)) =
      run after (marks (offset + (laidText laid).length) rest)

/-- Any text. -/
def Anything (_ : List Char) : Prop := True

/-- No colon comes next. -/
def NoColon (text : List Char) : Prop := (skipBlanks text).head? ≠ some ':'

/-- Pieces of a layout before a text of one kind are a text of another kind. -/
def Precedes (pieces : List Piece) (Next Next' : List Char → Prop) : Prop :=
  ∀ laid rest, laid.map Laid.piece = pieces → Tidy laid rest → Next rest →
    Next' (laidText laid ++ rest)

theorem precedes_anything (pieces : List Piece) : Precedes pieces Next Anything :=
  fun _ _ _ _ _ => trivial

theorem precedes_calm {pieces : List Piece} (h : startsCalm pieces = true) :
    Precedes pieces Calm Calm := by
  rintro laid rest rfl htidy hrest
  exact calm_laidText htidy h hrest

theorem precedes_calm_of_cons {piece : Piece} (h : piece.isCalm = true) (pieces : List Piece) :
    Precedes (piece :: pieces) Next Calm := by
  rintro laid rest hlaid htidy -
  obtain ⟨first, more, rfl, rfl, rfl⟩ := List.map_eq_cons_iff.1 hlaid
  exact calm_laidText_cons htidy h

theorem precedes_noColon_inParens {α : Type} (pieces : α → List Piece) (parts : List α) :
    Precedes (inParens pieces parts) Calm NoColon := by
  rintro laid rest hlaid htidy hrest
  cases parts with
  | nil =>
    obtain rfl := List.map_eq_nil_iff.1 hlaid
    exact hrest.1
  | cons =>
    obtain ⟨first, more, rfl, hfirst, -⟩ := List.map_eq_cons_iff.1 hlaid
    exact (ne_of_head?_skipBlanks_laid htidy.1).1 (by rw [hfirst]; decide)

theorem Passes.mono {pieces : List Piece} (h : Passes Next run before after pieces)
    (hnext : ∀ text, Next' text → Next text) : Passes Next' run before after pieces :=
  fun laid offset rest hlaid htidy hrest => h laid offset rest hlaid htidy (hnext rest hrest)

theorem Passes.nil (state : σ) : Passes Next run state state [] := by
  intro laid offset rest hlaid _ _
  obtain rfl := List.map_eq_nil_iff.1 hlaid
  rfl

theorem Passes.append {front back : List Piece} (hfront : Passes Next' run before between front)
    (hback : Passes Next run between after back) (hnext : Precedes back Next Next') :
    Passes Next run before after (front ++ back) := by
  intro laid offset rest hlaid htidy hrest
  obtain ⟨laid, more, rfl, rfl, rfl⟩ := List.map_eq_append_iff.1 hlaid
  obtain ⟨htidy, hmore⟩ := htidy.append
  rw [laidText_append, List.append_assoc,
    hfront laid offset _ rfl htidy (hnext more rest rfl hmore hrest),
    hback more _ rest rfl hmore hrest, List.length_append, Nat.add_assoc]

theorem Passes.cons {piece : Piece} {pieces : List Piece}
    (hpiece : Passes Next' run before between [piece])
    (hpieces : Passes Next run between after pieces) (hnext : Precedes pieces Next Next') :
    Passes Next run before after (piece :: pieces) :=
  hpiece.append hpieces hnext

/-- Parts that each leave a search where it was do so one after the other. -/
theorem Passes.flatMap {α : Type} {state : σ} {pieces : α → List Piece} {parts : List α}
    (h : ∀ part ∈ parts, Passes Calm run state state (pieces part))
    (hcalm : ∀ part, startsCalm (pieces part) = true) :
    Passes Calm run state state (parts.flatMap pieces) := by
  induction parts with
  | nil => exact .nil state
  | cons part parts ih =>
    obtain ⟨hpart, hparts⟩ := List.forall_mem_cons.1 h
    exact hpart.append (ih hparts) (precedes_calm (startsCalm_flatMap hcalm parts))

/-- A piece that is a mark is passed over as the mark is. -/
theorem Passes.mark {piece : Piece} (hmark : piece.isMark = true)
    (h : piece.isProper = true → ∀ start text rest, Next text →
      run before (⟨start, piece.text, (skipBlanks text).head?⟩ :: rest) = run after rest) :
    Passes Next run before after [piece] := by
  intro laid offset rest hlaid htidy hrest
  obtain ⟨laid, rfl, rfl⟩ := List.map_eq_singleton_iff.1 hlaid
  rw [marks_cons_of_isMark htidy.1 hmark, laidText_nil, List.nil_append,
    h htidy.1.proper _ _ _ hrest, laidText_cons, laidText_nil, List.append_nil,
    List.length_append]

theorem Passes.punct {mark : Punct} (state : σ) (hmark : (Piece.punct mark).isMark = false) :
    Passes Anything run state state [.punct mark] := by
  intro laid offset rest hlaid htidy _
  obtain ⟨⟨gap, piece⟩, rfl, hpiece⟩ := List.map_eq_singleton_iff.1 hlaid
  obtain rfl : piece = .punct mark := hpiece
  rw [marks_cons_of_not_isMark htidy.1 hmark, laidText_nil, laidText_cons, laidText_nil,
    List.append_nil, List.length_append, List.nil_append]
  rfl

/-- Words with a mark between neighbours are passed over if the words are. -/
theorem Passes.separatedBy {state : σ} {mark : Punct} (hmark : (Piece.punct mark).isMark = false)
    {names : List String}
    (h : ∀ name ∈ names, Passes Anything run state state [.word name.toList]) :
    Passes Anything run state state (separatedBy mark names) := by
  induction names with
  | nil => exact .nil state
  | cons name names ih =>
    obtain ⟨hname, hnames⟩ := List.forall_mem_cons.1 h
    cases names with
    | nil => exact hname
    | cons next names =>
      have hmore := (Passes.punct state hmark).cons (ih hnames) (precedes_anything _)
      exact hname.cons hmore (precedes_anything _)

/-! ## Values and types -/

/-- Words that no colon and no parenthesis follows leave a search where it is, keys of objects
do so too, and it counts the braces of objects. -/
structure Steady (run : σ → List Mark → Option Nat) (state : Nat → σ) : Prop where
  word {name : List Char} (proper : isName name = true) (next : Option Char)
    (noColon : next ≠ some ':') (noParen : next ≠ some '(') (braces start : Nat)
    (rest : List Mark) :
    run (state braces) (⟨start, name, next⟩ :: rest) = run (state braces) rest
  key {name : List Char} (proper : isName name = true) (next : Option Char)
    (braces start : Nat) (rest : List Mark) :
    run (state (braces + 1)) (⟨start, name, next⟩ :: rest) = run (state (braces + 1)) rest
  colon (next : Option Char) (braces start : Nat) (rest : List Mark) :
    run (state braces) (⟨start, [':'], next⟩ :: rest) = run (state braces) rest
  braceOpen (next : Option Char) (braces start : Nat) (rest : List Mark) :
    run (state braces) (⟨start, ['{'], next⟩ :: rest) = run (state (braces + 1)) rest
  braceClose (next : Option Char) (braces start : Nat) (rest : List Mark) :
    run (state (braces + 1)) (⟨start, ['}'], next⟩ :: rest) = run (state braces) rest

namespace Steady

variable {state : Nat → σ}

theorem passes_word (h : Steady run state) (braces : Nat) (name : List Char) :
    Passes Calm run (state braces) (state braces) [.word name] :=
  .mark rfl fun hname start _ rest hnext => h.word hname _ hnext.1 hnext.2 braces start rest

theorem passes_key (h : Steady run state) (braces : Nat) (name : List Char) :
    Passes Anything run (state (braces + 1)) (state (braces + 1)) [.word name] :=
  .mark rfl fun hname start _ rest _ => h.key hname _ braces start rest

theorem passes_colon (h : Steady run state) (braces : Nat) :
    Passes Anything run (state braces) (state braces) [.punct .colon] :=
  .mark rfl fun _ start _ rest _ => h.colon _ braces start rest

theorem passes_braceOpen (h : Steady run state) (braces : Nat) :
    Passes Anything run (state braces) (state (braces + 1)) [.punct .braceOpen] :=
  .mark rfl fun _ start _ rest _ => h.braceOpen _ braces start rest

theorem passes_braceClose (h : Steady run state) (braces : Nat) :
    Passes Anything run (state (braces + 1)) (state braces) [.punct .braceClose] :=
  .mark rfl fun _ start _ rest _ => h.braceClose _ braces start rest

/-- Digits, signs and points are no marks, and exponents are words. -/
theorem run_marksFrom_number (h : Steady run state) {text rest : List Char} (braces : Nat)
    (htext : ∀ c ∈ text, isNumberChar c = true) (hrest : startsWithNameChar rest = false)
    (hcalm : Calm rest) {taken : Nat} (htaken : taken ≤ text.length) (offset : Nat) :
    run (state braces) (marksFrom taken offset (text ++ rest)) =
      run (state braces) (marks (offset + text.length) rest) := by
  induction text generalizing taken offset with
  | nil =>
    obtain rfl := Nat.le_zero.1 htaken
    rfl
  | cons c text ih =>
    obtain ⟨hc, htext⟩ := List.forall_mem_cons.1 htext
    have ih {taken : Nat} (htaken : taken ≤ text.length) :
        run (state braces) (marksFrom taken (offset + 1) (text ++ rest)) =
          run (state braces) (marks (offset + (c :: text).length) rest) := by
      rw [ih htext htaken, List.length_cons, Nat.add_assoc, Nat.add_comm 1]
    cases taken with
    | succ taken => exact ih (Nat.le_of_succ_le_succ htaken)
    | zero =>
      rw [List.cons_append, marksFrom,
        if_neg (Bool.eq_false_iff.1 (isMarkChar_eq_false_of_isNumberChar hc))]
      split
      case isFalse => exact ih (Nat.zero_le _)
      case isTrue hstart =>
        have hlength : (text.takeWhile isNameChar).length ≤ text.length :=
          (List.takeWhile_prefix _).length_le
        have hname : isName (c :: text.takeWhile isNameChar) = true :=
          Bool.and_eq_true_iff.2 ⟨hstart, List.all_eq_true.2 fun d hd => List.mem_takeWhile_imp hd⟩
        have hnext : Calm (text.dropWhile isNameChar ++ rest) :=
          calm_number_append (fun d hd => htext d ((List.dropWhile_suffix _).subset hd)) hcalm
        rw [takeWhile_append_of_not_starts hrest]
        dsimp only
        rw [drop_takeWhile_append, h.word hname _ hnext.1 hnext.2, ih hlength]

theorem passes_number (h : Steady run state) (braces : Nat) (text : List Char) :
    Passes Calm run (state braces) (state braces) [.number text] := by
  intro laid offset rest hlaid htidy hrest
  obtain ⟨⟨gap, piece⟩, rfl, hpiece⟩ := List.map_eq_singleton_iff.1 hlaid
  obtain rfl : piece = .number text := hpiece
  have htext := isNumberChar_of_isNumber htidy.1.proper
  have hends : startsWithNameChar rest = false := htidy.1.ends rfl
  have hnumber := h.run_marksFrom_number braces htext hends hrest (Nat.zero_le _)
  rw [laidText_cons, laidText_nil, List.append_nil, List.append_assoc,
    marks_gap_append htidy.1.gap, List.length_append, ← Nat.add_assoc]
  exact hnumber _

mutual

theorem passes_literal (h : Steady run state) (braces : Nat) :
    (value : Literal) → Passes Calm run (state braces) (state braces) value.pieces
  | .number text => h.passes_number braces text.toList
  | .word text => h.passes_word braces text.toList
  | .string _ => .nil _
  | .block _ => .nil _
  | .reference name =>
    have hword := h.passes_word braces name.toList
    (Passes.punct _ (by decide)).cons hword (precedes_anything _)
  | .list items =>
    have hclose : Passes Calm run (state braces) (state braces) [.punct .bracketClose] :=
      (Passes.punct _ (by decide)).mono fun _ _ => trivial
    have hitems := (passes_items h braces items).append hclose (precedes_calm rfl)
    (Passes.punct _ (by decide)).cons hitems (precedes_anything _)
  | .object fields =>
    have hclose : Passes Calm run (state (braces + 1)) (state braces) [.punct .braceClose] :=
      (h.passes_braceClose braces).mono fun _ _ => trivial
    have hentries := (passes_entries h braces fields).append hclose (precedes_calm rfl)
    (h.passes_braceOpen braces).cons hentries (precedes_anything _)

theorem passes_items (h : Steady run state) (braces : Nat) :
    (items : List Literal) → Passes Calm run (state braces) (state braces) (itemPieces items)
  | [] => .nil _
  | item :: more =>
    (passes_literal h braces item).append (passes_items h braces more)
      (precedes_calm (startsCalm_itemPieces more))

theorem passes_entries (h : Steady run state) (braces : Nat) :
    (fields : List (String × Literal)) →
      Passes Calm run (state (braces + 1)) (state (braces + 1)) (entryPieces fields)
  | [] => .nil _
  | (key, value) :: more =>
    have hvalue := (passes_literal h (braces + 1) value).append (passes_entries h braces more)
      (precedes_calm (startsCalm_entryPieces more))
    have hcolon := (h.passes_colon (braces + 1)).cons hvalue (precedes_anything _)
    (h.passes_key braces key.toList).cons hcolon (precedes_anything _)

end

theorem passes_type (h : Steady run state) (braces : Nat) (type : TypeRef) :
    Passes Calm run (state braces) (state braces) (typePieces type) := by
  have hpunct (mark : Punct) (hmark : (Piece.punct mark).isMark = false) :
      Passes Calm run (state braces) (state braces) [.punct mark] :=
    (Passes.punct _ hmark).mono fun _ _ => trivial
  induction type with
  | absent => exact .nil _
  | unnamed => exact .nil _
  | named name => exact h.passes_word braces name.toList
  | list item ih =>
    have hitem := ih.append (hpunct .bracketClose (by decide)) (precedes_calm rfl)
    have hcalm : startsCalm (typePieces item ++ [.punct .bracketClose]) = true :=
      startsCalm_append (startsCalm_typePieces item) rfl
    exact (hpunct .bracketOpen (by decide)).cons hitem (precedes_calm hcalm)
  | nonNull inner ih => exact ih.append (hpunct .bang (by decide)) (precedes_calm rfl)

theorem passes_default (h : Steady run state) (braces : Nat) (default? : Option Literal) :
    Passes Calm run (state braces) (state braces) (defaultPieces default?) := by
  cases default? with
  | none => exact .nil _
  | some value =>
    exact (Passes.punct _ (by decide)).cons (h.passes_literal braces value) (precedes_anything _)

end Steady

/-! ## Applied directives -/

/-- In applied directives a search goes inside at the opening parenthesis and comes back at the
closing one, where it passes over the names of parameters. -/
structure Skipping (run : σ → List Mark → Option Nat) (outer marked : σ) (inner : Nat → σ) :
    Prop extends Steady run inner where
  atSign (next : Option Char) (start : Nat) (rest : List Mark) :
    run outer (⟨start, ['@'], next⟩ :: rest) = run marked rest
  directive {name : List Char} (proper : isName name = true) (next : Option Char)
    (noColon : next ≠ some ':') (start : Nat) (rest : List Mark) :
    run marked (⟨start, name, next⟩ :: rest) = run outer rest
  parenOpen (next : Option Char) (start : Nat) (rest : List Mark) :
    run outer (⟨start, ['('], next⟩ :: rest) = run (inner 0) rest
  parenClose (next : Option Char) (start : Nat) (rest : List Mark) :
    run (inner 0) (⟨start, [')'], next⟩ :: rest) = run outer rest
  parameter {name : List Char} (proper : isName name = true) (next : Option Char) (start : Nat)
    (rest : List Mark) :
    run (inner 0) (⟨start, name, next⟩ :: rest) = run (inner 0) rest

namespace Skipping

variable {outer marked : σ} {inner : Nat → σ}

theorem passes_parenOpen (h : Skipping run outer marked inner) :
    Passes Anything run outer (inner 0) [.punct .parenOpen] :=
  .mark rfl fun _ start _ rest _ => h.parenOpen _ start rest

theorem passes_parenClose (h : Skipping run outer marked inner) :
    Passes Anything run (inner 0) outer [.punct .parenClose] :=
  .mark rfl fun _ start _ rest _ => h.parenClose _ start rest

/-- A list in parentheses is passed over if its parts are. -/
theorem passes_inParens (h : Skipping run outer marked inner) {α : Type}
    {pieces : α → List Piece} {parts : List α}
    (hparts : ∀ part ∈ parts, Passes Calm run (inner 0) (inner 0) (pieces part))
    (hcalm : ∀ part, startsCalm (pieces part) = true) :
    Passes Anything run outer outer (inParens pieces parts) := by
  cases parts with
  | nil => exact .nil outer
  | cons part parts =>
    have hclosed : Passes Anything run (inner 0) outer
        ((part :: parts).flatMap pieces ++ [.punct .parenClose]) :=
      (Passes.flatMap hparts hcalm).append h.passes_parenClose (precedes_calm_of_cons rfl [])
    exact h.passes_parenOpen.cons hclosed (precedes_anything _)

theorem passes_argument (h : Skipping run outer marked inner) (argument : Argument) :
    Passes Calm run (inner 0) (inner 0) argument.pieces := by
  have hname : Passes Anything run (inner 0) (inner 0) [.word argument.name.toList] :=
    .mark rfl fun hname start _ rest _ => h.parameter hname _ start rest
  have hvalue := (h.passes_colon 0).cons (h.passes_literal 0 argument.value)
    (precedes_anything _)
  exact hname.cons hvalue (precedes_anything _)

theorem passes_applied (h : Skipping run outer marked inner) (applied : Applied) :
    Passes Calm run outer outer applied.pieces := by
  have hat : Passes Anything run outer marked [.punct .atSign] :=
    .mark rfl fun _ start _ rest _ => h.atSign _ start rest
  have hname : Passes NoColon run marked outer [.word applied.name.toList] :=
    .mark rfl fun hname start _ rest hnext => h.directive hname _ hnext start rest
  have hargs : Passes Calm run outer outer (inParens Argument.pieces applied.args) :=
    (h.passes_inParens (fun argument _ => h.passes_argument argument) fun _ => rfl).mono
      fun _ _ => trivial
  exact hat.cons (hname.cons hargs (precedes_noColon_inParens _ _)) (precedes_anything _)

theorem passes_directives (h : Skipping run outer marked inner) (directives : List Applied) :
    Passes Calm run outer outer (directives.flatMap Applied.pieces) :=
  .flatMap (fun applied _ => h.passes_applied applied) fun _ => rfl

/-- A type, a default and directives are passed over from where values and directives both
are. -/
theorem passes_typed {state : Nat → σ} (hvalues : Steady run state)
    (h : Skipping run (state 0) marked inner) (type : TypeRef) (default? : Option Literal)
    (directives : List Applied) :
    Passes Calm run (state 0) (state 0) (typedPieces type default? directives) := by
  have hdirectives := h.passes_directives directives
  have hcalm := startsCalm_directives directives
  have hdefault := (hvalues.passes_default 0 default?).append hdirectives (precedes_calm hcalm)
  exact (hvalues.passes_type 0 type).append hdefault
    (precedes_calm (startsCalm_append (startsCalm_defaultPieces default?) hcalm))

/-- The arguments of a field are passed over as those of directives are. -/
theorem passes_inputs (h : Skipping run outer marked inner) {marked' : σ} {inner' : Nat → σ}
    (h' : Skipping run (inner 0) marked' inner') (nodes : List InputNode) :
    Passes Anything run outer outer (inParens InputNode.pieces nodes) := by
  refine h.passes_inParens (fun node _ => ?_) fun _ => rfl
  have hlabel : Passes Anything run (inner 0) (inner 0) [.label node.name.toList] :=
    .mark rfl fun hname start _ rest _ => h.parameter hname _ start rest
  have htyped := h'.passes_typed h.toSteady node.type node.defaultValue node.directives
  exact hlabel.cons ((h.passes_colon 0).cons htyped (precedes_anything _)) (precedes_anything _)

end Skipping

/-! ## The first part of a name -/

/-- A search that finds a part of one name, passes over all others, and ends at a closing
mark finds the first part of the name. -/
theorem run_first {α : Type} {state : σ} {name : α → String} {pieces : α → List Piece}
    {sought : List Char} {close : Piece} {parts : List α} {after : List Piece}
    {front laid : List Laid} {rest : List Char}
    (hlaid : laid.map Laid.piece = parts.flatMap pieces ++ close :: after)
    (htidy : Tidy laid rest)
    (hfound : ∀ part ∈ parts, (name part).toList = sought → ∀ first more offset rest,
      (first :: more).map Laid.piece = pieces part → Tidy (first :: more) rest →
        run state (marks offset (laidText (first :: more) ++ rest)) =
          some (offset + first.gap.length))
    (hpasses : ∀ part ∈ parts, (name part).toList ≠ sought →
      Passes Calm run state state (pieces part))
    (hcalm : ∀ part, startsCalm (pieces part) = true) (hne : ∀ part, pieces part ≠ [])
    (hmark : close.isMark = true) (hclose : close.isCalm = true)
    (hends : ∀ start next rest, run state (⟨start, close.text, next⟩ :: rest) = none)
    (offset : Nat) :
    run state (marks (offset + (laidText front).length) (laidText laid ++ rest)) =
      ((numbered name pieces front.length parts).lookup sought).map fun number =>
        offset + startOf (front ++ laid) number := by
  induction parts generalizing front laid with
  | nil =>
    obtain ⟨first, more, rfl, rfl, -⟩ := List.map_eq_cons_iff.1 hlaid
    rw [marks_cons_of_isMark htidy.1 hmark, hends]
    rfl
  | cons part parts ih =>
    obtain ⟨hfound, hfoundMore⟩ := List.forall_mem_cons.1 hfound
    obtain ⟨hpasses, hpassesMore⟩ := List.forall_mem_cons.1 hpasses
    rw [List.flatMap_cons, List.append_assoc] at hlaid
    obtain ⟨laid, more, rfl, hpart, hmore⟩ := List.map_eq_append_iff.1 hlaid
    obtain ⟨htidy, htidyMore⟩ := htidy.append
    rw [laidText_append, List.append_assoc, numbered]
    by_cases hname : (name part).toList = sought
    · cases laid with
      | nil => exact absurd hpart.symm (hne part)
      | cons first laid =>
        rw [hfound hname first laid _ _ hpart htidy, hname, List.lookup_cons_self,
          Option.map_some, List.cons_append, startOf_append_cons, Nat.add_assoc]
    · have hnext : Calm (laidText more ++ rest) := by
        refine calm_laidText_of_ne_nil htidyMore ?_ ?_
        · rw [hmore]
          exact startsCalm_append (startsCalm_flatMap hcalm parts) hclose
        · rintro rfl
          exact absurd hmore (by simp)
      have hlookup : (sought == (name part).toList) = false := beq_false_of_ne (Ne.symm hname)
      have hlength : (laidText front).length + (laidText laid).length =
          (laidText (front ++ laid)).length := by
        rw [laidText_append, List.length_append]
      have hnumber : front.length + (pieces part).length = (front ++ laid).length := by
        rw [List.length_append, ← hpart, List.length_map]
      rw [hpasses hname laid _ _ hpart htidy hnext, List.lookup_cons, hlookup,
        Nat.add_assoc, hlength, ih hmore htidyMore hfoundMore hpassesMore, hnumber,
        List.append_assoc]

end

end SchemaDrift
