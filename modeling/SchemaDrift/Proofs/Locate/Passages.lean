import SchemaDrift.Proofs.Locate.Masking
import SchemaDrift.Proofs.Text.Lines

/-!
# Comments and strings are invisible

A source is read from left to right as passages: comments, strings, and the characters that
belong to neither.  Masking blanks the comments and strings and nothing else, so what they
hold has no influence on where anything is found.

* `Passage`, `Reads` — the passages of a source.
* `mask_of_reads` — what masking makes of each passage.
* `mask_unifyBreaks_of_reads` — masking goes together with writing every line end as a line
  feed.
* `Passage.Alike` — passages that differ only inside comments and strings.
* `locate_ignores_trivia` — what is found where does not depend on comments and strings.
-/

namespace SchemaDrift

open Text

/-! ## Passages -/

/-- Three quotes. -/
def tripleQuote : List Char := ['"', '"', '"']

/-- What may stand between two quotes: on one line, quotes and backslashes only after a
backslash. -/
inductive IsQuoted : List Char → Prop where
  | nil : IsQuoted []
  | char {c : Char} {rest : List Char} (notQuote : c ≠ '"') (notBackslash : c ≠ '\\')
      (noBreak : isBreak c = false) (more : IsQuoted rest) : IsQuoted (c :: rest)
  | escape {c : Char} {rest : List Char} (noBreak : isBreak c = false)
      (more : IsQuoted rest) : IsQuoted ('\\' :: c :: rest)

/-- What may stand between triple quotes: no three quotes before the closing ones, other than
after a backslash. -/
inductive IsBlock : List Char → Prop where
  | nil : IsBlock []
  | char {c : Char} {rest : List Char} (notClosing : ¬tripleQuote <+: c :: (rest ++ tripleQuote))
      (notEscape : ¬ '\\' :: tripleQuote <+: c :: (rest ++ tripleQuote)) (more : IsBlock rest) :
      IsBlock (c :: rest)
  | escape {rest : List Char} (more : IsBlock rest) : IsBlock ('\\' :: (tripleQuote ++ rest))

/-- A passage of a source. -/
inductive Passage where
  /-- A character that belongs to no comment and no string. -/
  | plain (c : Char)
  /-- A number sign with what follows it on its line. -/
  | comment (content : List Char)
  /-- What stands between two quotes. -/
  | quoted (content : List Char)
  /-- What stands between triple quotes. -/
  | block (content : List Char)
  deriving DecidableEq, Repr

namespace Passage

/-- A passage as it is written. -/
def text : Passage → List Char
  | plain c => [c]
  | comment content => '#' :: content
  | quoted content => '"' :: (content ++ ['"'])
  | block content => tripleQuote ++ (content ++ tripleQuote)

/-- A passage with every character of a comment or string that ends no line as a space. -/
def masked : Passage → List Char
  | plain c => [c]
  | comment content => (comment content).text.map blankOut
  | quoted content => (quoted content).text.map blankOut
  | block content => (block content).text.map blankOut

end Passage

/-- Passages are read from a text, each from where the one before ends. -/
inductive Reads : List Char → List Passage → Prop where
  | nil : Reads [] []
  | plain {c : Char} {rest : List Char} {passages : List Passage} (notComment : c ≠ '#')
      (notString : c ≠ '"') (more : Reads rest passages) :
      Reads (c :: rest) (.plain c :: passages)
  | comment {content rest : List Char} {passages : List Passage}
      (oneLine : ∀ c ∈ content, isBreak c = false)
      (ends : ∀ c, rest.head? = some c → isBreak c = true) (more : Reads rest passages) :
      Reads ((Passage.comment content).text ++ rest) (.comment content :: passages)
  | quoted {content rest : List Char} {passages : List Passage} (terminated : IsQuoted content)
      (notBlock : content = [] → rest.head? ≠ some '"') (more : Reads rest passages) :
      Reads ((Passage.quoted content).text ++ rest) (.quoted content :: passages)
  | block {content rest : List Char} {passages : List Passage} (terminated : IsBlock content)
      (more : Reads rest passages) :
      Reads ((Passage.block content).text ++ rest) (.block content :: passages)

/-- A text is what its passages are written as. -/
theorem Reads.text_eq {text : List Char} {passages : List Passage} (h : Reads text passages) :
    text = passages.flatMap Passage.text := by
  induction h with
  | nil => rfl
  | plain _ _ _ ih => rw [List.flatMap_cons, ← ih]; rfl
  | comment _ _ _ ih => rw [List.flatMap_cons, ← ih]
  | quoted _ _ _ ih => rw [List.flatMap_cons, ← ih]
  | block _ _ ih => rw [List.flatMap_cons, ← ih]

theorem Reads.append_plain (word : List Char) (hsign : '#' ∉ word) (hquote : '"' ∉ word)
    {rest : List Char} {passages : List Passage} (more : Reads rest passages) :
    Reads (word ++ rest) (word.map .plain ++ passages) := by
  induction word with
  | nil => exact more
  | cons c word ih =>
    rw [List.mem_cons, not_or] at hsign hquote
    exact .plain (Ne.symm hsign.1) (Ne.symm hquote.1) (ih hsign.2 hquote.2)

/-! ## Masking passage by passage -/

theorem blankOut_of_isBreak {c : Char} (h : isBreak c = true) : blankOut c = c := if_pos h

theorem blankOut_of_not_isBreak {c : Char} (h : isBreak c = false) : blankOut c = ' ' :=
  if_neg (Bool.eq_false_iff.1 h)

theorem maskIn_bare_cons {c : Char} (rest : List Char) (hquote : c ≠ '"') (hsign : c ≠ '#') :
    maskIn .bare (c :: rest) = c :: maskIn .bare rest := by
  rw [maskIn]
  · exact fun _ h _ => hquote h
  · exact hquote
  · exact hsign

/-- A comment is blanked up to the end of its line. -/
theorem maskIn_comment_append {content rest : List Char}
    (hline : ∀ c ∈ content, isBreak c = false)
    (hends : ∀ c, rest.head? = some c → isBreak c = true) :
    maskIn .comment (content ++ rest) = content.map blankOut ++ maskIn .bare rest := by
  induction content with
  | nil =>
    cases rest with
    | nil => rfl
    | cons c rest =>
      have hc : isBreak c = true := hends c rfl
      have hquote : c ≠ '"' := by rintro rfl; exact absurd hc (by decide)
      have hsign : c ≠ '#' := by rintro rfl; exact absurd hc (by decide)
      rw [List.nil_append, List.map_nil, List.nil_append, maskIn_bare_cons rest hquote hsign,
        maskIn, if_pos hc]
  | cons c content ih =>
    obtain ⟨hc, hline⟩ := List.forall_mem_cons.1 hline
    rw [List.cons_append, maskIn, if_neg (Bool.eq_false_iff.1 hc), ih hline, List.map_cons,
      blankOut_of_not_isBreak hc, List.cons_append]

/-- A string in quotes is blanked up to the quote that closes it. -/
theorem maskIn_quoted_append {content : List Char} (h : IsQuoted content) (rest : List Char) :
    maskIn .quoted (content ++ '"' :: rest) =
      content.map blankOut ++ ' ' :: maskIn .bare rest := by
  induction h with
  | nil => rw [List.nil_append, maskIn, List.map_nil, List.nil_append]
  | @char c content hquote hbackslash hbreak _ ih =>
    rw [List.cons_append, maskIn, if_neg (Bool.eq_false_iff.1 hbreak), ih, List.map_cons,
      blankOut_of_not_isBreak hbreak, List.cons_append]
    · exact fun _ _ hc _ => hbackslash hc
    · exact hquote
  | @escape c content hbreak _ ih =>
    rw [List.cons_append, List.cons_append, maskIn, ih]
    rfl

/-- A string in triple quotes is blanked up to the quotes that close it. -/
theorem maskIn_block_append {content : List Char} (h : IsBlock content) (rest : List Char) :
    maskIn .block (content ++ (tripleQuote ++ rest)) =
      content.map blankOut ++ (tripleQuote.map blankOut ++ maskIn .bare rest) := by
  induction h with
  | nil => rfl
  | @char c content hclosing hescape _ ih =>
    have hopens {opening : List Char} (hlength : opening.length ≤ 4)
        (h : opening <+: c :: (content ++ (tripleQuote ++ rest))) :
        opening <+: c :: (content ++ tripleQuote) := by
      have hmore : c :: (content ++ (tripleQuote ++ rest)) =
          c :: (content ++ tripleQuote) ++ rest := by simp
      refine List.prefix_of_prefix_length_le h ⟨rest, hmore.symm⟩ (hlength.trans ?_)
      simp [tripleQuote]
    rw [List.cons_append, maskIn, ih]
    · rfl
    · rintro more rfl hmore
      exact hescape (hopens (Nat.le_refl 4) ⟨more, by rw [hmore]; rfl⟩)
    · rintro more rfl hmore
      exact hclosing (hopens (by decide) ⟨more, by rw [hmore]; rfl⟩)
  | @escape content _ ih =>
    rw [List.cons_append, List.append_assoc]
    exact congrArg (fun more => ' ' :: ' ' :: ' ' :: ' ' :: more) ih

theorem mask_comment_append {content rest : List Char}
    (hline : ∀ c ∈ content, isBreak c = false)
    (hends : ∀ c, rest.head? = some c → isBreak c = true) :
    mask ((Passage.comment content).text ++ rest) =
      (Passage.comment content).masked ++ mask rest := by
  rw [Passage.text, List.cons_append, mask, maskIn, maskIn_comment_append hline hends]
  rfl

theorem mask_quoted_append {content rest : List Char} (h : IsQuoted content)
    (hrest : content = [] → rest.head? ≠ some '"') :
    mask ((Passage.quoted content).text ++ rest) =
      (Passage.quoted content).masked ++ mask rest := by
  have hnotBlock : ∀ more, content ++ '"' :: rest ≠ '"' :: '"' :: more := by
    rintro more heq
    cases h with
    | nil => exact hrest rfl (by rw [(List.cons.inj heq).2]; rfl)
    | char hquote => exact hquote (List.cons.inj heq).1
    | escape => exact absurd (List.cons.inj heq).1 (by decide)
  rw [Passage.text, List.cons_append, List.append_assoc, List.singleton_append, mask, maskIn,
    maskIn_quoted_append h, Passage.masked, Passage.text, List.map_cons, List.map_append,
    List.cons_append, List.append_assoc]
  · rfl
  · exact hnotBlock

theorem mask_block_append {content : List Char} (h : IsBlock content) (rest : List Char) :
    mask ((Passage.block content).text ++ rest) =
      (Passage.block content).masked ++ mask rest := by
  have hinner := maskIn_block_append h rest
  rw [Passage.text, Passage.masked, Passage.text, List.map_append, List.map_append,
    List.append_assoc, List.append_assoc, List.append_assoc, List.append_assoc]
  exact congrArg (fun more => ' ' :: ' ' :: ' ' :: more) hinner

/-- Masking blanks the comments and strings of a text and nothing else. -/
theorem mask_of_reads {text : List Char} {passages : List Passage} (h : Reads text passages) :
    mask text = passages.flatMap Passage.masked := by
  induction h with
  | nil => rfl
  | plain hsign hquote _ ih =>
    rw [mask, maskIn_bare_cons _ hquote hsign, List.flatMap_cons, ← ih]
    rfl
  | comment hline hends _ ih => rw [mask_comment_append hline hends, List.flatMap_cons, ih]
  | quoted hquoted hrest _ ih => rw [mask_quoted_append hquoted hrest, List.flatMap_cons, ih]
  | block hblock _ ih => rw [mask_block_append hblock, List.flatMap_cons, ih]

/-! ## Line ends as line feeds -/

theorem head?_map_blankOut_eq_feed_iff (text : List Char) :
    (text.map blankOut).head? = some '\n' ↔ text.head? = some '\n' := by
  cases text with
  | nil => rfl
  | cons c rest =>
    rw [List.map_cons, List.head?_cons, List.head?_cons, Option.some.injEq, Option.some.injEq,
      ← beq_iff_eq, (Shows.blankOut c).isFeed_eq, beq_iff_eq]

theorem unifyBreaks_map_blankOut (text : List Char) :
    unifyBreaks (text.map blankOut) = (unifyBreaks text).map blankOut := by
  induction text with
  | nil => rfl
  | cons c rest ih =>
    by_cases hc : c = '\r'
    · subst hc
      rw [List.map_cons, blankOut_of_isBreak (by decide), unifyBreaks_return, unifyBreaks_return,
        ih]
      simp only [head?_map_blankOut_eq_feed_iff]
      split <;> rfl
    · have hblank : blankOut c ≠ '\r' := fun h =>
        hc ((Shows.blankOut c).eq_of_ne_space (by rw [h]; decide) ▸ h)
      rw [List.map_cons, unifyBreaks_cons hblank, unifyBreaks_cons hc, ih, List.map_cons]

/-- What stands between triple quotes may still do so with every line end as a line feed. -/
theorem IsBlock.unifyBreaks {content : List Char} (h : IsBlock content) :
    IsBlock (unifyBreaks content) := by
  have hquotes (rest : List Char) :
      Text.unifyBreaks (rest ++ tripleQuote) = Text.unifyBreaks rest ++ tripleQuote :=
    unifyBreaks_append_of_head (by decide) rest
  induction h with
  | nil => exact .nil
  | @char c rest hclosing hescape _ ih =>
    by_cases hc : c = '\r'
    · subst hc
      rw [unifyBreaks_return]
      split
      · exact ih
      · exact .char (by simp [tripleQuote]) (by simp) ih
    · have hwhole : c :: (Text.unifyBreaks rest ++ tripleQuote) =
          Text.unifyBreaks (c :: (rest ++ tripleQuote)) := by
        rw [unifyBreaks_cons hc, hquotes]
      rw [unifyBreaks_cons hc]
      refine .char (fun h => hclosing ?_) (fun h => hescape ?_) ih
      · exact prefix_of_prefix_unifyBreaks (by simp [tripleQuote, isBreak]) (hwhole ▸ h)
      · exact prefix_of_prefix_unifyBreaks (by simp [tripleQuote, isBreak]) (hwhole ▸ h)
  | @escape rest _ ih =>
    rw [unifyBreaks_cons (by decide), unifyBreaks_append_of_notMem (by decide)]
    exact .escape ih

theorem IsQuoted.isBreak_eq_false {content : List Char} (h : IsQuoted content) :
    ∀ c ∈ content, isBreak c = false := by
  induction h with
  | nil => exact fun _ hc => absurd hc List.not_mem_nil
  | char _ _ hbreak _ ih => exact List.forall_mem_cons.2 ⟨hbreak, ih⟩
  | escape hbreak _ ih =>
    exact List.forall_mem_cons.2 ⟨by decide, List.forall_mem_cons.2 ⟨hbreak, ih⟩⟩

/-- A masked text starts with a line feed exactly if the text does. -/
theorem head?_maskIn_eq_feed_iff (around : Masking) (text : List Char) :
    (maskIn around text).head? = some '\n' ↔ text.head? = some '\n' := by
  cases text with
  | nil => rw [maskIn]
  | cons c rest =>
    obtain ⟨shown, more, hc, -, hmask⟩ :=
      List.forall₂_cons_right_iff.1 (forall₂_shows_maskIn around (c :: rest))
    rw [hmask, List.head?_cons, List.head?_cons, Option.some.injEq, Option.some.injEq,
      ← beq_iff_eq, hc.isFeed_eq, beq_iff_eq]

theorem head?_mask_eq_feed_iff (text : List Char) :
    (mask text).head? = some '\n' ↔ text.head? = some '\n' :=
  head?_maskIn_eq_feed_iff .bare text

/-- Quotes around a text, and what follows them, keep apart when line ends become line
feeds. -/
theorem unifyBreaks_enclosed {quotes : List Char} (hreturn : '\r' ∉ quotes)
    (hfeed : ∀ rest, (quotes ++ rest).head? ≠ some '\n') (content rest : List Char) :
    unifyBreaks (quotes ++ (content ++ quotes) ++ rest) =
      quotes ++ (unifyBreaks content ++ quotes) ++ unifyBreaks rest := by
  rw [List.append_assoc, List.append_assoc, unifyBreaks_append_of_notMem hreturn,
    unifyBreaks_append_of_head (hfeed rest), unifyBreaks_append_of_notMem hreturn,
    List.append_assoc, List.append_assoc]

theorem Passage.masked_block (content : List Char) : (Passage.block content).masked =
    tripleQuote.map blankOut ++ (content.map blankOut ++ tripleQuote.map blankOut) := by
  rw [Passage.masked, Passage.text, List.map_append, List.map_append]

theorem unifyBreaks_masked_block (content rest : List Char) :
    unifyBreaks ((Passage.block content).masked ++ rest) =
      tripleQuote.map blankOut ++ ((unifyBreaks content).map blankOut ++
        tripleQuote.map blankOut) ++ unifyBreaks rest := by
  have hspace (rest : List Char) : (tripleQuote.map blankOut ++ rest).head? ≠ some '\n' :=
    fun h => absurd (Option.some.inj h) (by decide)
  rw [Passage.masked_block, unifyBreaks_enclosed (by decide) hspace, unifyBreaks_map_blankOut]

theorem return_notMem_map_blankOut {text : List Char} (h : '\r' ∉ text) :
    '\r' ∉ text.map blankOut := by
  rintro hm
  obtain ⟨c, hc, hblank⟩ := List.mem_map.1 hm
  exact h (((Shows.blankOut c).eq_of_ne_space (by rw [hblank]; decide) ▸ hblank) ▸ hc)

/-- Masking goes together with writing every line end as a line feed. -/
theorem mask_unifyBreaks_of_reads {text : List Char} {passages : List Passage}
    (h : Reads text passages) : mask (unifyBreaks text) = unifyBreaks (mask text) := by
  induction h with
  | nil => rfl
  | @plain c rest _ hsign hquote _ ih =>
    by_cases hc : c = '\r'
    · subst hc
      have hrest : mask ('\r' :: rest) = '\r' :: mask rest :=
        maskIn_bare_cons rest (by decide) (by decide)
      rw [unifyBreaks_return, hrest, unifyBreaks_return]
      simp only [head?_mask_eq_feed_iff]
      split
      · exact ih
      · exact (maskIn_bare_cons _ (by decide) (by decide)).trans (congrArg _ ih)
    · have hrest : mask (c :: rest) = c :: mask rest := maskIn_bare_cons rest hquote hsign
      rw [unifyBreaks_cons hc, hrest, unifyBreaks_cons hc, ← ih]
      exact maskIn_bare_cons _ hquote hsign
  | @comment content rest _ hline hends _ ih =>
    have hunified : ∀ c, (unifyBreaks rest).head? = some c → isBreak c = true :=
      forall_head?_unifyBreaks hends
    have hreturn : '\r' ∉ (Passage.comment content).text :=
      return_notMem_of_isBreak (List.forall_mem_cons.2 ⟨by decide, hline⟩)
    have hmasked : '\r' ∉ (Passage.comment content).masked := return_notMem_map_blankOut hreturn
    rw [mask_comment_append hline hends, unifyBreaks_append_of_notMem hreturn,
      mask_comment_append hline hunified, ih, unifyBreaks_append_of_notMem hmasked]
  | @quoted content rest _ hquoted hrest _ ih =>
    have hreturn : '\r' ∉ (Passage.quoted content).text := by
      refine return_notMem_of_isBreak (List.forall_mem_cons.2 ⟨by decide, ?_⟩)
      exact List.forall_mem_append.2
        ⟨hquoted.isBreak_eq_false, List.forall_mem_singleton.2 (by decide)⟩
    have hmasked : '\r' ∉ (Passage.quoted content).masked := return_notMem_map_blankOut hreturn
    have hunified : content = [] → (unifyBreaks rest).head? ≠ some '"' := fun hnil hquote =>
      hrest hnil (head?_of_head?_unifyBreaks (by decide) hquote)
    rw [mask_quoted_append hquoted hrest, unifyBreaks_append_of_notMem hreturn,
      mask_quoted_append hquoted hunified, ih, unifyBreaks_append_of_notMem hmasked]
  | @block content rest _ hblock _ ih =>
    have hquote (rest : List Char) : (tripleQuote ++ rest).head? ≠ some '\n' :=
      fun h => absurd (Option.some.inj h) (by decide)
    rw [mask_block_append hblock, Passage.text, unifyBreaks_enclosed (by decide) hquote,
      ← Passage.text, mask_block_append hblock.unifyBreaks, ih, unifyBreaks_masked_block,
      Passage.masked_block]

/-! ## Passages that differ only inside -/

/-- Texts of one length, with the same line end or none in both at every place. -/
def SameBreaks (one other : List Char) : Prop :=
  List.Forall₂ (fun c d => c = d ∨ (isBreak c = false ∧ isBreak d = false)) one other

/-- Where lines end in a text.  A carriage return with a line feed after it stands for
itself, any other line end for a line feed, and whatever ends no line for a space. -/
def lineEndPlaces : List Char → List Char
  | [] => []
  | '\r' :: '\n' :: rest => '\r' :: '\n' :: lineEndPlaces rest
  | c :: rest => (if isBreak c then '\n' else ' ') :: lineEndPlaces rest

/-- Texts of one length in which lines end at the same places, be it with a line feed or a
carriage return. -/
def SameEnds (one other : List Char) : Prop := lineEndPlaces one = lineEndPlaces other

/-- Passages of one kind that differ only inside a comment or string.  Block strings, which
may have several lines, are compared by the given relation. -/
inductive Passage.Alike (same : List Char → List Char → Prop) : Passage → Passage → Prop where
  | plain (c : Char) : Alike same (.plain c) (.plain c)
  | comment {one other : List Char} (h : SameBreaks one other) :
      Alike same (.comment one) (.comment other)
  | quoted {one other : List Char} (h : SameBreaks one other) :
      Alike same (.quoted one) (.quoted other)
  | block {one other : List Char} (h : same one other) : Alike same (.block one) (.block other)

theorem SameBreaks.map_blankOut_eq {one other : List Char} (h : SameBreaks one other) :
    one.map blankOut = other.map blankOut := by
  induction h with
  | nil => rfl
  | cons hc _ ih =>
    rcases hc with rfl | ⟨hc, hd⟩
    · rw [List.map_cons, List.map_cons, ih]
    · rw [List.map_cons, List.map_cons, ih, blankOut_of_not_isBreak hc,
        blankOut_of_not_isBreak hd]

/-- The places of its line ends are all that is left of a blanked text. -/
theorem unifyBreaks_lineEndPlaces (text : List Char) :
    unifyBreaks (lineEndPlaces text) = unifyBreaks (text.map blankOut) := by
  fun_induction lineEndPlaces text with
  | case1 => rfl
  | case2 rest ih => exact congrArg ('\n' :: ·) ih
  | case3 c rest hreturn ih =>
    by_cases hc : c = '\r'
    · subst hc
      have hfeed : (rest.map blankOut).head? ≠ some '\n' := by
        rw [ne_eq, head?_map_blankOut_eq_feed_iff]
        intro hhead
        obtain ⟨more, rfl⟩ := List.head?_eq_some_iff.1 hhead
        exact hreturn more rfl rfl
      rw [if_pos (by decide), unifyBreaks_cons (by decide), ih, List.map_cons,
        blankOut_of_isBreak (by decide), unifyBreaks_return, if_neg hfeed]
    · have hblank : (if isBreak c = true then '\n' else ' ') = blankOut c := by
        by_cases hfeed : c = '\n'
        · subst hfeed
          rfl
        · have hbreak : isBreak c = false := by simp [isBreak, hc, hfeed]
          rw [blankOut_of_not_isBreak hbreak, hbreak]
          rfl
      have hne : blankOut c ≠ '\r' := fun h =>
        hc ((Shows.blankOut c).eq_of_ne_space (by rw [h]; decide) ▸ h)
      rw [hblank, unifyBreaks_cons hne, ih, List.map_cons, unifyBreaks_cons hne]

theorem SameEnds.unifyBreaks_eq {one other : List Char} (h : SameEnds one other) :
    (unifyBreaks one).map blankOut = (unifyBreaks other).map blankOut := by
  rw [← unifyBreaks_map_blankOut, ← unifyBreaks_map_blankOut, ← unifyBreaks_lineEndPlaces,
    ← unifyBreaks_lineEndPlaces, h]

theorem Passage.Alike.masked_eq {one other : Passage} (h : one.Alike SameBreaks other) :
    one.masked = other.masked := by
  cases h with
  | plain c => rfl
  | comment h => exact congrArg (' ' :: ·) h.map_blankOut_eq
  | quoted h =>
    simp only [Passage.masked, Passage.text, List.map_cons, List.map_append, h.map_blankOut_eq]
  | block h => simp only [Passage.masked, Passage.text, List.map_append, h.map_blankOut_eq]

/-- Sources that differ only inside comments and strings are masked alike. -/
theorem flatMap_masked_eq {one other : List Passage}
    (h : List.Forall₂ (Passage.Alike SameBreaks) one other) :
    one.flatMap Passage.masked = other.flatMap Passage.masked := by
  induction h with
  | nil => rfl
  | cons h _ ih => rw [List.flatMap_cons, List.flatMap_cons, h.masked_eq, ih]

/-- Whatever ends the lines inside a string, the masked texts are alike with every line end
as a line feed. -/
theorem Passage.Alike.unifyBreaks_masked {one other : Passage} (h : one.Alike SameEnds other)
    {rest more : List Char} (hrest : unifyBreaks rest = unifyBreaks more)
    (hhead : rest.head? = some '\n' ↔ more.head? = some '\n') :
    unifyBreaks (one.masked ++ rest) = unifyBreaks (other.masked ++ more) ∧
      ((one.masked ++ rest).head? = some '\n' ↔ (other.masked ++ more).head? = some '\n') := by
  cases h with
  | plain c => exact ⟨unifyBreaks_append_congr hrest hhead _, Iff.rfl⟩
  | comment h =>
    have hsame := Passage.Alike.masked_eq (.comment h)
    exact ⟨hsame ▸ unifyBreaks_append_congr hrest hhead _, Iff.rfl⟩
  | quoted h =>
    have hsame := Passage.Alike.masked_eq (.quoted h)
    exact ⟨hsame ▸ unifyBreaks_append_congr hrest hhead _, Iff.rfl⟩
  | block h =>
    refine ⟨?_, Iff.rfl⟩
    rw [unifyBreaks_masked_block, unifyBreaks_masked_block, h.unifyBreaks_eq,
      hrest]

theorem unifyBreaks_flatMap_masked {one other : List Passage}
    (h : List.Forall₂ (Passage.Alike SameEnds) one other) :
    unifyBreaks (one.flatMap Passage.masked) = unifyBreaks (other.flatMap Passage.masked) ∧
      ((one.flatMap Passage.masked).head? = some '\n' ↔
        (other.flatMap Passage.masked).head? = some '\n') := by
  induction h with
  | nil => exact ⟨rfl, Iff.rfl⟩
  | cons h _ ih =>
    rw [List.flatMap_cons, List.flatMap_cons]
    exact h.unifyBreaks_masked ih.1 ih.2

/-! ## What is found where -/

/-- The two texts of a source are the same, or differ only inside comments and strings, all
of which end. -/
def Edited (one other : Option String) : Prop :=
  one = other ∨
    ∃ text text' passages passages', one = some text ∧ other = some text' ∧
      Reads text.toList passages ∧ Reads text'.toList passages' ∧
      List.Forall₂ (Passage.Alike SameEnds) passages passages'

theorem maskedSource_eq_of_alike {text text' : String} {passages passages' : List Passage}
    (h : Reads text.toList passages) (h' : Reads text'.toList passages')
    (halike : List.Forall₂ (Passage.Alike SameEnds) passages passages') :
    maskedSource text = maskedSource text' := by
  rw [maskedSource, maskedSource, mask_unifyBreaks_of_reads h, mask_unifyBreaks_of_reads h',
    mask_of_reads h, mask_of_reads h', (unifyBreaks_flatMap_masked halike).1]

theorem Edited.locateIn_eq {one other : Option String} (h : Edited one other)
    (path : ChangePath) (origin : Origin) :
    path.locateIn origin one = path.locateIn origin other := by
  rcases h with rfl | ⟨text, text', passages, passages', rfl, rfl, hreads, hreads', halike⟩
  · rfl
  · have hmasked : maskedSource text = maskedSource text' :=
      maskedSource_eq_of_alike hreads hreads' halike
    simp only [ChangePath.locateIn, Option.bind_eq_bind, Option.bind_some, hmasked]

/-- **Comments and strings, and only they, are invisible.**  Masking puts spaces in place of
the characters of comments and strings that end no line and keeps every other character.
Texts that differ only inside comments and strings are masked alike, and every path has the
same location in sources that differ only there. -/
theorem locate_ignores_trivia :
    (∀ text passages, Reads text passages → mask text = passages.flatMap Passage.masked) ∧
    (∀ text text' passages passages', Reads text passages → Reads text' passages' →
      List.Forall₂ (Passage.Alike SameBreaks) passages passages' → mask text = mask text') ∧
    (∀ sources sources' : Sources, Edited sources.old sources'.old →
      Edited sources.new sources'.new →
        ∀ path, sources.locate path = sources'.locate path) := by
  refine ⟨fun _ _ => mask_of_reads, fun _ _ _ _ h h' halike => ?_, fun _ _ hold hnew path => ?_⟩
  · rw [mask_of_reads h, mask_of_reads h', flatMap_masked_eq halike]
  · simp only [Sources.locate, hold.locateIn_eq, hnew.locateIn_eq]

/-- The passages of a type with a comment, a string and a block string. -/
def remarked (comment quoted block : List Char) : List Passage :=
  .comment comment :: ("\ntype A @c(d: ".toList.map .plain ++ .quoted quoted ::
    (") \x7b".toList.map .plain ++ .block block :: "b:C\x7d".toList.map .plain))

/-- The source that holds the type. -/
def remarkedSource (comment quoted block : List Char) : String :=
  String.ofList ((remarked comment quoted block).flatMap Passage.text)

theorem reads_remarked {comment quoted block : List Char}
    (hcomment : ∀ c ∈ comment, isBreak c = false) (hquoted : IsQuoted quoted)
    (hnotBlock : quoted ≠ []) (hblock : IsBlock block) :
    Reads (remarkedSource comment quoted block).toList (remarked comment quoted block) := by
  have hmember : Reads "b:C\x7d".toList ("b:C\x7d".toList.map .plain) := by
    simpa using Reads.append_plain "b:C\x7d".toList (by decide) (by decide) .nil
  have hbody := Reads.append_plain ") \x7b".toList (by decide) (by decide)
    (Reads.block hblock hmember)
  have htype := Reads.append_plain "\ntype A @c(d: ".toList (by decide) (by decide)
    (Reads.quoted hquoted (absurd · hnotBlock) hbody)
  have hreads := Reads.comment hcomment (by rintro c ⟨⟩; decide) htype
  rw [remarkedSource, String.toList_ofList]
  exact hreads.text_eq ▸ hreads

theorem forall₂_alike_remarked {same : List Char → List Char → Prop}
    {comment comment' quoted quoted' block block' : List Char}
    (hcomment : SameBreaks comment comment') (hquoted : SameBreaks quoted quoted')
    (hblock : same block block') :
    List.Forall₂ (Passage.Alike same) (remarked comment quoted block)
      (remarked comment' quoted' block') := by
  have hplain (word : List Char) :
      List.Forall₂ (Passage.Alike same) (word.map .plain) (word.map .plain) :=
    List.forall₂_same.2 fun passage h => by
      obtain ⟨c, -, rfl⟩ := List.mem_map.1 h
      exact .plain c
  exact .cons (.comment hcomment) (List.rel_append (hplain _)
    (.cons (.quoted hquoted) (List.rel_append (hplain _) (.cons (.block hblock) (hplain _)))))

/-- Remarks and strings with other marks in them leave the member where it is. -/
theorem remarked_member_located :
    let one := remarkedSource ['b'] "x\\\"#".toList "\n#\\\"\"\"".toList
    let other := remarkedSource ['"'] "\x7bb:(".toList "\n\x7bb:C\x7d".toList
    mask one.toList = "  \ntype A @c(d:       ) \x7b   \n        b:C\x7d".toList ∧
      mask one.toList = mask other.toList ∧
      (⟨none, some one⟩ : Sources).locate "A.b" = (⟨none, some other⟩ : Sources).locate "A.b" ∧
      (⟨none, some one⟩ : Sources).locate "A.b" = ⟨3, 9, .new⟩ := by
  have hquoted : IsQuoted "x\\\"#".toList :=
    .char (by decide) (by decide) (by decide) (.escape (by decide)
      (.char (by decide) (by decide) (by decide) .nil))
  have hquoted' : IsQuoted "\x7bb:(".toList :=
    .char (by decide) (by decide) (by decide) (.char (by decide) (by decide) (by decide)
      (.char (by decide) (by decide) (by decide) (.char (by decide) (by decide) (by decide) .nil)))
  have hblock : IsBlock "\n#\\\"\"\"".toList :=
    .char (by decide) (by decide) (.char (by decide) (by decide) (.escape .nil))
  have hblock' : IsBlock "\n\x7bb:C\x7d".toList :=
    .char (by decide) (by decide) (.char (by decide) (by decide) (.char (by decide) (by decide)
      (.char (by decide) (by decide) (.char (by decide) (by decide)
        (.char (by decide) (by decide) .nil)))))
  have hcomment : ∀ c ∈ ['b'], isBreak c = false := List.forall_mem_singleton.2 rfl
  have hcomment' : ∀ c ∈ ['"'], isBreak c = false := List.forall_mem_singleton.2 rfl
  have hreads := reads_remarked hcomment hquoted (by decide) hblock
  have hreads' := reads_remarked hcomment' hquoted' (by decide) hblock'
  have hsame : SameBreaks ['b'] ['"'] := .cons (.inr (by decide)) .nil
  have hsame' : SameBreaks "x\\\"#".toList "\x7bb:(".toList := by
    unfold SameBreaks; decide
  have hsame'' : SameBreaks "\n#\\\"\"\"".toList "\n\x7bb:C\x7d".toList := by
    unfold SameBreaks; decide
  have hends : SameEnds "\n#\\\"\"\"".toList "\n\x7bb:C\x7d".toList := by
    unfold SameEnds; decide
  have hedited := forall₂_alike_remarked hsame hsame' hends
  obtain ⟨hmask, halike, hlocate⟩ := locate_ignores_trivia
  intro one other
  have hnew : Edited (some one) (some other) :=
    .inr ⟨one, other, _, _, rfl, rfl, hreads, hreads', hedited⟩
  refine ⟨(hmask one.toList _ hreads).trans (by decide), ?_, ?_, by decide⟩
  · exact halike _ _ _ _ hreads hreads' (forall₂_alike_remarked hsame hsame' hsame'')
  · exact hlocate ⟨none, some one⟩ ⟨none, some other⟩ (.inl rfl) hnew "A.b"

end SchemaDrift
