import SchemaDrift.Proofs.Locate.Passages

/-!
# Masking keeps the layout

A masked text is as long as the text, ends its lines where the text does, and shows every
character outside of comments and strings.  A comment never goes past the end of its line.
Neither does a string in single quotes, unless a backslash hides the end of the line: a
carriage return or a line feed, but not the two together.

* `forall_mem_maskIn_ne`, `mask_append` — masking removes number signs and quotes, and keeps
  what stands before them.
* `mask_keeps_layout` — what a masked text has at each place.
* `Masking.hidesNext` — a line that ends in a string, with a backslash that hides what comes
  next.
* `maskIn_line_append` — masking goes on from a line to the text after it.
* `mask_line_by_line` — a text is masked line by line, if no such line is in it.
-/

namespace SchemaDrift

open Text

/-! ## Place by place -/

/-- A masked text has neither number signs nor quotes. -/
theorem forall_mem_maskIn_ne (around : Masking) (text : List Char) :
    ∀ c ∈ maskIn around text, c ≠ '#' ∧ c ≠ '"' := by
  have hspace : ' ' ≠ '#' ∧ ' ' ≠ '"' := by decide
  have hbreak {c : Char} (hc : isBreak c = true) : c ≠ '#' ∧ c ≠ '"' := by
    constructor <;> (rintro rfl; exact absurd hc (by decide))
  have hblank (c : Char) : blankOut c ≠ '#' ∧ blankOut c ≠ '"' := by
    unfold blankOut
    split
    · exact hbreak ‹_›
    · exact hspace
  fun_induction maskIn around text with
  | case1 => exact List.forall_mem_nil _
  | case2 _ ih | case13 _ ih =>
    simp only [List.forall_mem_cons]
    exact ⟨hspace, hspace, hspace, ih⟩
  | case3 _ _ ih | case4 _ ih | case7 _ _ _ ih | case9 _ ih | case11 _ _ _ _ _ ih =>
    exact List.forall_mem_cons.2 ⟨hspace, ih⟩
  | case5 _ _ _ hquote hsign ih => exact List.forall_mem_cons.2 ⟨⟨hsign, hquote⟩, ih⟩
  | case6 _ _ hc ih | case10 _ _ _ _ hc ih => exact List.forall_mem_cons.2 ⟨hbreak hc, ih⟩
  | case8 c _ ih =>
    exact List.forall_mem_cons.2 ⟨hspace, List.forall_mem_cons.2 ⟨hblank c, ih⟩⟩
  | case12 _ ih =>
    simp only [List.forall_mem_cons]
    exact ⟨hspace, hspace, hspace, hspace, ih⟩
  | case14 c _ _ _ ih => exact List.forall_mem_cons.2 ⟨hblank c, ih⟩

/-- What stands before the first number sign or quote is kept. -/
theorem mask_append {front : List Char} (h : ∀ c ∈ front, c ≠ '#' ∧ c ≠ '"')
    (rest : List Char) : mask (front ++ rest) = front ++ mask rest := by
  induction front with
  | nil => rfl
  | cons c front ih =>
    obtain ⟨hc, hfront⟩ := List.forall_mem_cons.1 h
    rw [List.cons_append, List.cons_append, ← ih hfront]
    exact maskIn_bare_cons _ hc.2 hc.1

theorem mask_eq_self {text : List Char} (h : ∀ c ∈ text, c ≠ '#' ∧ c ≠ '"') :
    mask text = text := by
  have happend := mask_append h []
  rwa [List.append_nil, show mask [] = [] from rfl, List.append_nil] at happend

theorem exists_getElem?_mask {text : List Char} {i : Nat} {c : Char} (h : text[i]? = some c) :
    ∃ shown, (mask text)[i]? = some shown ∧ Shows shown c := by
  obtain ⟨hi, rfl⟩ := List.getElem?_eq_some_iff.1 h
  have hmask : i < (mask text).length := (length_mask text).symm ▸ hi
  exact ⟨_, List.getElem?_eq_getElem hmask, List.Forall₂.get (forall₂_shows_mask text) hmask hi⟩

/-- A masked text ends its lines where the text does, and in the same way. -/
theorem getElem?_mask_eq_break_iff {text : List Char} {i : Nat} {c : Char}
    (hbreak : isBreak c = true) : (mask text)[i]? = some c ↔ text[i]? = some c := by
  constructor
  · intro hi
    have hlength : i < text.length := by
      rw [← length_mask text]
      exact (List.getElem?_eq_some_iff.1 hi).1
    obtain ⟨shown, hshown, hc⟩ := exists_getElem?_mask (List.getElem?_eq_getElem hlength)
    obtain rfl : shown = c := Option.some.inj (hshown.symm.trans hi)
    have hspace : shown ≠ ' ' := by rintro rfl; exact absurd hbreak (by decide)
    rw [hc.eq_of_ne_space hspace]
    exact List.getElem?_eq_getElem hlength
  · intro hi
    obtain ⟨shown, hshown, rfl | ⟨-, hno⟩⟩ := exists_getElem?_mask hi
    · exact hshown
    · exact absurd hbreak (Bool.eq_false_iff.1 hno)

/-- **Masking keeps the layout of every text.**  The masked text has the same length, at each
place the character of the text or a space, and the same line ends at the same places.  No
number sign and no quote is left, all that stands before the first of them is kept, and
masking a masked text changes nothing. -/
theorem mask_keeps_layout (text : List Char) :
    (mask text).length = text.length ∧
    (∀ (i : Nat) (c : Char), text[i]? = some c →
      (mask text)[i]? = some c ∨ (mask text)[i]? = some ' ') ∧
    (∀ (i : Nat) (c : Char), isBreak c = true → ((mask text)[i]? = some c ↔ text[i]? = some c)) ∧
    '#' ∉ mask text ∧ '"' ∉ mask text ∧
    text.takeWhile (fun c => c != '#' && c != '"') <+: mask text ∧
    mask (mask text) = mask text := by
  have hne : ∀ c ∈ mask text, c ≠ '#' ∧ c ≠ '"' := forall_mem_maskIn_ne .bare text
  refine ⟨length_mask text, fun i c hc => ?_, fun _ _ => getElem?_mask_eq_break_iff,
    fun hm => (hne _ hm).1 rfl, fun hm => (hne _ hm).2 rfl, ?_, mask_eq_self hne⟩
  · obtain ⟨shown, hshown, rfl | ⟨rfl, -⟩⟩ := exists_getElem?_mask hc
    · exact .inl hshown
    · exact .inr hshown
  · have hfront : ∀ c ∈ text.takeWhile (fun c => c != '#' && c != '"'), c ≠ '#' ∧ c ≠ '"' := by
      intro c hc
      simpa using List.mem_takeWhile_imp hc
    have happend := mask_append hfront (text.dropWhile fun c => c != '#' && c != '"')
    rw [List.takeWhile_append_dropWhile] at happend
    rw [happend]
    exact List.prefix_append _ _

/-! ## One line and what follows it -/

/-- Does a line end in a string in quotes, with a backslash that hides what comes next? -/
def Masking.hidesNext : Masking → List Char → Bool
  | .bare, '"' :: rest => hidesNext .quoted rest
  | .bare, '#' :: _ => false
  | .bare, _ :: rest => hidesNext .bare rest
  | .quoted, ['\\'] => true
  | .quoted, '\\' :: _ :: rest => hidesNext .quoted rest
  | .quoted, '"' :: rest => hidesNext .bare rest
  | .quoted, _ :: rest => hidesNext .quoted rest
  | _, _ => false

/-- What surrounds the start of the next line.  A string goes on there if all that ends the
line is hidden; of a carriage return with a line feed, only the first is. -/
def Masking.after (around : Masking) (line : EndedLine) : Masking :=
  if around.hidesNext line.content && line.ending.length == 1 then .quoted else .bare

section

variable {around : Masking} {content ending rest : List Char}

theorem Masking.after_of_hidesNext_eq_false (h : around.hidesNext content = false)
    (ending : List Char) : around.after ⟨content, ending⟩ = .bare := by
  rw [Masking.after, h]
  rfl

theorem Masking.after_both (around : Masking) (content : List Char) :
    around.after ⟨content, ['\r', '\n']⟩ = .bare := if_neg (by simp)

/-- A quote that is not the first of three opens a string on its line. -/
theorem maskIn_bare_quote (h : ¬['"', '"'] <+: rest) :
    maskIn .bare ('"' :: rest) = ' ' :: maskIn .quoted rest := by
  rw [maskIn]
  rintro more rfl
  exact h ⟨more, rfl⟩

theorem maskIn_quoted_cons {c : Char} (hbreak : isBreak c = false) (hquote : c ≠ '"')
    (hbackslash : c ≠ '\\') (rest : List Char) :
    maskIn .quoted (c :: rest) = ' ' :: maskIn .quoted rest := by
  rw [maskIn, if_neg (Bool.eq_false_iff.1 hbreak)]
  · exact fun _ _ h _ => hbackslash h
  · exact hquote

/-- A line end that nothing hides ends comments and strings. -/
theorem maskIn_ending (haround : around = .bare ∨ around = .quoted)
    (ends : EndsLine ending rest) :
    maskIn around (ending ++ rest) = ending ++ maskIn .bare rest := by
  rcases haround with rfl | rfl <;> cases ends <;> rfl

theorem maskIn_comment_line (hline : ∀ c ∈ content, isBreak c = false)
    (ends : EndsLine ending rest) :
    maskIn .comment (content ++ (ending ++ rest)) =
      maskIn .comment content ++ (ending ++ maskIn .bare rest) := by
  have hends : ∀ c, ([] : List Char).head? = some c → isBreak c = true := nofun
  have hcontent : maskIn .comment content = content.map blankOut := by
    simpa [maskIn] using maskIn_comment_append hline hends
  rw [maskIn_comment_append hline (ends.isBreak_head _), maskIn_ending (.inl rfl) ends, hcontent]

/-- Three quotes do not stand across the end of a line. -/
theorem not_quotes_prefix (hquotes : ¬tripleQuote <:+: '"' :: content)
    (ends : EndsLine ending rest) : ¬['"', '"'] <+: content ++ (ending ++ rest) := by
  intro hprefix
  match content with
  | [] => cases ends <;> simp at hprefix
  | [_] => cases ends <;> simp at hprefix
  | c :: d :: content =>
    simp only [List.cons_append, List.cons_prefix_cons] at hprefix
    obtain ⟨rfl, rfl, -⟩ := hprefix
    exact hquotes ⟨[], content, rfl⟩

theorem not_quotes_line (hquotes : ¬tripleQuote <:+: content ++ (ending ++ rest)) :
    ¬tripleQuote <:+: content ∧ ¬tripleQuote <:+: rest := by
  have hrest : rest <:+ content ++ (ending ++ rest) :=
    (List.suffix_append ending rest).trans (List.suffix_append content _)
  exact ⟨fun h => hquotes (h.trans (List.prefix_append _ _).isInfix),
    fun h => hquotes (h.trans hrest.isInfix)⟩

/-- Masking goes on from a line to the text after it: there it starts outside of comments and
strings, or in a string whose last backslash hides the end of the line. -/
theorem maskIn_line_append (haround : around = .bare ∨ around = .quoted)
    (hline : ∀ c ∈ content, isBreak c = false) (hquotes : ¬tripleQuote <:+: content)
    (ends : EndsLine ending rest) :
    maskIn around (content ++ (ending ++ rest)) =
      maskIn around content ++ (ending ++ maskIn (around.after ⟨content, ending⟩) rest) := by
  unfold Masking.after
  fun_induction Masking.hidesNext around content with
  | case1 content ih =>
    have hopen := not_quotes_prefix hquotes ends
    have hcontent : ¬['"', '"'] <+: content := fun h => hopen (h.trans (List.prefix_append _ _))
    rw [List.cons_append, maskIn_bare_quote hopen, maskIn_bare_quote hcontent,
      ih (.inr rfl) (List.forall_mem_cons.1 hline).2 (mt List.infix_cons hquotes),
      List.cons_append]
  | case2 content =>
    rw [List.cons_append, maskIn, maskIn,
      maskIn_comment_line (List.forall_mem_cons.1 hline).2 ends]
    rfl
  | case3 c content hquote hsign ih =>
    rw [List.cons_append, maskIn_bare_cons _ hquote hsign, maskIn_bare_cons _ hquote hsign,
      ih (.inl rfl) (List.forall_mem_cons.1 hline).2 (mt List.infix_cons hquotes),
      List.cons_append]
  | case4 =>
    -- the backslash hides a carriage return or a line feed, whichever comes first
    cases ends <;> rfl
  | case5 c content ih =>
    have hmore := (List.forall_mem_cons.1 (List.forall_mem_cons.1 hline).2).2
    rw [List.cons_append, List.cons_append, maskIn, maskIn,
      ih (.inr rfl) hmore (mt (List.infix_cons ∘ List.infix_cons) hquotes), List.cons_append,
      List.cons_append]
  | case6 content ih =>
    rw [List.cons_append, maskIn, maskIn,
      ih (.inl rfl) (List.forall_mem_cons.1 hline).2 (mt List.infix_cons hquotes),
      List.cons_append]
  | case7 c content hlast hescape hquote ih =>
    obtain ⟨hc, hmore⟩ := List.forall_mem_cons.1 hline
    have hbackslash : c ≠ '\\' := by
      rintro rfl
      cases content with
      | nil => exact hlast rfl rfl
      | cons d content => exact hescape d content rfl rfl
    rw [List.cons_append, maskIn_quoted_cons hc hquote hbackslash,
      maskIn_quoted_cons hc hquote hbackslash,
      ih (.inr rfl) hmore (mt List.infix_cons hquotes), List.cons_append]
  | case8 content around _ _ hbare _ _ _ hquoted =>
    cases content with
    | nil => rcases haround with rfl | rfl <;> exact maskIn_ending (by decide) ends
    | cons c content =>
      rcases haround with rfl | rfl
      · exact (hbare c content rfl rfl).elim
      · exact (hquoted c content rfl rfl).elim

end

/-! ## All lines -/

/-- Masked lines, each from what surrounds its start. -/
def maskLines : Masking → List EndedLine → List Char
  | _, [] => []
  | around, line :: more =>
    maskIn around line.content ++ (line.ending ++ maskLines (around.after line) more)

/-- No line hides an end of so many characters. -/
def Masking.ShowsEnds (length : Nat) : Masking → List EndedLine → Prop
  | _, [] => True
  | around, line :: more =>
    (line.ending.length = length → around.hidesNext line.content = false) ∧
      (around.after line).ShowsEnds length more

instance Masking.decidableShowsEnds (length : Nat) (around : Masking) (lines : List EndedLine) :
    Decidable (around.ShowsEnds length lines) :=
  match lines with
  | [] => .isTrue trivial
  | line :: more =>
    have := decidableShowsEnds length (around.after line) more
    inferInstanceAs (Decidable (_ ∧ _))

section

variable {around : Masking} {text : List Char} {lines : List EndedLine}

theorem Masking.after_eq_or (around : Masking) (line : EndedLine) :
    around.after line = .bare ∨ around.after line = .quoted := by
  unfold Masking.after
  split
  · exact .inr rfl
  · exact .inl rfl

theorem maskIn_eq_maskLines (h : InLines text lines) (hquotes : ¬tripleQuote <:+: text)
    (haround : around = .bare ∨ around = .quoted) :
    maskIn around text = maskLines around lines := by
  induction h generalizing around with
  | last => rw [maskLines, maskLines, List.append_nil, List.append_nil]
  | @cons content ending rest lines hline ends _ ih =>
    obtain ⟨hcontent, hrest⟩ := not_quotes_line hquotes
    rw [maskIn_line_append haround hline hcontent ends, maskLines,
      ih hrest (Masking.after_eq_or _ _)]

/-- Lines that hide no end of one character are masked each on its own. -/
theorem maskLines_eq_flatMap (h : InLines text lines)
    (hends : Masking.bare.ShowsEnds 1 lines) :
    maskLines .bare lines = lines.flatMap fun line => mask line.content ++ line.ending := by
  induction h with
  | last => rw [maskLines, maskLines, List.append_nil, List.flatMap_singleton]; rfl
  | @cons content ending rest lines _ ends _ ih =>
    obtain ⟨hline, hmore⟩ := hends
    have hafter : Masking.bare.after ⟨content, ending⟩ = .bare := by
      cases ends with
      | feed | lone => exact Masking.after_of_hidesNext_eq_false (hline rfl) _
      | both => exact Masking.after_both _ _
    rw [hafter] at hmore
    rw [maskLines, hafter, ih hmore, List.flatMap_cons, List.append_assoc]
    rfl

theorem isBreak_maskIn (hline : ∀ c ∈ text, isBreak c = false) (around : Masking) :
    ∀ c ∈ maskIn around text, isBreak c = false := by
  have hshows := forall₂_shows_maskIn around text
  generalize maskIn around text = masked at hshows
  induction hshows with
  | nil => exact List.forall_mem_nil _
  | cons hc _ ih =>
    obtain ⟨hbreak, hmore⟩ := List.forall_mem_cons.1 hline
    refine List.forall_mem_cons.2 ⟨?_, ih hmore⟩
    rcases hc with rfl | ⟨rfl, -⟩
    · exact hbreak
    · decide

theorem endsLine_maskIn {ending rest : List Char} (ends : EndsLine ending rest)
    (around : Masking) : EndsLine ending (maskIn around rest) := by
  cases ends with
  | feed => exact .feed _
  | lone hfeed => exact .lone (mt (head?_maskIn_eq_feed_iff around rest).1 hfeed)
  | both => exact .both _

/-- Masking goes together with writing line ends as line feeds, unless a carriage return is
hidden and the line feed after it is not. -/
theorem maskIn_unifyBreaks (h : InLines text lines) (hquotes : ¬tripleQuote <:+: text)
    (haround : around = .bare ∨ around = .quoted) (hends : around.ShowsEnds 2 lines) :
    maskIn around (unifyBreaks text) = unifyBreaks (maskIn around text) := by
  have hself {line : List Char} (hline : ∀ c ∈ line, isBreak c = false) :
      unifyBreaks line = line := by
    simpa [unifyBreaks] using unifyBreaks_append_of_notMem (return_notMem_of_isBreak hline) []
  induction h generalizing around with
  | last hline => rw [hself hline, hself (isBreak_maskIn hline around)]
  | @cons content ending rest lines hline ends _ ih =>
    obtain ⟨hboth, hmore⟩ := hends
    obtain ⟨hcontent, hrest⟩ := not_quotes_line hquotes
    have hafter : around.after ⟨content, ['\n']⟩ = around.after ⟨content, ending⟩ := by
      cases ends with
      | feed | lone => rfl
      | both => rw [Masking.after_both, Masking.after_of_hidesNext_eq_false (hboth rfl)]
    have hunified := maskIn_line_append haround hline hcontent (.feed (unifyBreaks rest))
    rw [unifyBreaks_line_append (return_notMem_of_isBreak hline) ends, ← List.singleton_append,
      hunified, hafter, ih hrest (Masking.after_eq_or _ _) hmore,
      maskIn_line_append haround hline hcontent ends,
      unifyBreaks_line_append (return_notMem_of_isBreak (isBreak_maskIn hline around))
        (endsLine_maskIn ends _)]
    rfl

end

/-- **A text without triple quotes is masked line by line.**  A line of which the end is hidden
by a backslash leaves what follows in its string, and nothing else goes past the end of a line.
So if no end of one character is hidden, the masked text is made of the masked lines with their
ends; and if no carriage return is hidden before a line feed, masking goes together with writing
every line end as a line feed. -/
theorem mask_line_by_line {text : List Char} (hquotes : ¬tripleQuote <:+: text) :
    mask text = maskLines .bare (endedLines text) ∧
    (Masking.bare.ShowsEnds 1 (endedLines text) →
      mask text = (endedLines text).flatMap fun line => mask line.content ++ line.ending) ∧
    (Masking.bare.ShowsEnds 2 (endedLines text) →
      mask (unifyBreaks text) = unifyBreaks (mask text)) := by
  have hlines := inLines_endedLines text
  have hmask : mask text = maskLines .bare (endedLines text) :=
    maskIn_eq_maskLines hlines hquotes (.inl rfl)
  refine ⟨hmask, fun hends => ?_, maskIn_unifyBreaks hlines hquotes (.inl rfl)⟩
  rw [hmask]
  exact maskLines_eq_flatMap hlines hends

/-- Lines that end in all three ways: in a comment with a quote, after an escaped quote, and
in a string that nothing closes. -/
def openLines : List Char :=
  "a # \"\r\nb \"\\\"\" c\rd \"e # f\ng".toList

theorem mask_openLines_line_by_line :
    (endedLines openLines).map EndedLine.ending = [['\r', '\n'], ['\r'], ['\n'], []] ∧
    mask openLines = ((endedLines openLines).flatMap fun line =>
      mask line.content ++ line.ending) ∧
    mask (unifyBreaks openLines) = unifyBreaks (mask openLines) := by
  obtain ⟨-, hlines, hunified⟩ := @mask_line_by_line openLines (by decide +kernel)
  exact ⟨by decide +kernel, hlines (by decide +kernel), hunified (by decide +kernel)⟩

/-- A string that nothing closes, with a backslash before the end of its line. -/
def hiddenEnd (ending : List Char) : List Char := ['"', '\\'] ++ ending ++ "type A".toList

/-- After a hidden line feed the next line is masked with the string, but not after a hidden
carriage return with a line feed. -/
theorem hiddenEnd_joins_lines :
    ¬tripleQuote <:+: hiddenEnd ['\n'] ∧
    mask (hiddenEnd ['\n']) ≠ ((endedLines (hiddenEnd ['\n'])).flatMap fun line =>
      mask line.content ++ line.ending) ∧
    ¬tripleQuote <:+: hiddenEnd ['\r', '\n'] ∧
    mask (unifyBreaks (hiddenEnd ['\r', '\n'])) ≠ unifyBreaks (mask (hiddenEnd ['\r', '\n'])) := by
  decide +kernel

end SchemaDrift
