import SchemaDrift.Proofs.Locate.Words
import SchemaDrift.Proofs.Sdl.Steps
import SchemaDrift.Proofs.Sdl.Strings

/-!
# The words among the tokens of a text

The lexer takes the same parts of a text for comments and strings as the masking does, so the
names among its tokens are those that the masked text shows.

* `Stretch`, `exists_stretch_of_ignored`, `exists_stretch_of_token` — what a step of the lexer
  passes.
* `wordsAmong`, `Word.all` — the words of a text, from its tokens.
* `Sighting`, `exists_sighting` — the masked text is that of its words.
-/

namespace SchemaDrift

open Sdl Text

/-! ## What a step passes -/

/-- A text starts with a part that is read as passages, whatever follows it. -/
structure Stretch (text front after : List Char) (passages : List Passage) : Prop where
  text_eq : text = front ++ after
  nonempty : front ≠ []
  length_eq : (passages.flatMap Passage.masked).length = front.length
  reads : ∀ {more : List Passage}, Reads after more → Reads text (passages ++ more)

/-- What passages show starts no name, nor does it run into one. -/
def Silent (passages : List Passage) (after : List Char) : Prop :=
  isQuiet false (passages.flatMap Passage.masked) = true ∧
    (endsInName false (passages.flatMap Passage.masked) = true →
      ∀ c, after.head? = some c → isNameStart c = false)

theorem isQuiet_of_notName {text : List Char} (h : ∀ c ∈ text, isNameChar c = false) :
    isQuiet false text = true ∧ endsInName false text = false := by
  induction text with
  | nil => exact ⟨rfl, rfl⟩
  | cons c rest ih =>
    obtain ⟨hc, hrest⟩ := List.forall_mem_cons.1 h
    have hstart : isNameStart c = false := by
      cases hs : isNameStart c with
      | false => rfl
      | true => exact absurd (hc.symm.trans (isNameChar_of_isNameStart hs)) nofun
    simp [isQuiet, hstart, hc, ih hrest]

theorem silent_of_notName {passages : List Passage} {after : List Char}
    (h : ∀ c ∈ passages.flatMap Passage.masked, isNameChar c = false) :
    Silent passages after := by
  obtain ⟨hquiet, hends⟩ := isQuiet_of_notName h
  exact ⟨hquiet, fun htrue => absurd (hends.symm.trans htrue) nofun⟩

theorem isNameChar_blankOut {c : Char} : isNameChar (blankOut c) = false := by
  unfold blankOut
  split
  case isFalse => decide
  case isTrue hbreak =>
    simp only [isBreak, Bool.or_eq_true, beq_iff_eq] at hbreak
    rcases hbreak with rfl | rfl <;> decide

theorem silent_of_blankOut {passage : Passage} {text after : List Char}
    (h : passage.masked = text.map blankOut) : Silent [passage] after := by
  refine silent_of_notName fun c hc => ?_
  rw [List.flatMap_cons, List.flatMap_nil, List.append_nil, h] at hc
  obtain ⟨d, -, rfl⟩ := List.mem_map.1 hc
  exact isNameChar_blankOut

theorem flatMap_masked_plain (text : List Char) :
    (text.map Passage.plain).flatMap Passage.masked = text := by
  induction text with
  | nil => rfl
  | cons c text ih =>
    rw [List.map_cons, List.flatMap_cons, ih, Passage.masked, List.singleton_append]

/-- Characters that open neither a comment nor a string are passages by themselves. -/
theorem stretch_plain {front after : List Char} (hne : front ≠ []) (hsign : '#' ∉ front)
    (hquote : '"' ∉ front) : Stretch (front ++ after) front after (front.map .plain) where
  text_eq := rfl
  nonempty := hne
  length_eq := by rw [flatMap_masked_plain]
  reads := Reads.append_plain front hsign hquote

/-- A single character that starts no name. -/
theorem exists_stretch_of_char {c : Char} (hsign : c ≠ '#') (hquote : c ≠ '"')
    (hname : isNameChar c = false) (rest : List Char) :
    Stretch (c :: rest) [c] rest [.plain c] ∧ Silent [.plain c] rest := by
  have hstretch : Stretch ([c] ++ rest) [c] rest ([c].map .plain) :=
    stretch_plain (List.cons_ne_nil _ _) (by simpa using Ne.symm hsign)
      (by simpa using Ne.symm hquote)
  exact ⟨hstretch, silent_of_notName (by simpa [Passage.masked] using hname)⟩

theorem stretch_comment (rest : List Char) :
    Stretch ('#' :: rest) ('#' :: rest.takeWhile fun d => !isBreak d)
      (rest.dropWhile fun d => !isBreak d) [.comment (rest.takeWhile fun d => !isBreak d)] where
  text_eq := by rw [List.cons_append, List.takeWhile_append_dropWhile]
  nonempty := List.cons_ne_nil _ _
  length_eq := by simp [Passage.masked, Passage.text]
  reads := by
    intro more hmore
    have hline : ∀ c ∈ rest.takeWhile fun d => !isBreak d, isBreak c = false := by
      intro c hc
      simpa using List.mem_takeWhile_imp hc
    have hends : ∀ c, (rest.dropWhile fun d => !isBreak d).head? = some c → isBreak c = true := by
      intro c hc
      have hstop := List.head?_dropWhile_not (fun d => !isBreak d) rest
      rw [hc] at hstop
      simpa using hstop
    have hcomment := Reads.comment hline hends hmore
    rwa [Passage.text, List.cons_append, List.takeWhile_append_dropWhile] at hcomment

theorem isNameChar_eq_false_of_isIgnored {c : Char} (h : isIgnored c = true) :
    isNameChar c = false ∧ c ≠ '#' ∧ c ≠ '"' := by
  simp only [isIgnored, isBreak, Bool.or_eq_true, beq_iff_eq, or_assoc] at h
  rcases h with rfl | rfl | rfl | rfl | rfl | rfl <;> decide

theorem isNameChar_eq_false_of_ofChar? {c : Char} {mark : Punct}
    (h : Punct.ofChar? c = some mark) : isNameChar c = false ∧ c ≠ '#' ∧ c ≠ '"' := by
  obtain ⟨front, rest, hsingles, -⟩ := List.lookup_eq_some_iff.1 h
  have hmem : (c, mark) ∈ Punct.singles := by
    rw [hsingles]
    exact List.mem_append_right _ (List.mem_cons_self ..)
  have hall : Punct.singles.all (fun entry => !isNameChar entry.1 && entry.1 != '#' &&
      entry.1 != '"') = true := by decide
  have hentry := List.all_eq_true.1 hall _ hmem
  simp only [Bool.and_eq_true, Bool.not_eq_true', bne_iff_ne] at hentry
  exact ⟨hentry.1.1, hentry.1.2, hentry.2⟩

/-- What is passed between tokens. -/
theorem exists_stretch_of_ignored {c : Char} {rest : List Char} {size : Nat}
    (h : step c rest = .ignored size) :
    ∃ front after passages, Stretch (c :: rest) front after passages ∧ front.length = size ∧
      Silent passages after := by
  rcases ignored_of_step h with ⟨hignored, rfl⟩ | ⟨rfl, rfl⟩
  · obtain ⟨hname, hsign, hquote⟩ := isNameChar_eq_false_of_isIgnored hignored
    obtain ⟨hstretch, hsilent⟩ := exists_stretch_of_char hsign hquote hname rest
    exact ⟨[c], rest, _, hstretch, rfl, hsilent⟩
  · refine ⟨_, _, _, stretch_comment rest, ?_, silent_of_blankOut rfl⟩
    rw [List.length_cons, Nat.add_comm]

/-- What is passed as a string. -/
theorem exists_stretch_of_string {text : List Char} {token : Token} {size : Nat}
    (h : StringStep text token size) :
    (∀ name, token ≠ .name name) ∧
      ∃ front after passages, Stretch text front after passages ∧ front.length = size ∧
        Silent passages after := by
  cases h with
  | @block inner value passed hblock =>
    obtain ⟨content, after, rfl, hcontent, rfl⟩ := exists_block_of_blockText hblock
    refine ⟨by rintro name ⟨⟩, (Passage.block content).text, after, [.block content], ?_, ?_,
      silent_of_blankOut rfl⟩
    · refine ⟨?_, List.cons_ne_nil _ _, ?_, fun hmore => ?_⟩
      · simp [Passage.text, tripleQuote]
      · simp [Passage.masked]
      · have hread := Reads.block hcontent hmore
        rw [Passage.text, List.append_assoc, List.append_assoc] at hread
        exact hread
    · simp only [Passage.text, tripleQuote, List.length_append, List.length_cons,
        List.length_nil]
      omega
  | @quoted rest value passed hnot hquoted =>
    obtain ⟨content, after, rfl, hcontent, rfl⟩ := exists_quoted_of_quotedText hquoted
    refine ⟨by rintro name ⟨⟩, (Passage.quoted content).text, after, [.quoted content], ?_, ?_,
      silent_of_blankOut rfl⟩
    · refine ⟨by simp [Passage.text], List.cons_ne_nil _ _, by simp [Passage.masked],
        fun hmore => ?_⟩
      have hend : content = [] → after.head? ≠ some '"' := by
        rintro rfl hquote
        cases after with
        | nil => exact absurd hquote.symm (Option.some_ne_none _)
        | cons c after =>
          obtain rfl := Option.some.inj hquote
          exact hnot after rfl
      have hread := Reads.quoted hcontent hend hmore
      rw [Passage.text, List.cons_append, List.append_assoc] at hread
      exact hread
    · simp only [Passage.text, List.length_append, List.length_cons, List.length_nil]

/-- What is passed as a number. -/
theorem exists_stretch_of_number {text rest : List Char} {isFloat : Bool} (hne : text ≠ [])
    (h : afterNumber text = .ok (rest, isFloat)) :
    ∃ front passages, Stretch text front rest passages ∧
      front.length = text.length - rest.length ∧ Silent passages rest := by
  obtain ⟨⟨front, rfl, hfront, hquiet, hends, -⟩, hstop⟩ := numberBefore_of_afterNumber h
  have hnonempty : front ≠ [] := by
    rintro rfl
    exact absurd hends Bool.false_ne_true
  refine ⟨front, front.map .plain, stretch_plain hnonempty ?_ ?_, ?_, ?_⟩
  · exact fun hsign => absurd (hfront _ hsign) (by decide)
  · exact fun hquote => absurd (hfront _ hquote) (by decide)
  · rw [List.length_append, Nat.add_sub_cancel]
  · refine ⟨?_, fun _ => hstop⟩
    rw [flatMap_masked_plain]
    exact hquiet

/-- What is passed as a name. -/
theorem stretch_name {c : Char} (h : isNameStart c = true) (rest : List Char) :
    isName (c :: rest.takeWhile isNameChar) = true ∧
      startsWithNameChar (rest.dropWhile isNameChar) = false ∧
        Stretch (c :: rest) (c :: rest.takeWhile isNameChar) (rest.dropWhile isNameChar)
          ((c :: rest.takeWhile isNameChar).map .plain) := by
  have hchars : isName (c :: rest.takeWhile isNameChar) = true := by
    rw [isName, h, Bool.true_and, List.all_eq_true]
    exact fun d hd => List.mem_takeWhile_imp hd
  have hnot {d : Char} (hd : isNameChar d = false) : d ∉ c :: rest.takeWhile isNameChar :=
    fun hmem => absurd (hd.symm.trans (forall_isNameChar_of_isName hchars d hmem))
      Bool.false_ne_true
  have hstretch : Stretch ((c :: rest.takeWhile isNameChar) ++ rest.dropWhile isNameChar)
      (c :: rest.takeWhile isNameChar) (rest.dropWhile isNameChar)
      ((c :: rest.takeWhile isNameChar).map .plain) :=
    stretch_plain (List.cons_ne_nil _ _) (hnot (by decide)) (hnot (by decide))
  rw [List.cons_append, List.takeWhile_append_dropWhile] at hstretch
  refine ⟨hchars, ?_, hstretch⟩
  have hstop := List.head?_dropWhile_not isNameChar rest
  cases hafter : rest.dropWhile isNameChar with
  | nil => rfl
  | cons d after =>
    rw [hafter] at hstop
    exact hstop

theorem stretch_spread (rest : List Char) :
    Stretch ('.' :: '.' :: '.' :: rest) ['.', '.', '.'] rest (['.', '.', '.'].map .plain) ∧
      Silent (['.', '.', '.'].map .plain) rest := by
  have hsign : '#' ∉ ['.', '.', '.'] := by decide
  have hquote : '"' ∉ ['.', '.', '.'] := by decide
  refine ⟨stretch_plain (List.cons_ne_nil _ _) hsign hquote, silent_of_notName ?_⟩
  rw [flatMap_masked_plain]
  exact List.forall_mem_cons.2 ⟨by decide, List.forall_mem_cons.2
    ⟨by decide, List.forall_mem_singleton.2 (by decide)⟩⟩

/-- What is passed as a token: a name, or what shows no name. -/
theorem exists_stretch_of_token {c : Char} {rest : List Char} {token : Token} {size : Nat}
    (h : step c rest = .token token size) :
    ∃ front after passages, Stretch (c :: rest) front after passages ∧ front.length = size ∧
      ((token = .name (String.ofList front) ∧ isName front = true ∧
          startsWithNameChar after = false ∧ passages = front.map .plain) ∨
        ((∀ name, token ≠ .name name) ∧ Silent passages after)) := by
  cases tokenStep_of_step h with
  | string hread =>
    obtain ⟨hkind, front, after, passages, hstretch, hsize, hsilent⟩ :=
      exists_stretch_of_string hread
    exact ⟨front, after, passages, hstretch, hsize, .inr ⟨hkind, hsilent⟩⟩
  | punct hmark =>
    obtain ⟨hname, hsign, hquote⟩ := isNameChar_eq_false_of_ofChar? hmark
    obtain ⟨hstretch, hsilent⟩ := exists_stretch_of_char hsign hquote hname rest
    exact ⟨[c], rest, _, hstretch, rfl, .inr ⟨by rintro name ⟨⟩, hsilent⟩⟩
  | @number _ after _ _ hne hread =>
    obtain ⟨front, passages, hstretch, hsize, hsilent⟩ := exists_stretch_of_number hne hread
    refine ⟨front, after, passages, hstretch, hsize, .inr ⟨?_, hsilent⟩⟩
    split <;> rintro name ⟨⟩
  | name hstart =>
    obtain ⟨hname, hends, hstretch⟩ := stretch_name hstart rest
    exact ⟨_, _, _, hstretch, rfl, .inl ⟨rfl, hname, hends, rfl⟩⟩
  | @spread after =>
    obtain ⟨hstretch, hsilent⟩ := stretch_spread after
    exact ⟨_, _, _, hstretch, rfl, .inr ⟨by rintro name ⟨⟩, hsilent⟩⟩

/-! ## The words of a text -/

/-- The words among tokens, where `shown` is the masked text.  What stands between two names is
told with line feeds for line ends. -/
def wordsAmong (shown : List Char) : List Lexeme → List Word
  | [] => []
  | lexeme :: rest =>
    let more := wordsAmong shown rest
    match lexeme.token with
    | .name name =>
      let start := lexeme.offset + name.toList.length
      let stop := (more.head?.map fun next => next.lexeme.offset).getD shown.length
      ⟨lexeme, name.toList, unifyBreaks ((shown.take stop).drop start)⟩ :: more
    | _ => more

/-- The words of a text. -/
def Word.all (text : List Char) : List Word := wordsAmong (mask text) (lexemes text)

/-! ## Tokens one after the other -/

theorem lexemesFrom_append (front rest : List Char) (offset line : Nat) :
    ∃ line', lexemesFrom front.length offset line (front ++ rest) =
      lexemesFrom 0 (offset + front.length) line' rest := by
  induction front generalizing offset line with
  | nil => exact ⟨line, rfl⟩
  | cons c front ih =>
    obtain ⟨line', hline⟩ := ih (offset + 1) (if endsLine c (front ++ rest) then line + 1 else line)
    refine ⟨line', ?_⟩
    rw [List.cons_append, List.length_cons, lexemesFrom, hline, Nat.add_right_comm, Nat.add_assoc]

/-- After what a step passes, the tokens are those of the rest. -/
theorem lexemesFrom_of_stretch {c : Char} {rest front after : List Char}
    {passages : List Passage} (h : Stretch (c :: rest) front after passages) (offset line : Nat) :
    ∃ line', lexemesFrom (front.length - 1) (offset + 1)
        (if endsLine c rest then line + 1 else line) rest =
      lexemesFrom 0 (offset + front.length) line' after := by
  obtain ⟨heq, hne, -, -⟩ := h
  cases front with
  | nil => exact absurd rfl hne
  | cons d front =>
    rw [List.cons_append, List.cons.injEq] at heq
    obtain ⟨rfl, rfl⟩ := heq
    obtain ⟨line', hline⟩ := lexemesFrom_append front after (offset + 1)
      (if endsLine c (front ++ after) then line + 1 else line)
    refine ⟨line', ?_⟩
    rw [List.length_cons, Nat.add_sub_cancel, hline, Nat.add_right_comm, Nat.add_assoc]

/-! ## The masked text of the words -/

/-- Every word stands in the masked text where its token does. -/
def WordsStand (shown : List Char) (words : List Word) : Prop :=
  ∀ word more, word :: more <:+ words →
    wordsText (word :: more) = unifyBreaks (shown.drop word.lexeme.offset) ∧
      (shown.drop word.lexeme.offset).head? ≠ some '\n'

/-- A masked text as its words: what comes before the first of them, and the words.  The text
has the tokens, and `front` is shown before it. -/
structure Sighting (front text : List Char) (tokens : List Lexeme) (gap rest : List Char) :
    Prop where
  reads : ∃ passages, Reads text passages
  shown : mask text = gap ++ rest
  quiet : isQuiet false gap = true
  apart : rest ≠ [] → endsInName false gap = false
  starts : ∀ c, rest.head? = some c → isNameStart c = true
  wordsText_eq : wordsText (wordsAmong (front ++ mask text) tokens) = unifyBreaks rest
  worded : Worded (wordsAmong (front ++ mask text) tokens)
  stop : ((wordsAmong (front ++ mask text) tokens).head?.map fun next => next.lexeme.offset).getD
    (front ++ mask text).length = front.length + gap.length
  placed : WordsStand (front ++ mask text) (wordsAmong (front ++ mask text) tokens)

/-- A name character is shown where it stands. -/
theorem head?_of_head?_mask {text : List Char} {c : Char} (hc : isNameChar c = true)
    (h : (mask text).head? = some c) : text.head? = some c := by
  have hspace : ' ' ∉ [c] := by
    rw [List.mem_singleton]
    rintro rfl
    exact absurd hc (by decide)
  have hshown := List.singleton_prefix_iff_head?_eq_some.2 h
  exact List.singleton_prefix_iff_head?_eq_some.1
    (prefix_of_shows hspace hshown (forall₂_shows_mask text))

theorem Stretch.mask_eq {text front after : List Char} {passages more : List Passage}
    (h : Stretch text front after passages) (hmore : Reads after more) :
    mask text = passages.flatMap Passage.masked ++ mask after := by
  rw [mask_of_reads (h.reads hmore), mask_of_reads hmore, List.flatMap_append]

/-- What shows no name comes before the first word. -/
theorem Sighting.skip {before text front after : List Char} {passages : List Passage}
    {tokens : List Lexeme} {gap rest : List Char} (h : Stretch text front after passages)
    (hsilent : Silent passages after)
    (hafter : Sighting (before ++ passages.flatMap Passage.masked) after tokens gap rest) :
    Sighting before text tokens (passages.flatMap Passage.masked ++ gap) rest := by
  obtain ⟨more, hmore⟩ := hafter.reads
  have hmask := h.mask_eq hmore
  have hshown : before ++ mask text =
      (before ++ passages.flatMap Passage.masked) ++ mask after := by
    rw [hmask, List.append_assoc]
  refine ⟨⟨_, h.reads hmore⟩, ?_, ?_, ?_, hafter.starts, ?_, ?_, ?_, ?_⟩
  · rw [hmask, hafter.shown, List.append_assoc]
  · rw [isQuiet_append, hsilent.1, isQuiet_of_isQuiet_false hafter.quiet, Bool.true_and]
  · intro hrest
    rw [endsInName_append]
    by_cases hgap : gap = []
    · rw [hgap, endsInName_nil]
      -- a name would go on into the first word
      cases hends : endsInName false (passages.flatMap Passage.masked) with
      | false => rfl
      | true =>
        obtain ⟨c, tail, rfl⟩ := List.exists_cons_of_ne_nil hrest
        have hc : isNameStart c = true := hafter.starts c rfl
        have hhead : after.head? = some c :=
          head?_of_head?_mask (isNameChar_of_isNameStart hc) (by rw [hafter.shown, hgap]; rfl)
        exact absurd ((hsilent.2 hends c hhead).symm.trans hc) nofun
    · rw [endsInName_congr hgap _ false, hafter.apart hrest]
  · rw [hshown, hafter.wordsText_eq]
  · rw [hshown]
    exact hafter.worded
  · rw [hshown, hafter.stop, List.length_append, List.length_append, Nat.add_assoc]
  · rw [hshown]
    exact hafter.placed

theorem startsWithNameChar_unifyBreaks (text : List Char) :
    startsWithNameChar (unifyBreaks text) = startsWithNameChar text := by
  cases text with
  | nil => rfl
  | cons c rest =>
    by_cases hc : c = '\r'
    · subst hc
      have hhead := head?_unifyBreaks_return rest
      cases htext : unifyBreaks ('\r' :: rest) with
      | nil => rfl
      | cons d more =>
        rw [htext] at hhead
        rw [Option.some.inj hhead]
        rfl
    · rw [unifyBreaks_cons hc]
      rfl

namespace Sighting

variable {before after : List Char} {tokens : List Lexeme} {gap rest : List Char}

theorem rest_ne_nil (h : Sighting before after tokens gap rest)
    (hwords : wordsAmong (before ++ mask after) tokens ≠ []) : rest ≠ [] := by
  rintro rfl
  exact h.worded.wordsText_ne_nil hwords h.wordsText_eq

/-- No line end is cut where the words start. -/
theorem head?_rest_ne_feed (h : Sighting before after tokens gap rest) :
    rest.head? ≠ some '\n' :=
  fun hfeed => absurd (h.starts '\n' hfeed) (by decide)

/-- What starts with no name character shows none at its start. -/
theorem startsWithNameChar_eq (h : Sighting before after tokens gap rest)
    (hends : startsWithNameChar after = false) : startsWithNameChar (gap ++ rest) = false := by
  rw [← h.shown]
  cases hshows : mask after with
  | nil => rfl
  | cons d shown =>
    cases hd : isNameChar d with
    | false => exact hd
    | true =>
      have hthere : after.head? = some d := head?_of_head?_mask hd (by rw [hshows]; rfl)
      cases after with
      | nil => exact absurd hthere.symm (Option.some_ne_none _)
      | cons e after =>
        obtain rfl := Option.some.inj hthere
        exact absurd (hends.symm.trans hd) Bool.false_ne_true

/-- Something stands between a name and the next word. -/
theorem gap_ne_nil (h : Sighting before after tokens gap rest)
    (hends : startsWithNameChar after = false) (hrest : rest ≠ []) : gap ≠ [] := by
  rintro rfl
  obtain ⟨c, tail, rfl⟩ := List.exists_cons_of_ne_nil hrest
  have hc := isNameChar_of_isNameStart (h.starts c rfl)
  exact absurd ((h.startsWithNameChar_eq hends).symm.trans hc) Bool.false_ne_true

/-- Tokens with the same words are sighted alike. -/
theorem congr {others : List Lexeme} (h : Sighting before after tokens gap rest)
    (hwords : ∀ shown, wordsAmong shown others = wordsAmong shown tokens) :
    Sighting before after others gap rest where
  reads := h.reads
  shown := h.shown
  quiet := h.quiet
  apart := h.apart
  starts := h.starts
  wordsText_eq := by rw [hwords, h.wordsText_eq]
  worded := by
    rw [hwords]
    exact h.worded
  stop := by rw [hwords, h.stop]
  placed := by
    rw [hwords]
    exact h.placed

/-- What a name is followed by, up to the next word, is what comes before that. -/
theorem wordsAmong_cons {front : List Char} {lexeme : Lexeme}
    (h : Sighting (before ++ front) after tokens gap rest)
    (htoken : lexeme.token = .name (String.ofList front))
    (hoffset : lexeme.offset = before.length) :
    wordsAmong ((before ++ front) ++ mask after) (lexeme :: tokens) =
      ⟨lexeme, front, unifyBreaks gap⟩ :: wordsAmong ((before ++ front) ++ mask after) tokens := by
  rw [wordsAmong, htoken]
  dsimp only
  rw [String.toList_ofList, h.stop, hoffset, ← List.length_append, h.shown, ← List.append_assoc,
    ← List.length_append, List.take_left, List.drop_left]

end Sighting

/-- A name comes before what was sighted after it. -/
theorem Sighting.name {before after front : List Char} {lexeme : Lexeme} {tokens : List Lexeme}
    {gap rest : List Char} (hname : isName front = true)
    (hstretch : Stretch (front ++ after) front after (front.map .plain))
    (hends : startsWithNameChar after = false) (htoken : lexeme.token = .name (String.ofList front))
    (hoffset : lexeme.offset = before.length)
    (hafter : Sighting (before ++ front) after tokens gap rest) :
    Sighting before (front ++ after) (lexeme :: tokens) [] (front ++ (gap ++ rest)) := by
  obtain ⟨more, hmore⟩ := hafter.reads
  have hmask : mask (front ++ after) = front ++ mask after := by
    rw [hstretch.mask_eq hmore, flatMap_masked_plain]
  have hshown : before ++ mask (front ++ after) = (before ++ front) ++ mask after := by
    rw [hmask, List.append_assoc]
  have hwords : wordsAmong (before ++ mask (front ++ after)) (lexeme :: tokens) =
      ⟨lexeme, front, unifyBreaks gap⟩ ::
        wordsAmong ((before ++ front) ++ mask after) tokens := by
    rw [hshown, hafter.wordsAmong_cons htoken hoffset]
  have hhead (d : Char) (hd : (front ++ (gap ++ rest)).head? = some d) : isNameStart d = true := by
    obtain ⟨c, others, hfront, hc, -⟩ := exists_of_isName hname
    rw [hfront] at hd
    exact Option.some.inj hd ▸ hc
  have hnotReturn : '\r' ∉ front := fun hmem =>
    absurd (forall_isNameChar_of_isName hname _ hmem) (by decide)
  have htext : wordsText (⟨lexeme, front, unifyBreaks gap⟩ ::
      wordsAmong ((before ++ front) ++ mask after) tokens) =
        unifyBreaks (front ++ (gap ++ rest)) := by
    rw [wordsText_cons, hafter.wordsText_eq, unifyBreaks_append_of_notMem hnotReturn,
      unifyBreaks_append_of_head hafter.head?_rest_ne_feed]
  refine ⟨⟨_, hstretch.reads hmore⟩, ?_, rfl, fun _ => rfl, hhead, ?_, ?_, ?_, ?_⟩
  · rw [hmask, hafter.shown, List.nil_append]
  · rw [hwords, htext]
  · rw [hwords]
    refine .cons hname ?_ ?_ ?_ hafter.worded
    · rw [startsWithNameChar_unifyBreaks]
      have hgap := hafter.startsWithNameChar_eq hends
      cases gap with
      | nil => rfl
      | cons => exact hgap
    · exact isQuiet_unifyBreaks (isQuiet_of_isQuiet_false hafter.quiet true)
    · intro hne
      have hrest := hafter.rest_ne_nil hne
      rw [endsInName_unifyBreaks, endsInName_congr (hafter.gap_ne_nil hends hrest) true false,
        hafter.apart hrest]
  · rw [hwords]
    exact hoffset
  · rw [hwords]
    intro word more hsuffix
    rcases List.suffix_cons_iff.1 hsuffix with heq | hsuffix
    · obtain ⟨rfl, rfl⟩ := List.cons.inj heq
      have hdrop : (before ++ mask (front ++ after)).drop lexeme.offset =
          front ++ (gap ++ rest) := by
        rw [hoffset, List.drop_left, hmask, hafter.shown]
      rw [hdrop, htext]
      exact ⟨rfl, fun hfeed => absurd (hhead '\n' hfeed) (by decide)⟩
    · rw [hshown]
      exact hafter.placed word more hsuffix

theorem wordsAmong_of_notName {lexeme : Lexeme} (h : ∀ name, lexeme.token ≠ .name name)
    (shown : List Char) (tokens : List Lexeme) :
    wordsAmong shown (lexeme :: tokens) = wordsAmong shown tokens := by
  rw [wordsAmong]
  cases htoken : lexeme.token with
  | name name => exact absurd htoken (h name)
  | punct | int | float | string | block | invalid | stop => rfl

/-- The masked text of a text without faults is that of its words. -/
theorem exists_sighting (text front : List Char) {offset : Nat} (line : Nat)
    (hoffset : offset = front.length)
    (h : ∀ lexeme ∈ lexemesFrom 0 offset line text, ∀ fault, lexeme.token ≠ .invalid fault) :
    ∃ gap rest, Sighting front text (lexemesFrom 0 offset line text) gap rest := by
  induction hlength : text.length using Nat.strongRecOn generalizing text front offset line with
  | ind length ih =>
  cases text with
  | nil =>
    refine ⟨[], [], ⟨_, .nil⟩, rfl, rfl, nofun, nofun, rfl, .nil, ?_, fun word more hsuffix => ?_⟩
    · simp [lexemesFrom, wordsAmong, mask, maskIn]
    · exact absurd (List.suffix_nil.1 hsuffix) (List.cons_ne_nil _ _)
  | cons c rest =>
    have hshorter {front' after : List Char} {passages : List Passage}
        (hstretch : Stretch (c :: rest) front' after passages) : after.length < length := by
      have hpos := List.length_pos_iff.2 hstretch.nonempty
      have htotal := congrArg List.length hstretch.text_eq
      rw [List.length_append] at htotal
      omega
    cases hstep : step c rest with
    | fault fault after =>
      rw [lexemesFrom, hstep] at h
      exact absurd rfl (h _ (List.mem_singleton_self _) fault)
    | ignored size =>
      obtain ⟨front', after, passages, hstretch, rfl, hsilent⟩ := exists_stretch_of_ignored hstep
      obtain ⟨line', htokens⟩ := lexemesFrom_of_stretch hstretch offset line
      rw [lexemesFrom, hstep] at h ⊢
      dsimp only at h ⊢
      rw [htokens] at h ⊢
      have hstart : offset + front'.length =
          (front ++ passages.flatMap Passage.masked).length := by
        rw [List.length_append, hstretch.length_eq, hoffset]
      obtain ⟨gap, shown, hsighting⟩ := ih _ (hshorter hstretch) after _ line' hstart h rfl
      exact ⟨_, _, hsighting.skip hstretch hsilent⟩
    | token token size =>
      obtain ⟨front', after, passages, hstretch, rfl, hkind⟩ := exists_stretch_of_token hstep
      obtain ⟨line', htokens⟩ := lexemesFrom_of_stretch hstretch offset line
      rw [lexemesFrom, hstep] at h ⊢
      dsimp only at h ⊢
      rw [htokens] at h ⊢
      have hrest := (List.forall_mem_cons.1 h).2
      have hstart : offset + front'.length =
          (front ++ passages.flatMap Passage.masked).length := by
        rw [List.length_append, hstretch.length_eq, hoffset]
      obtain ⟨gap, shown, hsighting⟩ := ih _ (hshorter hstretch) after _ line' hstart hrest rfl
      rcases hkind with ⟨rfl, hname, hends, rfl⟩ | ⟨hnot, hsilent⟩
      · rw [flatMap_masked_plain] at hsighting
        have htext := hstretch.text_eq
        rw [htext] at hstretch ⊢
        exact ⟨_, _, hsighting.name hname hstretch hends rfl hoffset⟩
      · exact ⟨_, _, (hsighting.skip hstretch hsilent).congr fun text =>
          wordsAmong_of_notName hnot text _⟩

end SchemaDrift
