import SchemaDrift.Proofs.Locate.Lexing
import SchemaDrift.Proofs.Locate.Locations
import SchemaDrift.Proofs.Locate.Openings
import SchemaDrift.Proofs.Locate.Places
import SchemaDrift.Proofs.Sdl.Statements
import SchemaDrift.Proofs.Sdl.TokenPlaces
import SchemaDrift.Sdl.Load

/-!
# Where definitions are located

The loader reads a definition from its tokens; the locator takes words of the masked text for
one.  Both tell the same place exactly if the keyword of the definition is the one that counts
among the words.

* `Faultless`, `faultless_of_ofText` — texts without faults, which those of documents are.
* `ChangePath.keyword?` — the keyword that counts.
* `locateIn_of_faultless` — a definition is located at the keyword that counts.
* `OpenedBy` — the keyword that a statement of a document is read from.
* `locate_definition` — when a definition is located at its own keyword.
-/

namespace SchemaDrift

open Sdl Text

/-! ## Texts without faults -/

/-- No token of the text is a fault. -/
def Faultless (text : List Char) : Prop :=
  ∀ lexeme ∈ lexemes text, ∀ fault, lexeme.token ≠ .invalid fault

/-- The statements of a text are read from its tokens. -/
theorem exists_read_of_treeOfText {text : String} {tree : Tree} (h : Tree.ofText text = .ok tree) :
    ∃ read, statementsOf ((lexemes text.toList).map Lexeme.token) = .ok read ∧
      tree = read.map fun placed => ⟨placed.1, offsetOf (lexemes text.toList) placed.2⟩ := by
  unfold Tree.ofText at h
  dsimp only at h
  cases hread : statementsOf ((lexemes text.toList).map Lexeme.token) with
  | ok read =>
    rw [hread] at h
    exact ⟨read, rfl, (Except.ok.inj h).symm⟩
  | error refusal =>
    rw [hread] at h
    exact absurd h nofun

theorem exists_tree_of_ofText {text : String} {document : Document}
    (h : Document.ofText text = .ok document) :
    ∃ tree, Tree.ofText text = .ok tree ∧ tree.document = document := by
  unfold Document.ofText at h
  cases htree : Tree.ofText text with
  | error fault =>
    rw [htree] at h
    exact absurd h nofun
  | ok tree =>
    rw [htree] at h
    exact ⟨tree, rfl, Except.ok.inj h⟩

/-- The statements of the document of a text are those that stand among its tokens. -/
theorem readFrom_of_ofText {text : String} {document : Document}
    (h : Document.ofText text = .ok document) :
    Untroubled ((lexemes text.toList).map Lexeme.token) ∧
      (∃ passed rest, (lexemes text.toList).map Lexeme.token = passed ++ rest ∧
        rest.headD .stop = .stop ∧ ∀ fault, .invalid fault ∉ passed) ∧
      ∀ found, found ∈ document ↔
        ∃ start, ReadFrom ((lexemes text.toList).map Lexeme.token) found start := by
  obtain ⟨tree, htree, rfl⟩ := exists_tree_of_ofText h
  obtain ⟨read, hread, rfl⟩ := exists_read_of_treeOfText htree
  have hdocument : Tree.document (read.map fun placed =>
      ⟨placed.1, offsetOf (lexemes text.toList) placed.2⟩) = read.map Prod.fst := by
    rw [Tree.document, List.map_map]
    rfl
  rw [hdocument]
  exact readFrom_of_statementsOf hread

/-- A text that is read as a document has no faults. -/
theorem faultless_of_ofText {text : String} {document : Document}
    (h : Document.ofText text = .ok document) : Faultless text.toList := by
  obtain ⟨-, ⟨passed, rest, htokens, hstop, hpassed⟩, -⟩ := readFrom_of_ofText h
  obtain ⟨front, last, hlexemes, hfront⟩ := exists_last_lexemesFrom text.toList 0 0 1
  have hall : lexemes text.toList = front ++ [last] := hlexemes
  rw [hall, List.map_append, List.map_singleton] at htokens
  -- the last token is passed, or it is the end of the text
  have hlast : ∀ fault, last.token ≠ .invalid fault := by
    intro fault hfault
    rw [hfault] at htokens
    cases rest with
    | nil =>
      rw [List.append_nil] at htokens
      refine hpassed fault ?_
      rw [← htokens]
      exact List.mem_append_right _ (List.mem_singleton_self _)
    | cons token more =>
      have htoken : token = .stop := hstop
      have hmem : Token.stop ∈ front.map Lexeme.token ++ [.invalid fault] := by
        rw [htokens, htoken]
        exact List.mem_append_right _ (List.mem_cons_self ..)
      rcases List.mem_append.1 hmem with hmem | hmem
      · obtain ⟨lexeme, hlexeme, htoken⟩ := List.mem_map.1 hmem
        exact (hfront lexeme hlexeme).1 htoken
      · exact absurd (List.mem_singleton.1 hmem) nofun
  intro lexeme hlexeme
  rw [hall] at hlexeme
  rcases List.mem_append.1 hlexeme with hlexeme | hlexeme
  · exact (hfront lexeme hlexeme).2
  · rw [List.mem_singleton.1 hlexeme]
    exact hlast

/-! ## Words and tokens -/

section Tokens

variable {shown : List Char} {tokens : List Lexeme}

theorem mem_of_mem_wordsAmong {word : Word} (h : word ∈ wordsAmong shown tokens) :
    word.lexeme ∈ tokens ∧ word.lexeme.token = .name (String.ofList word.name) := by
  induction tokens with
  | nil => exact absurd h List.not_mem_nil
  | cons lexeme tokens ih =>
    have hlater (h : word ∈ wordsAmong shown tokens) : word.lexeme ∈ lexeme :: tokens ∧
        word.lexeme.token = .name (String.ofList word.name) :=
      ⟨List.mem_cons_of_mem _ (ih h).1, (ih h).2⟩
    rw [wordsAmong] at h
    cases htoken : lexeme.token with
    | name name =>
      rw [htoken] at h
      rcases List.mem_cons.1 h with rfl | h
      · exact ⟨List.mem_cons_self .., by rw [htoken, String.ofList_toList]⟩
      · exact hlater h
    | punct | int | float | string | block | invalid | stop =>
      rw [htoken] at h
      exact hlater h

theorem exists_mem_wordsAmong {lexeme : Lexeme} {name : String} (h : lexeme ∈ tokens)
    (hname : lexeme.token = .name name) :
    ∃ word ∈ wordsAmong shown tokens, word.lexeme = lexeme ∧ word.name = name.toList := by
  induction tokens with
  | nil => exact absurd h List.not_mem_nil
  | cons first tokens ih =>
    rw [wordsAmong]
    rcases List.mem_cons.1 h with rfl | h
    · rw [hname]
      exact ⟨_, List.mem_cons_self .., rfl, rfl⟩
    · obtain ⟨word, hword, hfound⟩ := ih h
      cases first.token with
      | name =>
        exact ⟨word, List.mem_cons_of_mem _ hword, hfound⟩
      | punct | int | float | string | block | invalid | stop => exact ⟨word, hword, hfound⟩

end Tokens

/-- The masked text of a text without faults, with line feeds for line ends, is that of its
words. -/
theorem exists_gap {text : List Char} (h : Faultless text) :
    Worded (Word.all text) ∧ WordsStand (mask text) (Word.all text) ∧
      mask (unifyBreaks text) = unifyBreaks (mask text) ∧
      ∃ gap, unifyBreaks (mask text) = gap ++ wordsText (Word.all text) ∧
        isQuiet false gap = true ∧ (Word.all text ≠ [] → endsInName false gap = false) := by
  obtain ⟨gap, rest, hsighting⟩ := exists_sighting text [] 1 rfl h
  have hworded := hsighting.worded
  have hplaced := hsighting.placed
  have htext := hsighting.wordsText_eq
  rw [List.nil_append] at hworded hplaced htext
  obtain ⟨passages, hreads⟩ := hsighting.reads
  refine ⟨hworded, hplaced, mask_unifyBreaks_of_reads hreads, unifyBreaks gap, ?_,
    isQuiet_unifyBreaks hsighting.quiet, fun hwords => ?_⟩
  · rw [hsighting.shown, unifyBreaks_append_of_head hsighting.head?_rest_ne_feed, ← htext]
    rfl
  · rw [endsInName_unifyBreaks]
    exact hsighting.apart (hsighting.rest_ne_nil hwords)

/-! ## Places -/

/-- Line feeds are shown where they stand. -/
theorem head?_eq_feed_of_shows {shown text : List Char} (h : List.Forall₂ Shows shown text) :
    shown.head? = some '\n' ↔ text.head? = some '\n' := by
  cases h with
  | nil => rfl
  | cons hc _ =>
    rw [List.head?_cons, List.head?_cons, Option.some.injEq, Option.some.injEq, ← beq_iff_eq,
      hc.isFeed_eq, beq_iff_eq]

/-- Masking leaves the length of a text, also where its line ends are written as line feeds. -/
theorem length_unifyBreaks_of_shows {shown text : List Char}
    (h : List.Forall₂ Shows shown text) :
    (unifyBreaks shown).length = (unifyBreaks text).length := by
  induction h with
  | nil => rfl
  | @cons b c shown text hc hrest ih =>
    by_cases hreturn : c = '\r'
    · subst hreturn
      obtain rfl : b = '\r' := hc.resolve_right fun hspace => absurd hspace.2 (by decide)
      rw [unifyBreaks_return, unifyBreaks_return]
      simp only [head?_eq_feed_of_shows hrest]
      split
      · exact ih
      · rw [List.length_cons, List.length_cons, ih]
    · have hb : b ≠ '\r' := by
        rcases hc with rfl | ⟨rfl, -⟩
        · exact hreturn
        · decide
      rw [unifyBreaks_cons hb, unifyBreaks_cons hreturn, List.length_cons, List.length_cons, ih]

/-- The offset of a place where the line ends are written as line feeds. -/
def unifiedOffset (text : List Char) (offset : Nat) : Nat := (unifyBreaks (text.take offset)).length

theorem length_unifyBreaks_eq {text : List Char} {offset : Nat}
    (h : (text.drop offset).head? ≠ some '\n') :
    (unifyBreaks text).length =
      unifiedOffset text offset + (unifyBreaks (text.drop offset)).length := by
  conv_lhs => rw [← List.take_append_drop offset text]
  rw [unifyBreaks_append_of_head h, List.length_append, unifiedOffset]

/-- Of two places, the later one stays so. -/
theorem unifiedOffset_lt {text : List Char} {one other : Nat}
    (h : (text.drop one).head? ≠ some '\n') (hlt : one < other) (hother : other ≤ text.length) :
    unifiedOffset text one < unifiedOffset text other := by
  obtain ⟨c, rest, hdrop⟩ := List.exists_cons_of_ne_nil
    (List.ne_nil_of_length_pos (by rw [List.length_drop]; omega) : text.drop one ≠ [])
  have hc : c ≠ '\n' := fun heq => h (by rw [hdrop, heq, List.head?_cons])
  have hsplit : text.take other = text.take one ++ c :: rest.take (other - one - 1) := by
    have hsize : other = one + (other - one - 1 + 1) := by omega
    rw [hsize, List.take_add, hdrop, List.take_succ_cons]
    congr 3
    omega
  have hpos : 0 < (unifyBreaks (c :: rest.take (other - one - 1))).length := by
    refine List.length_pos_iff.2 fun hnil => ?_
    by_cases hreturn : c = '\r'
    · have hhead := head?_unifyBreaks_return (rest.take (other - one - 1))
      rw [← hreturn, hnil] at hhead
      exact absurd hhead nofun
    · rw [unifyBreaks_cons hreturn] at hnil
      exact absurd hnil (List.cons_ne_nil _ _)
  have hhead : (c :: rest.take (other - one - 1)).head? ≠ some '\n' :=
    fun heq => hc (Option.some.inj heq)
  rw [unifiedOffset, unifiedOffset, hsplit, unifyBreaks_append_of_head hhead, List.length_append]
  omega

/-- The location of a token where the loader tells it. -/
def Sdl.Lexeme.location (lexeme : Lexeme) (text : List Char) : Location :=
  ⟨lexeme.line, (Excerpt.around text lexeme.line lexeme.offset).column, .new⟩

/-- A token of a text other than a fault, and other than what starts inside a line end. -/
structure Sdl.Lexeme.PlacedIn (lexeme : Lexeme) (text : List Char) : Prop where
  mem : lexeme ∈ lexemes text
  valid : ∀ fault, lexeme.token ≠ .invalid fault
  notFeed : (text.drop lexeme.offset).head? ≠ some '\n'

namespace Sdl.Lexeme.PlacedIn

variable {text : List Char} {lexeme other : Lexeme}

theorem offset_le (h : lexeme.PlacedIn text) : lexeme.offset ≤ text.length := by
  obtain ⟨passed, after, htext, hoffset, -⟩ := exists_passed_of_mem_lexemesFrom h.mem h.valid
  rw [htext, hoffset, Nat.zero_add, List.length_append]
  exact Nat.le_add_right ..

/-- The line and column of a token are those in the text with line feeds for line ends. -/
theorem location_eq (h : lexeme.PlacedIn text) :
    lexeme.location text =
      ⟨(positionAt (unifiedOffset text lexeme.offset) (unifyBreaks text)).1,
        (positionAt (unifiedOffset text lexeme.offset) (unifyBreaks text)).2, .new⟩ := by
  obtain ⟨passed, after, rfl, hoffset, hline⟩ := exists_passed_of_mem_lexemesFrom h.mem h.valid
  have hhead := h.notFeed
  rw [Nat.zero_add] at hoffset
  rw [hoffset, List.drop_left] at hhead
  rw [lineEnds_append hhead, ← Nat.add_assoc, Nat.add_right_cancel_iff, Nat.add_comm] at hline
  rw [unifiedOffset, hoffset, List.take_left, positionAt_unifyBreaks hhead, Lexeme.location,
    Excerpt.around, hline, hoffset, List.take_left, lastLine, List.length_reverse]

/-- No two tokens have one location. -/
theorem eq_of_location_eq (h : lexeme.PlacedIn text) (hother : other.PlacedIn text)
    (heq : lexeme.location text = other.location text) : lexeme = other := by
  rw [h.location_eq, hother.location_eq, Location.mk.injEq] at heq
  have hunified := positionAt_injOn
    (by rw [length_unifyBreaks_eq h.notFeed]; exact Nat.le_add_right ..)
    (by rw [length_unifyBreaks_eq hother.notFeed]; exact Nat.le_add_right ..)
    (Prod.ext heq.1 heq.2.1)
  have hoffset : lexeme.offset = other.offset := by
    rcases Nat.lt_trichotomy lexeme.offset other.offset with hlt | hsame | hlt
    · exact absurd hunified (Nat.ne_of_lt (unifiedOffset_lt h.notFeed hlt hother.offset_le))
    · exact hsame
    · exact absurd hunified.symm (Nat.ne_of_lt (unifiedOffset_lt hother.notFeed hlt h.offset_le))
  have hnodup : ((lexemes text).map Lexeme.offset).Nodup :=
    List.pairwise_map.2 ((pairwise_offset_lexemesFrom text 0 0 1).imp Nat.ne_of_lt)
  exact List.inj_on_of_nodup_map hnodup h.mem hother.mem hoffset

end Sdl.Lexeme.PlacedIn

/-- Words stand where their tokens do. -/
theorem placed_of_suffix {text : List Char} (h : Faultless text) {word : Word} {more : List Word}
    (hsuffix : word :: more <:+ Word.all text) :
    word.lexeme.PlacedIn text ∧
      (unifyBreaks (mask text)).length - (wordsText (word :: more)).length =
        unifiedOffset text word.lexeme.offset := by
  obtain ⟨-, hplaced, -, -⟩ := exists_gap h
  obtain ⟨htext, hfeed⟩ := hplaced word more hsuffix
  have hmem := (mem_of_mem_wordsAmong (hsuffix.subset (List.mem_cons_self ..))).1
  have hshows := forall₂_shows_mask text
  refine ⟨⟨hmem, h _ hmem, ?_⟩, ?_⟩
  · exact mt (head?_eq_feed_of_shows (List.forall₂_drop word.lexeme.offset hshows)).2 hfeed
  · rw [length_unifyBreaks_eq hfeed, htext, Nat.add_sub_cancel, unifiedOffset, unifiedOffset,
      length_unifyBreaks_of_shows (List.forall₂_take word.lexeme.offset hshows)]

/-- The names among the tokens are words. -/
theorem exists_suffix_of_name {text : List Char} {lexeme : Lexeme} {name : String}
    (h : lexeme ∈ lexemes text) (hname : lexeme.token = .name name) :
    ∃ word more, word :: more <:+ Word.all text ∧ word.lexeme = lexeme ∧
      word.name = name.toList := by
  have hfound : ∃ word ∈ Word.all text, word.lexeme = lexeme ∧ word.name = name.toList :=
    exists_mem_wordsAmong h hname
  obtain ⟨word, hword, hlexeme, htext⟩ := hfound
  obtain ⟨front, more, hsplit⟩ := List.append_of_mem hword
  exact ⟨word, more, ⟨front, hsplit.symm⟩, hlexeme, htext⟩

/-! ## The keyword that counts -/

/-- The words from what counts as the declaration of the type or directive of a path. -/
def ChangePath.opening? (path : ChangePath) (words : List Word) : Option (List Word) :=
  match path with
  | .directive name _ => markedOpening name words
  | .type name _ _ => (countedOpening name words).map Opening.words

/-- The keyword of what counts as the declaration of the type or directive of a path. -/
def ChangePath.keyword? (path : ChangePath) (text : List Char) : Option Lexeme :=
  ((path.opening? (Word.all text)).bind List.head?).map Word.lexeme

theorem exists_suffix_of_opening? {words : List Word} {path : ChangePath} {found : List Word}
    (h : path.opening? words = some found) :
    ∃ word more, found = word :: more ∧ word :: more <:+ words := by
  cases path with
  | directive name => exact exists_suffix_of_markedOpening h
  | type name =>
    obtain ⟨opening, hcounted, rfl⟩ := Option.map_eq_some_iff.1 h
    rcases Option.or_eq_some_iff.1 hcounted with hfirst | ⟨-, hfirst⟩
    · exact exists_suffix_of_mem_openingsAfter (List.mem_of_find?_eq_some hfirst)
    · exact exists_suffix_of_mem_openingsAfter (List.mem_of_mem_head? hfirst)

theorem placed_of_keyword? {text : List Char} (h : Faultless text) {path : ChangePath}
    {keyword : Lexeme} (hkeyword : path.keyword? text = some keyword) : keyword.PlacedIn text := by
  obtain ⟨first, hfirst, rfl⟩ := Option.map_eq_some_iff.1 hkeyword
  obtain ⟨found, hfound, hfirst⟩ := Option.bind_eq_some_iff.1 hfirst
  obtain ⟨word, more, rfl, hsuffix⟩ := exists_suffix_of_opening? hfound
  obtain rfl := Option.some.inj hfirst
  exact (placed_of_suffix h hsuffix).1

/-- A path that names a type or a directive, and no part of it. -/
inductive ChangePath.NamesDefinition : ChangePath → Prop where
  | directive {name : List Char} (isName : isName name = true) :
      NamesDefinition (.directive name [])
  | type {name : List Char} (isName : isName name = true) : NamesDefinition (.type name [] [])

theorem offsetIn_wordsText {path : ChangePath} (h : path.NamesDefinition) {words : List Word}
    (hwords : Worded words) {gap : List Char} (hgap : isQuiet false gap = true)
    (hends : words ≠ [] → endsInName false gap = false) :
    path.offsetIn (gap ++ wordsText words) = (path.opening? words).map fun found =>
      (gap ++ wordsText words).length - (wordsText found).length := by
  cases h with
  | directive hname => exact findDirective_wordsText hname hwords hgap hends
  | type hname =>
    rw [ChangePath.opening?, Option.map_map]
    exact findType_wordsText hname hwords hgap hends

/-- **A definition is located at the keyword that counts.** -/
theorem locateIn_of_faultless {source : String} (h : Faultless source.toList) {path : ChangePath}
    (hpath : path.NamesDefinition) :
    path.locateIn .new (some source) =
      (path.keyword? source.toList).map fun keyword => keyword.location source.toList := by
  obtain ⟨hworded, -, hmask, gap, hgap, hquiet, hends⟩ := exists_gap h
  have hoffset : path.offsetIn (maskedSource source) =
      (path.opening? (Word.all source.toList)).map fun found =>
        (maskedSource source).length - (wordsText found).length := by
    rw [maskedSource, hmask, hgap]
    exact offsetIn_wordsText hpath hworded hquiet hends
  rw [ChangePath.locateIn, ChangePath.keyword?, Option.bind_eq_bind, Option.bind_some]
  dsimp only
  rw [hoffset]
  cases hfound : path.opening? (Word.all source.toList) with
  | none => rfl
  | some found =>
    obtain ⟨word, more, rfl, hsuffix⟩ := exists_suffix_of_opening? hfound
    obtain ⟨hplaced, hstart⟩ := placed_of_suffix h hsuffix
    rw [← hmask] at hstart
    have hposition : positionAt ((maskedSource source).length - (wordsText (word :: more)).length)
        (maskedSource source) =
          positionAt (unifiedOffset source.toList word.lexeme.offset)
            (unifyBreaks source.toList) := by
      rw [maskedSource, hstart, positionAt_mask]
    simp only [Option.map_some, Option.bind_some, Option.bind_eq_bind, List.head?_cons,
      hplaced.location_eq, hposition]
    rfl

/-! ## The keywords of definitions -/

/-- The keyword in a text of what counts as the declaration of a path. -/
def countedKeyword (text path : String) : Option Lexeme :=
  (ChangePath.ofText? path.toList).bind fun parts => parts.keyword? text.toList

/-- The tokens of a text. -/
def tokensOf (text : String) : List Token := (lexemes text.toList).map Lexeme.token

/-- A statement is read from the text, and the token is the first one of it after its
description. -/
def OpenedBy (text : String) (found : Statement) (keyword : Lexeme) : Prop :=
  ∃ start, ReadFrom (tokensOf text) found start ∧
    lexemeAt? (lexemes text.toList) (undescribed start).length = some keyword

/-- The words that definitions of types and directives start with. -/
def Sdl.Token.opensDefinition : Token → Bool
  | .name word => word == "directive" || typeWords.contains word
  | _ => false

namespace Sdl.Introduces

variable {tokens : List Token} {key : String}

/-- A definition starts with its keyword. -/
theorem exists_keyword (h : Introduces tokens key) :
    ∃ word more, tokens = .name word :: more ∧ (Token.name word).opensDefinition = true := by
  cases h with
  | type hword name more =>
    refine ⟨_, _, rfl, ?_⟩
    rw [Token.opensDefinition, List.contains_iff_mem.2 hword, Bool.or_true]
  | directive name more => exact ⟨_, _, rfl, rfl⟩

/-- What a definition defines is told by a path. -/
theorem exists_path (h : Introduces tokens key)
    (hnames : ∀ name, .name name ∈ tokens → isName name.toList = true) :
    ∃ path, ChangePath.ofText? key.toList = some path ∧ path.NamesDefinition := by
  cases h with
  | type hword name more =>
    have hname : isName key.toList = true := hnames key (by simp)
    exact ⟨_, ofText?_type hname, .type hname⟩
  | directive name more =>
    have hname : isName name.toList = true := hnames name (by simp)
    refine ⟨_, ?_, .directive hname⟩
    rw [String.toList_append]
    exact ofText?_directive hname

end Sdl.Introduces

section Definitions

variable {text : String} {document : Document} {found : Statement} {key : String}

/-- Names among the tokens are names. -/
theorem isName_of_mem_tokensOf (h : Faultless text.toList) {name : String}
    (hname : .name name ∈ tokensOf text) : isName name.toList = true := by
  obtain ⟨lexeme, hlexeme, htoken⟩ := List.mem_map.1 hname
  obtain ⟨word, more, hsuffix, -, hword⟩ := exists_suffix_of_name hlexeme htoken
  rw [← hword]
  exact (exists_gap h).1.isName_of_mem (hsuffix.subset (List.mem_cons_self ..))

/-- What a statement of a document is read from is the end of the tokens. -/
theorem undescribed_suffix_tokensOf (h : Document.ofText text = .ok document)
    {start : List Token} (hstart : ReadFrom (tokensOf text) found start) :
    undescribed start <:+ tokensOf text := by
  obtain ⟨huntroubled, -, -⟩ := readFrom_of_ofText h
  obtain ⟨passed, htokens⟩ := hstart.advances huntroubled
  exact (undescribed_suffix start).trans ⟨passed, htokens.symm⟩

theorem introduces_of_readFrom (hkey : found.key? = some key) {tokens start : List Token}
    (hstart : ReadFrom tokens found start) : Introduces (undescribed start) key := by
  obtain ⟨rest, hread⟩ := hstart.exists_statement
  exact introduces_of_statement hread hkey

/-- The keyword of a definition is a token of the text. -/
theorem exists_keyword_of_readFrom (h : Document.ofText text = .ok document)
    (hkey : found.key? = some key) {start : List Token}
    (hstart : ReadFrom (tokensOf text) found start) :
    ∃ keyword, lexemeAt? (lexemes text.toList) (undescribed start).length = some keyword ∧
      keyword.PlacedIn text.toList ∧ keyword.token.opensDefinition = true := by
  obtain ⟨word, more, hword, hopens⟩ := (introduces_of_readFrom hkey hstart).exists_keyword
  obtain ⟨passed, htokens⟩ := undescribed_suffix_tokensOf h hstart
  rw [hword] at htokens
  obtain ⟨keyword, hmem, hspot, htoken⟩ := exists_lexemeAt? htokens.symm
  obtain ⟨found, others, hsuffix, rfl, -⟩ := exists_suffix_of_name hmem htoken
  rw [hword]
  exact ⟨_, hspot, (placed_of_suffix (faultless_of_ofText h) hsuffix).1, htoken ▸ hopens⟩

/-- A definition is located at a token of the new text exactly if that is the keyword that
counts there. -/
theorem locate_eq_location_iff {path : ChangePath}
    (hpath : ChangePath.ofText? key.toList = some path) (hnames : path.NamesDefinition)
    (h : Faultless text.toList) {keyword : Lexeme} (hplaced : keyword.PlacedIn text.toList)
    (old : Option String) :
    (⟨old, some text⟩ : Sources).locate key = keyword.location text.toList ↔
      countedKeyword text key = some keyword := by
  have hlocate : (⟨old, some text⟩ : Sources).locate key =
      ((path.locateIn .new (some text)).or (path.locateIn .old old)).getD .fallback := by
    rw [Sources.locate, hpath]
  have hcounted : countedKeyword text key = path.keyword? text.toList := by
    rw [countedKeyword, hpath, Option.bind_some]
  rw [hlocate, hcounted, locateIn_of_faultless h hnames]
  cases hkeyword : path.keyword? text.toList with
  | some other =>
    have hother : other.PlacedIn text.toList := placed_of_keyword? h hkeyword
    rw [Option.map_some, Option.some_or, Option.getD_some, Option.some.injEq]
    exact ⟨hother.eq_of_location_eq hplaced, fun heq => by rw [heq]⟩
  | none =>
    -- what is found elsewhere is told to be found there
    have helse : (((path.locateIn .old old).getD .fallback).origin) ≠ .new := by
      cases hold : path.locateIn .old old with
      | none => decide
      | some location =>
        rw [Option.getD_some, (ChangePath.namedAt_of_locateIn hold).1]
        decide
    rw [Option.map_none, Option.none_or]
    refine iff_of_false (fun heq => helse ?_) (Option.some_ne_none _).symm
    rw [heq]
    rfl

/-- **A definition is located at its own keyword exactly if that is the keyword that counts.**
For every text that is read as a document, every type or directive that it defines, and every
old text. -/
theorem locate_definition (h : Document.ofText text = .ok document) (hfound : found ∈ document)
    (hkey : found.key? = some key) (old : Option String) :
    (∃ keyword, OpenedBy text found keyword) ∧
      ∀ keyword, OpenedBy text found keyword → keyword.token.opensDefinition = true ∧
        ((⟨old, some text⟩ : Sources).locate key = keyword.location text.toList ↔
          countedKeyword text key = some keyword) := by
  obtain ⟨-, -, hdocument⟩ := readFrom_of_ofText h
  have hfaultless := faultless_of_ofText h
  constructor
  · obtain ⟨start, hstart⟩ := (hdocument found).1 hfound
    obtain ⟨keyword, hspot, -, -⟩ := exists_keyword_of_readFrom h hkey hstart
    exact ⟨keyword, start, hstart, hspot⟩
  · rintro keyword ⟨start, hstart, hspot⟩
    obtain ⟨other, hother, hplaced, hopens⟩ := exists_keyword_of_readFrom h hkey hstart
    obtain rfl := Option.some.inj (hspot.symm.trans hother)
    obtain ⟨path, hpath, hnames⟩ :=
      (introduces_of_readFrom hkey hstart).exists_path fun name hname =>
        isName_of_mem_tokensOf hfaultless ((undescribed_suffix_tokensOf h hstart).subset hname)
    exact ⟨hopens, locate_eq_location_iff hpath hnames hfaultless hplaced old⟩

end Definitions

/-- A definition with a description, after an extension. -/
def describedText : String :=
  "extend type Pet \x7b\n  age: Int\n\x7d\n\n\"type Pet\"\ntype Pet \x7b\n  name: String\n\x7d\n"

/-- The definition is located past its extension and its description. -/
theorem described_type_located :
    ∃ document found keyword, Document.ofText describedText = .ok document ∧ found ∈ document ∧
      found.key? = some "Pet" ∧ OpenedBy describedText found keyword ∧
        (⟨none, some describedText⟩ : Sources).locate "Pet" =
          keyword.location describedText.toList := by
  have hread : Document.ofText describedText = .ok _ := rfl
  have hopened : OpenedBy describedText _ _ := ⟨_, .later rfl (.first rfl), rfl⟩
  have hlocated := (locate_definition hread (List.mem_cons_of_mem _ (List.mem_cons_self ..)) rfl
    none).2 _ hopened
  exact ⟨_, _, _, hread, List.mem_cons_of_mem _ (List.mem_cons_self ..), rfl, hopened,
    hlocated.2.2 rfl⟩

/-- An enum with values that read like the definition of a type, and that definition. -/
def decoyText : String :=
  "enum Kind \x7b\n  type\n  Pet\n\x7d\n\ntype Pet \x7b\n  name: String\n\x7d\n"

/-- The values of an enum are taken for the definition of a type, though the text is one that is
loaded and the type is defined after it. -/
theorem enum_values_taken_for_definition :
    (∃ types, TypeMap.load decoyText = .ok types) ∧
      ∃ document found keyword, Document.ofText decoyText = .ok document ∧ found ∈ document ∧
        found.key? = some "Pet" ∧ OpenedBy decoyText found keyword ∧
          keyword.location decoyText.toList = ⟨6, 1, .new⟩ ∧
            (⟨none, some decoyText⟩ : Sources).locate "Pet" = ⟨2, 3, .new⟩ :=
  ⟨⟨_, rfl⟩, _, _, _, rfl, List.mem_cons_of_mem _ (List.mem_cons_self ..), rfl,
    ⟨_, .later rfl (.first rfl), rfl⟩, rfl, rfl⟩

end SchemaDrift
