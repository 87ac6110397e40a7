import SchemaDrift.Proofs.Locate.Declarations
import SchemaDrift.Proofs.Text.Names
import SchemaDrift.Sdl.Lexeme

/-!
# The words of a text

Where the names of a text are known, with what stands between them, it can be told from these
what is taken for a declaration.

* `Word`, `Worded` — the names of a text with what stands between them.
* `declares`, `openingsAfter`, `countedOpening` — what is taken for a declaration of a type.
* `markedOpening` — what is taken for the declaration of a directive.
* `gap_eq_of_front` — what comes before a name is all that stands between two names.
-/

namespace SchemaDrift

open Text

/-! ## Names and what stands between them -/

/-- A name of a text, and what the text shows after it up to the next name. -/
structure Word where
  /-- The token that the name is. -/
  lexeme : Sdl.Lexeme
  name : List Char
  gap : List Char
  deriving DecidableEq, Repr

namespace Word

/-- Does only white space stand before the next name? -/
def isJoined (word : Word) : Bool := word.gap.all isBlank

/-- Do just white space and an at sign stand before the next name? -/
def isMarked (word : Word) : Bool :=
  !(word.gap.takeWhile isBlank).isEmpty && skipBlanks word.gap == ['@']

def text (word : Word) : List Char := word.name ++ word.gap

end Word

/-- The text of words in a row. -/
def wordsText (words : List Word) : List Char := words.flatMap Word.text

@[simp] theorem wordsText_nil : wordsText [] = [] := rfl

@[simp] theorem wordsText_cons (word : Word) (rest : List Word) :
    wordsText (word :: rest) = word.name ++ (word.gap ++ wordsText rest) := by
  simp [wordsText, Word.text]

/-! ## What is taken for a declaration -/

/-- Do the words start with the keyword of a type and the name, with only white space between
them? -/
def declares (name : List Char) : List Word → Bool
  | keyword :: declared :: _ =>
      typeKeywords.contains keyword.name && keyword.isJoined && declared.name == name
  | _ => false

/-- What is taken for a declaration of a type. -/
structure Opening where
  /-- The words from the keyword on. -/
  words : List Word
  /-- Does the word `extend` stand before the keyword? -/
  extending : Bool

/-- Do the words start with the word `extend` and a declaration after it? -/
def opensExtension (name : List Char) : List Word → Bool
  | first :: rest => first.name == "extend".toList && first.isJoined && declares name rest
  | [] => false

/-- What is taken for declarations of a type, from after so many words on. -/
def openingsAfter (name : List Char) : Nat → List Word → List Opening
  | _, [] => []
  | taken + 1, _ :: rest => openingsAfter name taken rest
  | 0, word :: rest =>
    if opensExtension name (word :: rest) then ⟨rest, true⟩ :: openingsAfter name 2 rest
    else if declares name (word :: rest) then
      ⟨word :: rest, false⟩ :: openingsAfter name 1 rest
    else openingsAfter name 0 rest

/-- What counts as the declaration of a type: the first that extends no other, or else the
first of all. -/
def countedOpening (name : List Char) (words : List Word) : Option Opening :=
  let found := openingsAfter name 0 words
  (found.find? fun opening => !opening.extending).or found.head?

/-- Do the words start with the keyword of directives and the name after an at sign? -/
def declaresDirective (name : List Char) : List Word → Bool
  | keyword :: declared :: _ =>
      keyword.name == "directive".toList && keyword.isMarked && declared.name == name
  | _ => false

/-- The words from the first declaration of the directive on. -/
def markedOpening (name : List Char) : List Word → Option (List Word)
  | [] => none
  | word :: rest =>
    if declaresDirective name (word :: rest) then some (word :: rest) else markedOpening name rest

/-! ## Where names stand -/

/-- The names in a row of words end where they end in the text, and no name starts in
between. -/
inductive Worded : List Word → Prop where
  | nil : Worded []
  | cons {word : Word} {rest : List Word} (isName : isName word.name = true)
      (ends : startsWithNameChar word.gap = false) (quiet : isQuiet true word.gap = true)
      (apart : rest ≠ [] → endsInName true word.gap = false) (more : Worded rest) :
      Worded (word :: rest)

namespace Worded

variable {word : Word} {rest : List Word}

/-- What follows a name of the text is no name character. -/
theorem startsWithNameChar_gap (h : Worded (word :: rest)) :
    startsWithNameChar (word.gap ++ wordsText rest) = false := by
  cases h with
  | cons _ ends _ apart _ =>
    cases hgap : word.gap with
    | cons c gap => rwa [hgap] at ends
    | nil =>
      by_cases hrest : rest = []
      · rw [hrest]
        rfl
      · rw [hgap] at apart
        exact absurd (apart hrest) Bool.noConfusion

/-- Something stands between two names of the text. -/
theorem gap_ne_nil (h : Worded (word :: rest)) (hrest : rest ≠ []) : word.gap ≠ [] := by
  intro hnil
  cases h with
  | cons _ _ _ apart =>
    have hends := apart hrest
    rw [hnil] at hends
    exact absurd hends Bool.noConfusion

/-- A text of words is empty or starts with a name. -/
theorem head?_wordsText {words : List Word} (h : Worded words) {c : Char}
    (hc : (wordsText words).head? = some c) : isNameStart c = true := by
  cases h with
  | nil => exact absurd hc nofun
  | cons isName =>
    obtain ⟨d, more, hname, hd, -⟩ := exists_of_isName isName
    rw [wordsText_cons, hname] at hc
    exact Option.some.inj hc ▸ hd

theorem isName_of_mem {words : List Word} (h : Worded words) {word : Word} (hword : word ∈ words) :
    isName word.name = true := by
  induction h with
  | nil => exact absurd hword List.not_mem_nil
  | cons isName _ _ _ _ ih =>
    rcases List.mem_cons.1 hword with rfl | hword
    · exact isName
    · exact ih hword

theorem wordsText_ne_nil {words : List Word} (h : Worded words) (hne : words ≠ []) :
    wordsText words ≠ [] := by
  cases h with
  | nil => exact absurd rfl hne
  | cons isName =>
    obtain ⟨c, more, hname, -⟩ := exists_of_isName isName
    rw [wordsText_cons, hname]
    exact List.cons_ne_nil _ _

end Worded

/-! ## Two readings of one text -/

/-- A text starts with one row of name characters. -/
theorem eq_of_nameChars_append {one other after rest : List Char}
    (hone : ∀ c ∈ one, isNameChar c = true) (hother : ∀ c ∈ other, isNameChar c = true)
    (hafter : startsWithNameChar after = false) (hrest : startsWithNameChar rest = false)
    (h : one ++ after = other ++ rest) : one = other ∧ after = rest := by
  induction one generalizing other with
  | nil =>
    cases other with
    | nil => exact ⟨rfl, h⟩
    | cons c other =>
      rw [List.nil_append] at h
      rw [h] at hafter
      exact absurd (hafter.symm.trans (hother c (List.mem_cons_self ..))) nofun
  | cons c one ih =>
    obtain ⟨hc, hone⟩ := List.forall_mem_cons.1 hone
    cases other with
    | nil =>
      rw [List.nil_append] at h
      rw [← h] at hrest
      exact absurd (hrest.symm.trans hc) nofun
    | cons d other =>
      obtain ⟨rfl, hmore⟩ := List.cons.inj h
      obtain ⟨rfl, rfl⟩ := ih hone (List.forall_mem_cons.1 hother).2 hmore
      exact ⟨rfl, rfl⟩

theorem isNameStart_eq_false_of_isBlank {c : Char} (h : isBlank c = true) :
    isNameStart c = false := by
  cases hc : isNameStart c with
  | false => rfl
  | true =>
    exact absurd ((isNameChar_eq_false_of_isBlank h).symm.trans (isNameChar_of_isNameStart hc))
      nofun

/-- What comes before a name is all that stands between a name of the text and the next one. -/
theorem gap_eq_of_front {words : List Word} (hwords : Worded words) {inName : Bool}
    {gap front name after : List Char} (hgap : isQuiet inName gap = true)
    (hfront : ∀ c ∈ front, isNameChar c = false) (hname : isName name = true)
    (hstart : front = [] → inName = false)
    (h : gap ++ wordsText words = front ++ (name ++ after)) :
    gap = front ∧ wordsText words = name ++ after := by
  induction front generalizing inName gap with
  | nil =>
    cases gap with
    | nil => exact ⟨rfl, h⟩
    | cons c gap =>
      obtain ⟨d, more, rfl, hd, -⟩ := exists_of_isName hname
      obtain ⟨rfl, -⟩ := List.cons.inj h
      simp [isQuiet, hstart rfl, hd] at hgap
  | cons b front ih =>
    obtain ⟨hb, hmoreFront⟩ := List.forall_mem_cons.1 hfront
    cases gap with
    | nil =>
      have hhead : (wordsText words).head? = some b := by
        rw [← List.nil_append (wordsText words), h]
        rfl
      exact absurd (hb.symm.trans (isNameChar_of_isNameStart (hwords.head?_wordsText hhead)))
        Bool.false_ne_true
    | cons c gap =>
      obtain ⟨rfl, hmore⟩ := List.cons.inj h
      simp only [isQuiet, Bool.and_eq_true] at hgap
      obtain ⟨rfl, hwords⟩ := ih hgap.2 hmoreFront (fun _ => hb) hmore
      exact ⟨rfl, hwords⟩

end SchemaDrift
