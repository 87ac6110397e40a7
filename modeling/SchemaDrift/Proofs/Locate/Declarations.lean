import Mathlib.Data.List.TakeWhile
import Mathlib.Logic.Basic
import SchemaDrift.Locate.Locator

/-!
# Declarations of a masked text

A declaration of a name is a keyword, white space and the name, with no name character just
before or after.

* `DeclaredAt` — a declaration stands at an offset of a text.
* `findType_eq_none_iff`, `findDirective_eq_none_iff` — nothing is found exactly if there is
  no declaration.
* `declaredAt_findType`, `declaredAt_findDirective` — what is found is a declaration.
-/

namespace SchemaDrift

open Text

/-! ## White space and names -/

theorem toNat_of_isNameChar {c : Char} (h : isNameChar c = true) :
    48 ≤ c.toNat ∧ c.toNat ≤ 122 := by
  simp only [isNameChar, isNameStart, isLetter, isDigit, Bool.or_eq_true, Bool.and_eq_true,
    decide_eq_true_eq, beq_iff_eq, Char.le_def, UInt32.le_iff_toNat_le, or_assoc] at h
  change (97 ≤ c.toNat ∧ c.toNat ≤ 122) ∨ (65 ≤ c.toNat ∧ c.toNat ≤ 90) ∨ c = '_' ∨
    (48 ≤ c.toNat ∧ c.toNat ≤ 57) at h
  rcases h with h | h | rfl | h
  · omega
  · omega
  · decide
  · omega

theorem isNameChar_eq_false_of_isBlank {c : Char} (h : isBlank c = true) :
    isNameChar c = false := by
  cases hc : isNameChar c with
  | false => rfl
  | true =>
    have hrange := toNat_of_isNameChar hc
    simp only [isBlank, blankRanges, List.any_cons, List.any_nil, Bool.or_eq_true,
      Bool.and_eq_true, decide_eq_true_eq, Bool.false_eq_true, or_false] at h
    omega

/-- Is a name character the last of the text? -/
def endsWithNameChar (text : List Char) : Bool := (text.getLast?.map isNameChar).getD false

theorem endsWithNameChar_append_singleton (front : List Char) (c : Char) :
    endsWithNameChar (front ++ [c]) = isNameChar c := by
  rw [endsWithNameChar, List.getLast?_concat]
  rfl

theorem endsWithNameChar_append {front last : List Char} (h : last ≠ []) :
    endsWithNameChar (front ++ last) = endsWithNameChar last := by
  have hlast : (front ++ last).getLast? = last.getLast? := by
    rw [List.getLast?_append, List.getLast?_eq_some_getLast h, Option.some_or]
  rw [endsWithNameChar, hlast, endsWithNameChar]

theorem endsWithNameChar_of_blanks {blanks : List Char} (h : ∀ c ∈ blanks, isBlank c = true) :
    endsWithNameChar blanks = false := by
  cases hlast : blanks.getLast? with
  | none => rw [endsWithNameChar, hlast]; rfl
  | some c =>
    rw [endsWithNameChar, hlast]
    exact isNameChar_eq_false_of_isBlank (h c (List.mem_of_getLast? hlast))

/-! ## What a declaration is -/

/-- The text starts with a keyword, white space and a name, and no name character follows. -/
def OpensDeclaration (keyword name text : List Char) : Prop :=
  ∃ blanks after, text = keyword ++ (blanks ++ (name ++ after)) ∧ blanks ≠ [] ∧
    (∀ c ∈ blanks, isBlank c = true) ∧ startsWithNameChar after = false

/-- At an offset of the text stand a keyword, white space and a name, with no name character
just before or after. -/
def DeclaredAt (keyword name text : List Char) (offset : Nat) : Prop :=
  endsWithNameChar (text.take offset) = false ∧
    OpensDeclaration keyword name (text.drop offset)

theorem declaredAt_append_iff {keyword name front rest : List Char} :
    DeclaredAt keyword name (front ++ rest) front.length ↔
      endsWithNameChar front = false ∧ OpensDeclaration keyword name rest := by
  rw [DeclaredAt, List.take_left, List.drop_left]

/-! ## Reading one part after the other -/

theorem afterOpening_eq_some_iff {opening text rest : List Char} :
    afterOpening opening text = some rest ↔ text = opening ++ rest := by
  unfold afterOpening
  split
  · rename_i h
    obtain ⟨tail, rfl⟩ := List.isPrefixOf_iff_prefix.1 h
    rw [List.drop_left, Option.some.injEq, List.append_cancel_left_eq]
  · rename_i h
    refine iff_of_false nofun fun hrest => h ?_
    exact List.isPrefixOf_iff_prefix.2 ⟨rest, hrest.symm⟩

theorem afterName_eq_some_iff {name text rest : List Char} :
    afterName name text = some rest ↔
      text = name ++ rest ∧ startsWithNameChar rest = false := by
  rw [afterName, Option.filter_eq_some_iff, afterOpening_eq_some_iff, Bool.not_eq_true']

theorem exists_blanks_of_afterBlanksAndName {name text after : List Char}
    (h : afterBlanksAndName name text = some after) :
    ∃ blanks, text = blanks ++ (name ++ after) ∧ blanks ≠ [] ∧
      (∀ c ∈ blanks, isBlank c = true) ∧ startsWithNameChar after = false := by
  induction text with
  | nil => exact absurd h nofun
  | cons c rest ih =>
    rw [afterBlanksAndName] at h
    split at h
    case isFalse => exact absurd h nofun
    case isTrue hc =>
      rcases Option.or_eq_some_iff.1 h with hmore | ⟨-, hname⟩
      · obtain ⟨blanks, rfl, -, hblanks, hafter⟩ := ih hmore
        exact ⟨c :: blanks, rfl, List.cons_ne_nil _ _, List.forall_mem_cons.2 ⟨hc, hblanks⟩,
          hafter⟩
      · obtain ⟨rfl, hafter⟩ := afterName_eq_some_iff.1 hname
        exact ⟨[c], rfl, List.cons_ne_nil _ _, List.forall_mem_singleton.2 hc, hafter⟩

/-- White space and a name are passed in one way at least, wherever the blanks end. -/
theorem isSome_afterBlanksAndName (name : List Char) {blanks after : List Char} (hne : blanks ≠ [])
    (hblanks : ∀ c ∈ blanks, isBlank c = true) (hafter : startsWithNameChar after = false) :
    (afterBlanksAndName name (blanks ++ (name ++ after))).isSome = true := by
  induction blanks with
  | nil => exact absurd rfl hne
  | cons c rest ih =>
    obtain ⟨hc, hrest⟩ := List.forall_mem_cons.1 hblanks
    rw [List.cons_append, afterBlanksAndName, if_pos hc, Option.isSome_or, Bool.or_eq_true]
    cases rest with
    | nil =>
      exact .inr (Option.isSome_iff_exists.2 ⟨after, afterName_eq_some_iff.2 ⟨rfl, hafter⟩⟩)
    | cons => exact .inl (ih (List.cons_ne_nil _ _) hrest)

theorem afterBlanks_eq_some {text rest : List Char} (h : afterBlanks text = some rest) :
    ∃ blanks, text = blanks ++ rest ∧ blanks ≠ [] ∧ ∀ c ∈ blanks, isBlank c = true := by
  cases text with
  | nil => exact absurd h nofun
  | cons c text =>
    rw [afterBlanks] at h
    split at h
    case isFalse => exact absurd h nofun
    case isTrue hc =>
      obtain rfl := Option.some.inj h
      refine ⟨c :: text.takeWhile isBlank, ?_, List.cons_ne_nil _ _, ?_⟩
      · rw [List.cons_append, skipBlanks, List.takeWhile_append_dropWhile]
      · exact List.forall_mem_cons.2 ⟨hc, fun d hd => (List.mem_takeWhile_imp hd)⟩

theorem afterBlanks_append {blanks : List Char} {c : Char} {rest : List Char}
    (hne : blanks ≠ []) (hblanks : ∀ c ∈ blanks, isBlank c = true) (hc : isBlank c = false) :
    afterBlanks (blanks ++ c :: rest) = some (c :: rest) := by
  cases blanks with
  | nil => exact absurd rfl hne
  | cons first more =>
    obtain ⟨hfirst, hmore⟩ := List.forall_mem_cons.1 hblanks
    rw [List.cons_append, afterBlanks, if_pos hfirst, skipBlanks,
      List.dropWhile_append_of_pos hmore, List.dropWhile_cons_of_neg (by simp [hc])]

/-! ## Types -/

theorem keywordAt_append {keyword : List Char} (h : keyword ∈ typeKeywords)
    (rest : List Char) : keywordAt (keyword ++ rest) = some (keyword, rest) := by
  simp only [typeKeywords, List.mem_cons, List.not_mem_nil, or_false] at h
  rcases h with rfl | rfl | rfl | rfl | rfl | rfl <;> rfl

theorem keywordAt_eq_some {text keyword rest : List Char}
    (h : keywordAt text = some (keyword, rest)) :
    keyword ∈ typeKeywords ∧ text = keyword ++ rest := by
  obtain ⟨found, hmem, hfound⟩ := List.exists_of_findSome?_eq_some h
  obtain ⟨after, hafter, heq⟩ := Option.map_eq_some_iff.1 hfound
  obtain ⟨rfl, rfl⟩ := Prod.mk.inj heq
  exact ⟨hmem, afterOpening_eq_some_iff.1 hafter⟩

/-- No keyword starts like the word that opens an extension. -/
theorem afterOpening_extend_append {keyword : List Char} (h : keyword ∈ typeKeywords)
    (rest : List Char) : afterOpening "extend".toList (keyword ++ rest) = none := by
  simp only [typeKeywords, List.mem_cons, List.not_mem_nil, or_false] at h
  rcases h with rfl | rfl | rfl | rfl | rfl | rfl <;> rfl

section Types

variable {name text : List Char}

theorem opensDeclaration_of_declarationAt {offset : Nat} {found : Declaration}
    (h : declarationAt name offset text = some found) :
    found.start = offset ∧ ∃ keyword ∈ typeKeywords, OpensDeclaration keyword name text := by
  obtain ⟨⟨keyword, rest⟩, hkeyword, h⟩ := Option.bind_eq_some_iff.1 h
  obtain ⟨after, hafter, h⟩ := Option.bind_eq_some_iff.1 h
  obtain rfl := Option.some.inj h
  obtain ⟨hmem, rfl⟩ := keywordAt_eq_some hkeyword
  obtain ⟨blanks, rfl, hne, hblanks, hfollows⟩ := exists_blanks_of_afterBlanksAndName hafter
  exact ⟨rfl, keyword, hmem, blanks, after, rfl, hne, hblanks, hfollows⟩

theorem isSome_declarationAt {keyword : List Char} (hk : keyword ∈ typeKeywords)
    (h : OpensDeclaration keyword name text) (offset : Nat) :
    (declarationAt name offset text).isSome = true := by
  obtain ⟨blanks, after, rfl, hne, hblanks, hafter⟩ := h
  obtain ⟨rest, hrest⟩ :=
    Option.isSome_iff_exists.1 (isSome_afterBlanksAndName name hne hblanks hafter)
  rw [declarationAt, keywordAt_append hk]
  simp only [bind, Option.bind, hrest, pure, Option.isSome_some]

/-- What is found at the start of a text is a declaration, perhaps after the word `extend`. -/
theorem opensDeclaration_of_typeDeclarationAt {offset : Nat} {found : TypeDeclaration}
    (h : typeDeclarationAt name offset text = some found) :
    ∃ lead rest, text = lead ++ rest ∧ found.declaration.start = offset + lead.length ∧
      (lead ≠ [] → endsWithNameChar lead = false) ∧
      ∃ keyword ∈ typeKeywords, OpensDeclaration keyword name rest := by
  unfold typeDeclarationAt at h
  split at h
  case h_1 rest hrest =>
    obtain ⟨word, hword, hblanks⟩ := Option.bind_eq_some_iff.1 hrest
    obtain ⟨blanks, rfl, hne, hall⟩ := afterBlanks_eq_some hblanks
    obtain rfl := afterOpening_eq_some_iff.1 hword
    obtain ⟨declaration, hfound, rfl⟩ := Option.map_eq_some_iff.1 h
    obtain ⟨hstart, hopens⟩ := opensDeclaration_of_declarationAt hfound
    refine ⟨"extend".toList ++ blanks, rest, by rw [List.append_assoc], ?_, fun _ => ?_, hopens⟩
    · rw [hstart, ← List.append_assoc, List.length_append, Nat.add_sub_cancel]
    · rw [endsWithNameChar_append hne, endsWithNameChar_of_blanks hall]
  case h_2 =>
    obtain ⟨declaration, hfound, rfl⟩ := Option.map_eq_some_iff.1 h
    obtain ⟨hstart, hopens⟩ := opensDeclaration_of_declarationAt hfound
    exact ⟨[], text, rfl, hstart, fun hne => absurd rfl hne, hopens⟩

theorem isSome_typeDeclarationAt {keyword : List Char} (hk : keyword ∈ typeKeywords)
    (h : OpensDeclaration keyword name text) (offset : Nat) :
    (typeDeclarationAt name offset text).isSome = true := by
  obtain ⟨blanks, after, rfl, -⟩ := id h
  rw [typeDeclarationAt, afterOpening_extend_append hk]
  exact Option.isSome_map.trans (isSome_declarationAt hk h offset)

/-- What is found in a text is a declaration of it.  The text is searched from after `front`
on. -/
theorem declaredAt_of_mem_typeDeclarationsFrom (front : List Char) {rest : List Char} {taken : Nat}
    {found : TypeDeclaration}
    (h : found ∈ typeDeclarationsFrom name taken front.length (endsWithNameChar front) rest) :
    ∃ keyword ∈ typeKeywords,
      DeclaredAt keyword name (front ++ rest) found.declaration.start := by
  induction rest generalizing front taken with
  | nil =>
    rw [typeDeclarationsFrom] at h
    exact absurd h List.not_mem_nil
  | cons c rest ih =>
    have hmore {taken : Nat} (hmem : found ∈ typeDeclarationsFrom name taken (front.length + 1)
        (isNameChar c) rest) : ∃ keyword ∈ typeKeywords,
          DeclaredAt keyword name (front ++ c :: rest) found.declaration.start := by
      rw [List.append_cons]
      exact ih _ (by rwa [List.length_append, endsWithNameChar_append_singleton])
    cases taken with
    | succ taken => exact hmore (by rwa [typeDeclarationsFrom] at h)
    | zero =>
      rw [typeDeclarationsFrom] at h
      split at h
      case h_2 => exact hmore h
      case h_1 first hfirst =>
        rcases List.mem_cons.1 h with rfl | h
        · rw [ite_eq_iff] at hfirst
          obtain ⟨-, hnone⟩ | ⟨hfront, hfirst⟩ := hfirst
          · exact absurd hnone nofun
          obtain ⟨lead, tail, htext, hstart, hlead, keyword, hk, hopens⟩ :=
            opensDeclaration_of_typeDeclarationAt hfirst
          refine ⟨keyword, hk, ?_⟩
          rw [htext, hstart, ← List.append_assoc, ← List.length_append, declaredAt_append_iff]
          refine ⟨?_, hopens⟩
          by_cases hne : lead = []
          · rw [hne, List.append_nil]
            exact Bool.eq_false_iff.2 hfront
          · rw [endsWithNameChar_append hne]
            exact hlead hne
        · exact hmore h

/-- Something is found in a text that has a declaration from after `front` on. -/
theorem typeDeclarationsFrom_ne_nil (front : List Char) {keyword rest : List Char}
    {offset : Nat} (hk : keyword ∈ typeKeywords)
    (h : DeclaredAt keyword name (front ++ rest) offset) (hle : front.length ≤ offset) :
    typeDeclarationsFrom name 0 front.length (endsWithNameChar front) rest ≠ [] := by
  induction rest generalizing front with
  | nil =>
    obtain ⟨-, blanks, after, htext, hne, -⟩ := h
    rw [List.append_nil, List.drop_eq_nil_of_le hle] at htext
    have hnil := List.append_eq_nil_iff.1 htext.symm
    exact absurd (List.append_eq_nil_iff.1 hnil.2).1 hne
  | cons c rest ih =>
    rw [typeDeclarationsFrom]
    split
    case h_1 => exact List.cons_ne_nil _ _
    case h_2 hnone =>
      rcases Nat.lt_or_eq_of_le hle with hlt | rfl
      · have hmore := ih (front ++ [c]) (by rwa [List.append_assoc])
          (by rwa [List.length_append])
        rwa [List.length_append, endsWithNameChar_append_singleton] at hmore
      · obtain ⟨hfront, hopens⟩ := declaredAt_append_iff.1 h
        have hsome := isSome_typeDeclarationAt hk hopens front.length
        rw [hfront, if_neg Bool.false_ne_true] at hnone
        rw [hnone] at hsome
        exact absurd hsome Bool.false_ne_true

/-- A type is found exactly if the text has a declaration of it. -/
theorem findType_eq_none_iff :
    findType name text = none ↔
      ∀ keyword ∈ typeKeywords, ∀ offset, ¬DeclaredAt keyword name text offset := by
  have hempty : findType name text = none ↔ TypeDeclaration.all name text = [] := by
    rw [findType, Option.map_eq_none_iff, Option.or_eq_none_iff, List.head?_eq_none_iff]
    exact and_iff_right_of_imp fun h => by rw [h]; rfl
  rw [hempty, TypeDeclaration.all]
  constructor
  · exact fun h keyword hk offset hd =>
      typeDeclarationsFrom_ne_nil [] hk hd (Nat.zero_le _) h
  · intro h
    refine List.eq_nil_iff_forall_not_mem.2 fun found hfound => ?_
    obtain ⟨keyword, hk, hd⟩ := declaredAt_of_mem_typeDeclarationsFrom [] hfound
    exact h keyword hk _ hd

/-- What is found for a type is a declaration of it. -/
theorem declaredAt_findType {found : Declaration} (h : findType name text = some found) :
    ∃ keyword ∈ typeKeywords, DeclaredAt keyword name text found.start := by
  obtain ⟨declared, hdeclared, rfl⟩ := Option.map_eq_some_iff.1 h
  suffices hmem : declared ∈ TypeDeclaration.all name text from
    declaredAt_of_mem_typeDeclarationsFrom [] hmem
  rcases Option.or_eq_some_iff.1 hdeclared with hfirst | ⟨-, hhead⟩
  · exact List.mem_of_find?_eq_some hfirst
  · exact List.mem_of_mem_head? hhead

end Types

/-! ## Directives -/

section Directives

variable {name text : List Char}

theorem opensDeclaration_of_directiveAt {offset : Nat} {found : Declaration}
    (h : directiveAt name offset text = some found) :
    found.start = offset ∧ OpensDeclaration "directive".toList ('@' :: name) text := by
  obtain ⟨rest, hrest, h⟩ := Option.bind_eq_some_iff.1 h
  obtain ⟨word, hword, hblanks⟩ := Option.bind_eq_some_iff.1 hrest
  obtain ⟨marked, hmarked, h⟩ := Option.bind_eq_some_iff.1 h
  obtain ⟨after, hafter, h⟩ := Option.bind_eq_some_iff.1 h
  obtain rfl := Option.some.inj h
  obtain ⟨blanks, rfl, hne, hall⟩ := afterBlanks_eq_some hblanks
  obtain rfl := afterOpening_eq_some_iff.1 hword
  obtain rfl := afterOpening_eq_some_iff.1 hmarked
  obtain ⟨rfl, hfollows⟩ := afterName_eq_some_iff.1 hafter
  exact ⟨rfl, blanks, after, rfl, hne, hall, hfollows⟩

theorem isSome_directiveAt (h : OpensDeclaration "directive".toList ('@' :: name) text)
    (offset : Nat) : (directiveAt name offset text).isSome = true := by
  obtain ⟨blanks, after, rfl, hne, hblanks, hafter⟩ := h
  have hword : afterOpening "directive".toList
      ("directive".toList ++ (blanks ++ ('@' :: name ++ after))) =
        some (blanks ++ '@' :: (name ++ after)) := afterOpening_eq_some_iff.2 rfl
  have hmark : afterOpening ['@'] ('@' :: (name ++ after)) = some (name ++ after) :=
    afterOpening_eq_some_iff.2 rfl
  have hname : afterName name (name ++ after) = some after :=
    afterName_eq_some_iff.2 ⟨rfl, hafter⟩
  have hrest : afterBlanks (blanks ++ '@' :: (name ++ after)) = some ('@' :: (name ++ after)) :=
    afterBlanks_append hne hblanks (by decide)
  simp only [directiveAt, hword, hrest, hmark, hname, bind, Option.bind, pure,
    Option.isSome_some]

theorem declaredAt_of_findDirectiveFrom (front : List Char) {rest : List Char} {found : Declaration}
    (h : findDirectiveFrom name front.length (endsWithNameChar front) rest = some found) :
    DeclaredAt "directive".toList ('@' :: name) (front ++ rest) found.start := by
  induction rest generalizing front with
  | nil => exact absurd h nofun
  | cons c rest ih =>
    rw [findDirectiveFrom] at h
    rcases Option.or_eq_some_iff.1 h with hhere | ⟨-, hmore⟩
    · rw [ite_eq_iff] at hhere
      obtain ⟨-, hnone⟩ | ⟨hfront, hhere⟩ := hhere
      · exact absurd hnone nofun
      obtain ⟨hstart, hopens⟩ := opensDeclaration_of_directiveAt hhere
      rw [hstart, declaredAt_append_iff]
      exact ⟨Bool.eq_false_iff.2 hfront, hopens⟩
    · rw [List.append_cons]
      exact ih _ (by rwa [List.length_append, endsWithNameChar_append_singleton])

theorem isSome_findDirectiveFrom (front : List Char) {rest : List Char} {offset : Nat}
    (h : DeclaredAt "directive".toList ('@' :: name) (front ++ rest) offset)
    (hle : front.length ≤ offset) :
    (findDirectiveFrom name front.length (endsWithNameChar front) rest).isSome = true := by
  induction rest generalizing front with
  | nil =>
    obtain ⟨-, blanks, after, htext, -⟩ := h
    rw [List.append_nil, List.drop_eq_nil_of_le hle] at htext
    exact absurd htext nofun
  | cons c rest ih =>
    rw [findDirectiveFrom, Option.isSome_or, Bool.or_eq_true]
    rcases Nat.lt_or_eq_of_le hle with hlt | rfl
    · have hmore := ih (front ++ [c]) (by rwa [List.append_assoc])
        (by rwa [List.length_append])
      rw [List.length_append, endsWithNameChar_append_singleton] at hmore
      exact .inr hmore
    · obtain ⟨hfront, hopens⟩ := declaredAt_append_iff.1 h
      rw [hfront, if_neg Bool.false_ne_true]
      exact .inl (isSome_directiveAt hopens front.length)

/-- A directive is found exactly if the text has a declaration of it. -/
theorem findDirective_eq_none_iff :
    findDirective name text = none ↔
      ∀ offset, ¬DeclaredAt "directive".toList ('@' :: name) text offset := by
  constructor
  · intro h offset hd
    have hsome := isSome_findDirectiveFrom [] hd (Nat.zero_le _)
    rw [show findDirectiveFrom name ([] : List Char).length (endsWithNameChar []) text = none
      from h] at hsome
    exact absurd hsome Bool.false_ne_true
  · intro h
    refine Option.eq_none_iff_forall_ne_some.2 fun found hfound => ?_
    exact h _ (declaredAt_of_findDirectiveFrom [] hfound)

/-- What is found for a directive is a declaration of it. -/
theorem declaredAt_findDirective {found : Declaration}
    (h : findDirective name text = some found) :
    DeclaredAt "directive".toList ('@' :: name) text found.start :=
  declaredAt_of_findDirectiveFrom [] h

end Directives

end SchemaDrift
