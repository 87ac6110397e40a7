import SchemaDrift.Proofs.Locate.Words

/-!
# Searching a text of words for declarations

A search reads a masked text character by character.  It goes from word to word, and what it
finds is what the words tell.

* `typeDeclarationAt_of_declares`, `typeDeclarationAt_of_opensExtension`,
  `typeDeclarationAt_eq_none` — what is found where a word starts.
* `typeDeclarationsFrom_wordsText` — all that is found.
* `findType_wordsText`, `findDirective_wordsText` — what counts.
-/

namespace SchemaDrift

open Text

/-! ## Declarations of types -/

section Types

variable {name : List Char} {words : List Word}

theorem exists_of_declares (h : declares name words = true) :
    ∃ keyword declared rest, words = keyword :: declared :: rest ∧
      keyword.name ∈ typeKeywords ∧ keyword.isJoined = true ∧ declared.name = name := by
  cases words with
  | nil => exact absurd h Bool.false_ne_true
  | cons keyword words =>
    cases words with
    | nil => exact absurd h Bool.false_ne_true
    | cons declared rest =>
      simp only [declares, Bool.and_eq_true, List.contains_iff_mem, beq_iff_eq] at h
      exact ⟨keyword, declared, rest, rfl, h.1.1, h.1.2, h.2⟩

theorem exists_cons_of_declares (h : declares name words = true) :
    ∃ word more, words = word :: more := by
  obtain ⟨keyword, declared, rest, rfl, -⟩ := exists_of_declares h
  exact ⟨keyword, _, rfl⟩

/-- The words that start with a keyword and a name after white space are those that declare
it. -/
theorem declares_of_opensDeclaration (hname : isName name = true) (hwords : Worded words)
    {keyword : List Char} (hk : keyword ∈ typeKeywords)
    (h : OpensDeclaration keyword name (wordsText words)) : declares name words = true := by
  obtain ⟨blanks, after, htext, hne, hblanks, hafter⟩ := h
  have hkeyword : ∀ c ∈ keyword, isNameChar c = true := by
    simp only [typeKeywords, List.mem_cons, List.not_mem_nil, or_false] at hk
    rcases hk with rfl | rfl | rfl | rfl | rfl | rfl <;> exact List.all_eq_true.1 (by decide)
  have hstart : startsWithNameChar (blanks ++ (name ++ after)) = false := by
    cases blanks with
    | nil => exact absurd rfl hne
    | cons b blanks => exact isNameChar_eq_false_of_isBlank (hblanks b (List.mem_cons_self ..))
  cases hwords with
  | nil =>
    have hlength := congrArg List.length htext
    have hpos := List.length_pos_iff.2 hne
    simp only [wordsText_nil, List.length_nil, List.length_append] at hlength
    omega
  | @cons word rest isName ends quiet apart more =>
    have hgap := Worded.startsWithNameChar_gap (.cons isName ends quiet apart more)
    rw [wordsText_cons] at htext
    obtain ⟨rfl, hafterWord⟩ :=
      eq_of_nameChars_append (forall_isNameChar_of_isName isName) hkeyword hgap hstart htext
    obtain ⟨rfl, hnext⟩ :=
      gap_eq_of_front more quiet (fun c hc => isNameChar_eq_false_of_isBlank (hblanks c hc)) hname
        (fun hnil => absurd hnil hne) hafterWord
    cases more with
    | nil =>
      obtain ⟨c, tail, rfl, -⟩ := exists_of_isName hname
      exact absurd hnext.symm (List.cons_ne_nil _ _)
    | @cons declared others isName' ends' quiet' apart' more' =>
      have hgap' := Worded.startsWithNameChar_gap (.cons isName' ends' quiet' apart' more')
      rw [wordsText_cons] at hnext
      obtain ⟨rfl, -⟩ := eq_of_nameChars_append (forall_isNameChar_of_isName isName')
        (forall_isNameChar_of_isName hname) hgap' hafter hnext
      simp only [declares, Word.isJoined, Bool.and_eq_true, List.contains_iff_mem, beq_self_eq_true,
        and_true]
      exact ⟨hk, List.all_eq_true.2 hblanks⟩

/-- The size of the words that declare a name, up to the end of it. -/
def declaredLength : List Word → Nat
  | keyword :: declared :: _ => keyword.name.length + keyword.gap.length + declared.name.length
  | _ => 0

/-- White space and a name in one way only. -/
theorem afterBlanksAndName_append (hname : isName name = true) {blanks after : List Char}
    (hne : blanks ≠ []) (hblanks : ∀ c ∈ blanks, isBlank c = true)
    (hafter : startsWithNameChar after = false) :
    afterBlanksAndName name (blanks ++ (name ++ after)) = some after := by
  obtain ⟨rest, hrest⟩ :=
    Option.isSome_iff_exists.1 (isSome_afterBlanksAndName name hne hblanks hafter)
  obtain ⟨others, htext, -, hothers, -⟩ := exists_blanks_of_afterBlanksAndName hrest
  obtain ⟨c, more, rfl, hc, -⟩ := exists_of_isName hname
  have hstop : isBlank c = false := by
    cases hb : isBlank c with
    | false => rfl
    | true => exact absurd (hc.symm.trans (isNameStart_eq_false_of_isBlank hb)) nofun
  have htake {front : List Char} (h : ∀ d ∈ front, isBlank d = true) (rest : List Char) :
      (front ++ (c :: more ++ rest)).takeWhile isBlank = front := by
    rw [List.takeWhile_append_of_pos h, List.cons_append,
      List.takeWhile_cons_of_neg (by simp [hstop]), List.append_nil]
  have hsame : blanks = others := by rw [← htake hblanks after, htext, htake hothers rest]
  subst hsame
  rw [List.append_cancel_left_eq, List.append_cancel_left_eq] at htext
  rw [hrest, htext]

theorem declarationAt_of_declares (hname : isName name = true) (hwords : Worded words)
    (h : declares name words = true) (offset : Nat) :
    ∃ isEnum, declarationAt name offset (wordsText words) =
      some ⟨offset, offset + declaredLength words, isEnum⟩ := by
  obtain ⟨keyword, declared, rest, rfl, hk, hjoined, rfl⟩ := exists_of_declares h
  have hafter : startsWithNameChar (declared.gap ++ wordsText rest) = false := by
    cases hwords with
    | cons _ _ _ _ more => exact more.startsWithNameChar_gap
  have hne : keyword.gap ≠ [] := hwords.gap_ne_nil (List.cons_ne_nil _ _)
  have hfound := afterBlanksAndName_append hname hne (List.all_eq_true.1 hjoined) hafter
  refine ⟨keyword.name == "enum".toList, ?_⟩
  rw [wordsText_cons, wordsText_cons, declarationAt, keywordAt_append hk]
  simp only [bind, Option.bind, hfound, pure, declaredLength, List.length_append]
  congr 2
  omega

theorem declarationAt_eq_none (hname : isName name = true) (hwords : Worded words)
    (h : declares name words = false) (offset : Nat) :
    declarationAt name offset (wordsText words) = none := by
  refine Option.eq_none_iff_forall_ne_some.2 fun found hfound => ?_
  obtain ⟨-, keyword, hk, hopens⟩ := opensDeclaration_of_declarationAt hfound
  exact absurd (h.symm.trans (declares_of_opensDeclaration hname hwords hk hopens)) nofun

/-- What is taken for an extension starts with a declaration after the word `extend`. -/
theorem opensExtension_of_afterBlanks (hname : isName name = true) {word : Word} {rest : List Word}
    (hwords : Worded (word :: rest)) {keyword text : List Char} (hk : keyword ∈ typeKeywords)
    (htext : (afterOpening "extend".toList (wordsText (word :: rest))).bind afterBlanks = some text)
    (h : OpensDeclaration keyword name text) : opensExtension name (word :: rest) = true := by
  obtain ⟨more, hmore, htext⟩ := Option.bind_eq_some_iff.1 htext
  obtain ⟨blanks, rfl, hne, hblanks⟩ := afterBlanks_eq_some htext
  rw [afterOpening_eq_some_iff, wordsText_cons] at hmore
  have hstart : startsWithNameChar (blanks ++ text) = false := by
    cases blanks with
    | nil => exact absurd rfl hne
    | cons b blanks => exact isNameChar_eq_false_of_isBlank (hblanks b (List.mem_cons_self ..))
  have hkeyword : isName keyword = true := by
    simp only [typeKeywords, List.mem_cons, List.not_mem_nil, or_false] at hk
    rcases hk with rfl | rfl | rfl | rfl | rfl | rfl <;> decide
  have hgap := hwords.startsWithNameChar_gap
  cases hwords with
  | cons isName ends quiet apart others =>
    obtain ⟨hextend, hafterWord⟩ := eq_of_nameChars_append (forall_isNameChar_of_isName isName)
      (List.all_eq_true.1 (by decide)) hgap hstart hmore
    obtain ⟨inner, after, rfl, -⟩ := id h
    obtain ⟨hjoined, hrest⟩ :=
      gap_eq_of_front others quiet (fun c hc => isNameChar_eq_false_of_isBlank (hblanks c hc))
        hkeyword (fun hnil => absurd hnil hne) hafterWord
    rw [← hrest] at h
    simp only [opensExtension, Word.isJoined, hextend, hjoined, beq_self_eq_true, Bool.true_and,
      Bool.and_eq_true]
    exact ⟨List.all_eq_true.2 hblanks, declares_of_opensDeclaration hname others hk h⟩

theorem typeDeclarationAt_of_opensExtension (hname : isName name = true) {word : Word}
    {rest : List Word} (hwords : Worded (word :: rest))
    (h : opensExtension name (word :: rest) = true) (offset : Nat) :
    ∃ isEnum, typeDeclarationAt name offset (wordsText (word :: rest)) =
      some ⟨⟨offset + (word.name.length + word.gap.length),
        offset + (word.name.length + word.gap.length) + declaredLength rest, isEnum⟩, true⟩ := by
  simp only [opensExtension, Bool.and_eq_true, beq_iff_eq] at h
  obtain ⟨⟨hextend, hjoined⟩, hdeclares⟩ := h
  cases hwords with
  | cons isName ends quiet apart more =>
    obtain ⟨isEnum, hfound⟩ := declarationAt_of_declares hname more hdeclares
      (offset + (word.name.length + word.gap.length))
    have hrest : rest ≠ [] := by
      rintro rfl
      exact absurd hdeclares Bool.false_ne_true
    have hgap : word.gap ≠ [] := (Worded.cons isName ends quiet apart more).gap_ne_nil hrest
    have hafter : afterBlanks (word.gap ++ wordsText rest) = some (wordsText rest) := by
      cases htext : wordsText rest with
      | nil =>
        rw [htext] at hfound
        exact absurd hfound nofun
      | cons c tail =>
        have hc : isNameStart c = true := more.head?_wordsText (by rw [htext]; rfl)
        refine afterBlanks_append hgap (List.all_eq_true.1 hjoined) ?_
        cases hb : isBlank c with
        | false => rfl
        | true => exact absurd (hc.symm.trans (isNameStart_eq_false_of_isBlank hb)) nofun
    have hopening : afterOpening "extend".toList (wordsText (word :: rest)) =
        some (word.gap ++ wordsText rest) := by
      rw [afterOpening_eq_some_iff, wordsText_cons, hextend]
    have hlength : offset + ((wordsText (word :: rest)).length - (wordsText rest).length) =
        offset + (word.name.length + word.gap.length) := by
      simp only [wordsText_cons, List.length_append]
      omega
    refine ⟨isEnum, ?_⟩
    rw [typeDeclarationAt, hopening, Option.bind_some, hafter]
    dsimp only
    rw [hlength, hfound, Option.map_some]

theorem typeDeclarationAt_of_declares (hname : isName name = true) (hwords : Worded words)
    (h : declares name words = true) (offset : Nat) :
    ∃ isEnum, typeDeclarationAt name offset (wordsText words) =
      some ⟨⟨offset, offset + declaredLength words, isEnum⟩, false⟩ := by
  obtain ⟨isEnum, hfound⟩ := declarationAt_of_declares hname hwords h offset
  have hextend : afterOpening "extend".toList (wordsText words) = none := by
    obtain ⟨keyword, declared, rest, rfl, hk, -⟩ := exists_of_declares h
    rw [wordsText_cons]
    exact afterOpening_extend_append hk _
  refine ⟨isEnum, ?_⟩
  rw [typeDeclarationAt, hextend, Option.bind_none, hfound, Option.map_some]

theorem typeDeclarationAt_eq_none (hname : isName name = true) {word : Word} {rest : List Word}
    (hwords : Worded (word :: rest)) (hextension : opensExtension name (word :: rest) = false)
    (h : declares name (word :: rest) = false) (offset : Nat) :
    typeDeclarationAt name offset (wordsText (word :: rest)) = none := by
  unfold typeDeclarationAt
  split
  case h_2 => rw [declarationAt_eq_none hname hwords h, Option.map_none]
  case h_1 text htext =>
    refine Option.eq_none_iff_forall_ne_some.2 fun found hfound => ?_
    obtain ⟨declaration, hdeclaration, -⟩ := Option.map_eq_some_iff.1 hfound
    obtain ⟨-, keyword, hk, hopens⟩ := opensDeclaration_of_declarationAt hdeclaration
    have hopen := opensExtension_of_afterBlanks hname hwords hk htext hopens
    exact absurd (hextension.symm.trans hopen) nofun

/-- No declaration starts with a character that starts no name. -/
theorem typeDeclarationAt_of_not_isNameStart {c : Char} (hc : isNameStart c = false)
    (rest : List Char) (offset : Nat) : typeDeclarationAt name offset (c :: rest) = none := by
  refine Option.eq_none_iff_forall_ne_some.2 fun found hfound => ?_
  unfold typeDeclarationAt at hfound
  split at hfound
  case h_1 text htext =>
    obtain ⟨more, hmore, -⟩ := Option.bind_eq_some_iff.1 htext
    obtain ⟨rfl, -⟩ := List.cons.inj (afterOpening_eq_some_iff.1 hmore)
    exact absurd hc (by decide)
  case h_2 =>
    obtain ⟨declaration, hdeclaration, -⟩ := Option.map_eq_some_iff.1 hfound
    obtain ⟨-, keyword, hk, blanks, after, htext, -⟩ :=
      opensDeclaration_of_declarationAt hdeclaration
    simp only [typeKeywords, List.mem_cons, List.not_mem_nil, or_false] at hk
    rcases hk with rfl | rfl | rfl | rfl | rfl | rfl
    all_goals
      obtain ⟨rfl, -⟩ := List.cons.inj htext
      exact absurd hc (by decide)

/-! ### From name to name -/

/-- Characters of a declaration already found are passed. -/
theorem typeDeclarationsFrom_taken (front : List Char) (taken offset : Nat) (inName : Bool)
    (rest : List Char) :
    typeDeclarationsFrom name (front.length + taken) offset inName (front ++ rest) =
      typeDeclarationsFrom name taken (offset + front.length) (endsInName inName front) rest := by
  induction front generalizing offset inName with
  | nil => simp
  | cons c front ih =>
    have hlength : (c :: front).length + taken = front.length + taken + 1 := by
      rw [List.length_cons]
      omega
    rw [hlength, List.cons_append, typeDeclarationsFrom, ih, endsInName_cons, List.length_cons,
      Nat.add_right_comm, Nat.add_assoc]

/-- Where no name starts, nothing is found. -/
theorem typeDeclarationsFrom_quiet {gap : List Char} {inName : Bool}
    (h : isQuiet inName gap = true) (offset : Nat) (rest : List Char) :
    typeDeclarationsFrom name 0 offset inName (gap ++ rest) =
      typeDeclarationsFrom name 0 (offset + gap.length) (endsInName inName gap) rest := by
  induction gap generalizing offset inName with
  | nil => simp
  | cons c gap ih =>
    simp only [isQuiet, Bool.and_eq_true, Bool.or_eq_true, Bool.not_eq_true'] at h
    have hnone : (if inName then none else typeDeclarationAt name offset (c :: (gap ++ rest))) =
        none := by
      split
      · rfl
      · exact typeDeclarationAt_of_not_isNameStart (h.1.resolve_left ‹_›) _ _
    rw [List.cons_append, typeDeclarationsFrom, hnone]
    dsimp only
    rw [ih h.2, endsInName_cons, List.length_cons, Nat.add_assoc, Nat.add_comm 1]

/-- The size of so many words, of the last one without what follows it. -/
def takenLength : Nat → List Word → Nat
  | _, [] => 0
  | 0, _ => 0
  | 1, word :: _ => word.name.length
  | taken + 2, word :: rest => word.name.length + word.gap.length + takenLength (taken + 1) rest

@[simp] theorem takenLength_zero (words : List Word) : takenLength 0 words = 0 := by
  cases words <;> rfl

/-- What is told of a declaration by where it starts and whether it extends another one. -/
def TypeDeclaration.place (found : TypeDeclaration) : Nat × Bool :=
  (found.declaration.start, found.extending)

/-- The same of an opening in a text that ends at the given offset. -/
def Opening.place (stop : Nat) (opening : Opening) : Nat × Bool :=
  (stop - (wordsText opening.words).length, opening.extending)

section Step

variable {word : Word} {rest : List Word} {offset : Nat}

/-- From the second character of a word on, after so many characters of a declaration. -/
theorem typeDeclarationsFrom_rest (hwords : Worded (word :: rest)) (taken offset : Nat) :
    ∃ c more, wordsText (word :: rest) = c :: more ∧ isNameChar c = true ∧
      typeDeclarationsFrom name ((word.name ++ word.gap).length - 1 + taken) (offset + 1) true
          more =
        typeDeclarationsFrom name taken (offset + (word.name ++ word.gap).length)
          (endsInName true word.gap) (wordsText rest) ∧
      typeDeclarationsFrom name 0 (offset + 1) true more =
        typeDeclarationsFrom name 0 (offset + (word.name ++ word.gap).length)
          (endsInName true word.gap) (wordsText rest) := by
  cases hwords with
  | cons isName ends quiet =>
    obtain ⟨c, more, hword, hc, hchars⟩ := exists_of_isName isName
    obtain ⟨hquiet, hends⟩ := isQuiet_true_of_nameChars hchars
    have hlength : (word.name ++ word.gap).length = (more ++ word.gap).length + 1 := by
      rw [hword, List.cons_append, List.length_cons]
    have hstop : offset + 1 + (more ++ word.gap).length =
        offset + ((more ++ word.gap).length + 1) := by omega
    have hstate : endsInName true (more ++ word.gap) = endsInName true word.gap := by
      rw [endsInName_append, hends]
    refine ⟨c, (more ++ word.gap) ++ wordsText rest, ?_, isNameChar_of_isNameStart hc, ?_, ?_⟩
    · rw [wordsText_cons, hword, List.cons_append, List.append_assoc]
    · rw [hlength, Nat.add_sub_cancel, typeDeclarationsFrom_taken, hstop, hstate]
    · have hskip : isQuiet true (more ++ word.gap) = true := by
        rw [isQuiet_append, hquiet, hends, quiet, Bool.true_and]
      rw [typeDeclarationsFrom_quiet hskip, hstop, hstate, hlength]

/-- A declaration that starts with a word is found there, and the search goes on after it. -/
theorem typeDeclarationsFrom_of_found (hwords : Worded (word :: rest)) {found : TypeDeclaration}
    {taken : Nat} (hfound : typeDeclarationAt name offset (wordsText (word :: rest)) = some found)
    (hstop : found.declaration.stop = offset + (word.name ++ word.gap).length + taken) :
    typeDeclarationsFrom name 0 offset false (wordsText (word :: rest)) =
      found :: typeDeclarationsFrom name taken (offset + (word.name ++ word.gap).length)
        (endsInName true word.gap) (wordsText rest) := by
  obtain ⟨c, more, htext, hc, htaken, -⟩ := typeDeclarationsFrom_rest hwords taken offset
  have hpos : 0 < (word.name ++ word.gap).length := by
    cases hwords with
    | cons isName =>
      obtain ⟨d, others, hword, -⟩ := exists_of_isName isName
      rw [hword, List.cons_append, List.length_cons]
      omega
  have hcount : found.declaration.stop - offset - 1 =
      (word.name ++ word.gap).length - 1 + taken := by omega
  rw [htext] at hfound ⊢
  rw [typeDeclarationsFrom, if_neg Bool.false_ne_true, hfound]
  dsimp only
  rw [hcount, hc, htaken]

/-- Where no declaration starts with a word, the search goes on with the next one. -/
theorem typeDeclarationsFrom_of_none (hwords : Worded (word :: rest))
    (hnone : typeDeclarationAt name offset (wordsText (word :: rest)) = none) :
    typeDeclarationsFrom name 0 offset false (wordsText (word :: rest)) =
      typeDeclarationsFrom name 0 (offset + (word.name ++ word.gap).length)
        (endsInName true word.gap) (wordsText rest) := by
  obtain ⟨c, more, htext, hc, -, hquiet⟩ := typeDeclarationsFrom_rest hwords 0 offset
  rw [htext] at hnone ⊢
  rw [typeDeclarationsFrom, if_neg Bool.false_ne_true, hnone]
  dsimp only
  rw [hc, hquiet]

theorem length_wordsText_cons (word : Word) (rest : List Word) :
    (wordsText (word :: rest)).length =
      (word.name ++ word.gap).length + (wordsText rest).length := by
  rw [wordsText_cons, ← List.append_assoc, List.length_append]

/-- Where an extension starts, it is found, and the search goes on after its name. -/
theorem places_of_opensExtension (hname : isName name = true) (hwords : Worded (word :: rest))
    (h : opensExtension name (word :: rest) = true) (offset : Nat) :
    (typeDeclarationsFrom name 0 offset false (wordsText (word :: rest))).map
        TypeDeclaration.place =
      Opening.place (offset + (wordsText (word :: rest)).length) ⟨rest, true⟩ ::
        (typeDeclarationsFrom name (takenLength 2 rest) (offset + (word.name ++ word.gap).length)
          (endsInName true word.gap) (wordsText rest)).map TypeDeclaration.place := by
  obtain ⟨isEnum, hfound⟩ := typeDeclarationAt_of_opensExtension hname hwords h offset
  have hstop : offset + (word.name.length + word.gap.length) + declaredLength rest =
      offset + (word.name ++ word.gap).length + takenLength 2 rest := by
    simp only [opensExtension, Bool.and_eq_true] at h
    obtain ⟨keyword, declared, others, rfl, -⟩ := exists_of_declares h.2
    simp only [declaredLength, takenLength, List.length_append]
  have hplace : offset + (word.name.length + word.gap.length) =
      offset + (wordsText (word :: rest)).length - (wordsText rest).length := by
    rw [length_wordsText_cons, List.length_append]
    omega
  rw [typeDeclarationsFrom_of_found hwords hfound hstop, List.map_cons, TypeDeclaration.place,
    Opening.place, hplace]

/-- Where a declaration starts, it is found, and the search goes on after its name. -/
theorem places_of_declares (hname : isName name = true) (hwords : Worded (word :: rest))
    (h : declares name (word :: rest) = true) (offset : Nat) :
    (typeDeclarationsFrom name 0 offset false (wordsText (word :: rest))).map
        TypeDeclaration.place =
      Opening.place (offset + (wordsText (word :: rest)).length) ⟨word :: rest, false⟩ ::
        (typeDeclarationsFrom name (takenLength 1 rest) (offset + (word.name ++ word.gap).length)
          (endsInName true word.gap) (wordsText rest)).map TypeDeclaration.place := by
  obtain ⟨isEnum, hfound⟩ := typeDeclarationAt_of_declares hname hwords h offset
  have hstop : offset + declaredLength (word :: rest) =
      offset + (word.name ++ word.gap).length + takenLength 1 rest := by
    obtain ⟨keyword, declared, others, heq, -⟩ := exists_of_declares h
    obtain ⟨-, rfl⟩ := List.cons.inj heq
    simp only [declaredLength, takenLength, List.length_append]
    omega
  have hplace : offset = offset + (wordsText (word :: rest)).length -
      (wordsText (word :: rest)).length := by omega
  rw [typeDeclarationsFrom_of_found hwords hfound hstop, List.map_cons, TypeDeclaration.place,
    Opening.place, ← hplace]

/-- After the name of a word, the search goes on with the next word. -/
theorem typeDeclarationsFrom_of_name (hwords : Worded (word :: rest)) (inName : Bool) :
    typeDeclarationsFrom name (takenLength 1 (word :: rest)) offset inName
        (wordsText (word :: rest)) =
      typeDeclarationsFrom name 0 (offset + (word.name ++ word.gap).length)
        (endsInName true word.gap) (wordsText rest) := by
  cases hwords with
  | cons isName _ quiet =>
    have hends : endsInName inName word.name = true := by
      obtain ⟨c, others, hword, hc, hchars⟩ := exists_of_isName isName
      rw [hword, endsInName_cons, isNameChar_of_isNameStart hc,
        (isQuiet_true_of_nameChars hchars).2]
    have htaken : takenLength 1 (word :: rest) = word.name.length + 0 := rfl
    rw [htaken, wordsText_cons, typeDeclarationsFrom_taken, hends,
      typeDeclarationsFrom_quiet quiet, List.length_append, Nat.add_assoc]

/-- What belongs to a declaration is passed word by word. -/
theorem typeDeclarationsFrom_of_taken (taken : Nat) (inName : Bool) :
    typeDeclarationsFrom name (takenLength (taken + 2) (word :: rest)) offset inName
        (wordsText (word :: rest)) =
      typeDeclarationsFrom name (takenLength (taken + 1) rest)
        (offset + (word.name ++ word.gap).length) (endsInName inName (word.name ++ word.gap))
        (wordsText rest) := by
  have htaken : takenLength (taken + 2) (word :: rest) =
      (word.name ++ word.gap).length + takenLength (taken + 1) rest := by
    rw [takenLength, List.length_append]
  rw [htaken, wordsText_cons, ← List.append_assoc, typeDeclarationsFrom_taken]

end Step

/-- The declarations that are found in a text of words are its openings. -/
theorem typeDeclarationsFrom_wordsText (hname : isName name = true) (hwords : Worded words)
    {taken offset : Nat} {inName : Bool} (hinName : taken = 0 → words ≠ [] → inName = false) :
    (typeDeclarationsFrom name (takenLength taken words) offset inName (wordsText words)).map
        TypeDeclaration.place =
      (openingsAfter name taken words).map (Opening.place (offset + (wordsText words).length)) := by
  induction hwords generalizing taken offset inName with
  | nil => cases taken <;> rfl
  | @cons word rest isName ends quiet apart more ih =>
    have hwords : Worded (word :: rest) := .cons isName ends quiet apart more
    -- after the word, the search goes on with the next one
    have hrest (count : Nat) {after : Bool} (hafter : count = 0 → rest ≠ [] → after = false) :
        (typeDeclarationsFrom name (takenLength count rest)
            (offset + (word.name ++ word.gap).length) after (wordsText rest)).map
              TypeDeclaration.place =
          (openingsAfter name count rest).map
            (Opening.place (offset + (wordsText (word :: rest)).length)) := by
      rw [length_wordsText_cons, ← Nat.add_assoc]
      exact ih hafter
    have hnext := hrest 0 fun _ => apart
    rw [takenLength_zero] at hnext
    rcases taken with _ | _ | taken
    · obtain rfl := hinName rfl (List.cons_ne_nil _ _)
      rw [takenLength_zero, openingsAfter]
      cases hextension : opensExtension name (word :: rest) with
      | true =>
        rw [places_of_opensExtension hname hwords hextension, if_pos rfl, List.map_cons,
          hrest 2 nofun]
      | false =>
        rw [if_neg Bool.false_ne_true]
        cases hdeclares : declares name (word :: rest) with
        | true =>
          rw [places_of_declares hname hwords hdeclares, if_pos rfl, List.map_cons, hrest 1 nofun]
        | false =>
          rw [typeDeclarationsFrom_of_none hwords
            (typeDeclarationAt_eq_none hname hwords hextension hdeclares offset),
            if_neg Bool.false_ne_true, hnext]
    · have hopenings : openingsAfter name 1 (word :: rest) = openingsAfter name 0 rest := rfl
      rw [hopenings, ← hnext, typeDeclarationsFrom_of_name hwords]
    · have hopenings : openingsAfter name (taken + 2) (word :: rest) =
          openingsAfter name (taken + 1) rest := rfl
      rw [hopenings, ← hrest (taken + 1) nofun, typeDeclarationsFrom_of_taken]

/-- What counts among pairs of a place and whether it is that of an extension. -/
def countedPlace (places : List (Nat × Bool)) : Option Nat :=
  ((places.find? fun place => !place.2).or places.head?).map Prod.fst

/-- The type that is found in a text of words is the opening that counts. -/
theorem findType_wordsText (hname : isName name = true) (hwords : Worded words) {gap : List Char}
    (hgap : isQuiet false gap = true) (hends : words ≠ [] → endsInName false gap = false) :
    (findType name (gap ++ wordsText words)).map Declaration.start =
      (countedOpening name words).map fun opening =>
        (gap ++ wordsText words).length - (wordsText opening.words).length := by
  have hfound (found : List TypeDeclaration) :
      (((found.find? fun d => !d.extending).or found.head?).map
          TypeDeclaration.declaration).map Declaration.start =
        countedPlace (found.map TypeDeclaration.place) := by
    rw [countedPlace, List.find?_map, List.head?_map, ← Option.map_or, Option.map_map,
      Option.map_map]
    rfl
  have hopened (stop : Nat) (found : List Opening) :
      ((found.find? fun opening => !opening.extending).or found.head?).map
          (fun opening => stop - (wordsText opening.words).length) =
        countedPlace (found.map (Opening.place stop)) := by
    rw [countedPlace, List.find?_map, List.head?_map, ← Option.map_or, Option.map_map]
    rfl
  have hall : (TypeDeclaration.all name (gap ++ wordsText words)).map TypeDeclaration.place =
      (openingsAfter name 0 words).map
        (Opening.place (gap ++ wordsText words).length) := by
    have hsearch : (typeDeclarationsFrom name (takenLength 0 words) gap.length
        (endsInName false gap) (wordsText words)).map TypeDeclaration.place =
          (openingsAfter name 0 words).map
            (Opening.place (gap.length + (wordsText words).length)) :=
      typeDeclarationsFrom_wordsText hname hwords fun _ => hends
    rw [TypeDeclaration.all, typeDeclarationsFrom_quiet hgap, Nat.zero_add, List.length_append,
      ← hsearch, takenLength_zero]
  rw [findType, countedOpening, hfound, hopened, hall]

theorem exists_suffix_of_mem_openingsAfter {taken : Nat} {opening : Opening}
    (h : opening ∈ openingsAfter name taken words) :
    ∃ word more, opening.words = word :: more ∧ word :: more <:+ words := by
  induction words generalizing taken with
  | nil =>
    cases taken <;> exact absurd h List.not_mem_nil
  | cons first rest ih =>
    have hlater {taken : Nat} (h : opening ∈ openingsAfter name taken rest) :
        ∃ word more, opening.words = word :: more ∧ word :: more <:+ first :: rest := by
      obtain ⟨word, more, hwords, hsuffix⟩ := ih h
      exact ⟨word, more, hwords, hsuffix.trans (List.suffix_cons ..)⟩
    cases taken with
    | succ taken => exact hlater h
    | zero =>
      rw [openingsAfter] at h
      split at h
      case isTrue hextension =>
        rcases List.mem_cons.1 h with rfl | h
        · simp only [opensExtension, Bool.and_eq_true] at hextension
          obtain ⟨word, more, rfl⟩ := exists_cons_of_declares hextension.2
          exact ⟨word, more, rfl, List.suffix_cons ..⟩
        · exact hlater h
      case isFalse =>
        split at h
        case isTrue =>
          rcases List.mem_cons.1 h with rfl | h
          · exact ⟨first, rest, rfl, List.suffix_refl _⟩
          · exact hlater h
        case isFalse => exact hlater h

end Types

/-! ## Declarations of directives -/

section Directives

variable {name : List Char} {words : List Word} {word : Word} {rest : List Word}

theorem Word.isMarked_iff : word.isMarked = true ↔
    ∃ blanks, word.gap = blanks ++ ['@'] ∧ blanks ≠ [] ∧ ∀ c ∈ blanks, isBlank c = true := by
  simp only [Word.isMarked, Bool.and_eq_true, Bool.not_eq_true', List.isEmpty_eq_false_iff,
    beq_iff_eq]
  constructor
  · rintro ⟨hne, hsign⟩
    refine ⟨word.gap.takeWhile isBlank, ?_, hne, fun c => List.mem_takeWhile_imp⟩
    rw [← hsign, skipBlanks, List.takeWhile_append_dropWhile]
  · rintro ⟨blanks, heq, hne, hblanks⟩
    have hsign : isBlank '@' = false := by decide
    rw [heq, skipBlanks, List.takeWhile_append_of_pos hblanks, List.dropWhile_append_of_pos hblanks]
    simp [hsign, hne]

theorem exists_of_declaresDirective (h : declaresDirective name words = true) :
    ∃ keyword declared rest, words = keyword :: declared :: rest ∧
      keyword.name = "directive".toList ∧ keyword.isMarked = true ∧ declared.name = name := by
  cases words with
  | nil => exact absurd h Bool.false_ne_true
  | cons keyword words =>
    cases words with
    | nil => exact absurd h Bool.false_ne_true
    | cons declared rest =>
      simp only [declaresDirective, Bool.and_eq_true, beq_iff_eq] at h
      exact ⟨keyword, declared, rest, rfl, h.1.1, h.1.2, h.2⟩

theorem exists_suffix_of_markedOpening {found : List Word}
    (h : markedOpening name words = some found) :
    ∃ word more, found = word :: more ∧ word :: more <:+ words := by
  induction words with
  | nil => exact absurd h nofun
  | cons first rest ih =>
    rw [markedOpening] at h
    split at h
    case isTrue =>
      obtain rfl := Option.some.inj h
      exact ⟨first, rest, rfl, List.suffix_refl _⟩
    case isFalse =>
      obtain ⟨word, more, hfound, hsuffix⟩ := ih h
      exact ⟨word, more, hfound, hsuffix.trans (List.suffix_cons ..)⟩

/-- The words that start with the keyword of directives and a name after an at sign are those
that declare it. -/
theorem declaresDirective_iff (hname : isName name = true) (hwords : Worded words) :
    declaresDirective name words = true ↔
      OpensDeclaration "directive".toList ('@' :: name) (wordsText words) := by
  constructor
  · intro h
    obtain ⟨keyword, declared, rest, rfl, hk, hmarked, rfl⟩ := exists_of_declaresDirective h
    obtain ⟨blanks, hgap, hne, hblanks⟩ := Word.isMarked_iff.1 hmarked
    refine ⟨blanks, declared.gap ++ wordsText rest, ?_, hne, hblanks, ?_⟩
    · simp [hk, hgap]
    · cases hwords with
      | cons _ _ _ _ more => exact more.startsWithNameChar_gap
  · rintro ⟨blanks, after, htext, hne, hblanks, hafter⟩
    have hfront : ∀ c ∈ blanks ++ ['@'], isNameChar c = false := by
      intro c hc
      rcases List.mem_append.1 hc with hc | hc
      · exact isNameChar_eq_false_of_isBlank (hblanks c hc)
      · rw [List.mem_singleton.1 hc]
        decide
    have hstart : startsWithNameChar (blanks ++ ('@' :: name ++ after)) = false := by
      cases blanks with
      | nil => exact absurd rfl hne
      | cons b blanks => exact hfront b (List.mem_cons_self ..)
    cases hwords with
    | nil => exact absurd htext nofun
    | @cons word rest isName ends quiet apart more =>
      have hgap := (Worded.cons isName ends quiet apart more).startsWithNameChar_gap
      rw [wordsText_cons] at htext
      obtain ⟨hword, hafterWord⟩ := eq_of_nameChars_append (forall_isNameChar_of_isName isName)
        (List.all_eq_true.1 (by decide)) hgap hstart htext
      have hsplit : word.gap ++ wordsText rest = (blanks ++ ['@']) ++ (name ++ after) := by
        rw [hafterWord]
        simp
      obtain ⟨hmark, hnext⟩ :=
        gap_eq_of_front more quiet hfront hname (fun hnil => absurd hnil (by simp)) hsplit
      cases more with
      | nil =>
        obtain ⟨c, tail, rfl, -⟩ := exists_of_isName hname
        exact absurd hnext nofun
      | @cons declared others isName' ends' quiet' apart' more' =>
        have hgap' := (Worded.cons isName' ends' quiet' apart' more').startsWithNameChar_gap
        rw [wordsText_cons] at hnext
        obtain ⟨rfl, -⟩ := eq_of_nameChars_append (forall_isNameChar_of_isName isName')
          (forall_isNameChar_of_isName hname) hgap' hafter hnext
        have hmarked : word.isMarked = true := Word.isMarked_iff.2 ⟨blanks, hmark, hne, hblanks⟩
        simp [declaresDirective, hword, hmarked]

/-- No declaration of a directive starts with a character that starts no name. -/
theorem directiveAt_of_not_isNameStart {c : Char} (hc : isNameStart c = false)
    (rest : List Char) (offset : Nat) : directiveAt name offset (c :: rest) = none := by
  refine Option.eq_none_iff_forall_ne_some.2 fun found hfound => ?_
  obtain ⟨-, blanks, after, htext, -⟩ := opensDeclaration_of_directiveAt hfound
  obtain ⟨rfl, -⟩ := List.cons.inj htext
  exact absurd hc (by decide)

/-- Where no name starts, no directive is found. -/
theorem findDirectiveFrom_quiet {gap : List Char} {inName : Bool}
    (h : isQuiet inName gap = true) (offset : Nat) (rest : List Char) :
    findDirectiveFrom name offset inName (gap ++ rest) =
      findDirectiveFrom name (offset + gap.length) (endsInName inName gap) rest := by
  induction gap generalizing offset inName with
  | nil => simp
  | cons c gap ih =>
    simp only [isQuiet, Bool.and_eq_true, Bool.or_eq_true, Bool.not_eq_true'] at h
    have hnone :
        (if inName then none else directiveAt name offset (c :: (gap ++ rest))) = none := by
      split
      · rfl
      · exact directiveAt_of_not_isNameStart (h.1.resolve_left ‹_›) _ _
    rw [List.cons_append, findDirectiveFrom, hnone, Option.none_or, ih h.2, endsInName_cons,
      List.length_cons, Nat.add_assoc, Nat.add_comm 1]

/-- The directive that is found in a text of words is the first that is declared. -/
theorem findDirectiveFrom_wordsText (hname : isName name = true) (hwords : Worded words)
    {offset : Nat} {inName : Bool} (hinName : words ≠ [] → inName = false) :
    (findDirectiveFrom name offset inName (wordsText words)).map Declaration.start =
      (markedOpening name words).map fun found =>
        offset + (wordsText words).length - (wordsText found).length := by
  induction hwords generalizing offset inName with
  | nil => rfl
  | @cons word rest isName ends quiet apart more ih =>
    have hwords : Worded (word :: rest) := .cons isName ends quiet apart more
    obtain rfl := hinName (List.cons_ne_nil _ _)
    obtain ⟨c, others, hword, hc, hchars⟩ := exists_of_isName isName
    have hcons : wordsText (word :: rest) = c :: ((others ++ word.gap) ++ wordsText rest) := by
      rw [wordsText_cons, hword, List.cons_append, List.append_assoc]
    have hfind : findDirectiveFrom name offset false (wordsText (word :: rest)) =
        (directiveAt name offset (wordsText (word :: rest))).or
          (findDirectiveFrom name (offset + 1) true ((others ++ word.gap) ++ wordsText rest)) := by
      rw [hcons, findDirectiveFrom, if_neg Bool.false_ne_true, isNameChar_of_isNameStart hc]
    rw [hfind, markedOpening]
    cases hdeclares : declaresDirective name (word :: rest) with
    | true =>
      obtain ⟨found, hfound⟩ := Option.isSome_iff_exists.1
        (isSome_directiveAt ((declaresDirective_iff hname hwords).1 hdeclares) offset)
      rw [hfound, Option.some_or, Option.map_some, (opensDeclaration_of_directiveAt hfound).1,
        if_pos rfl, Option.map_some, Nat.add_sub_cancel]
    | false =>
      have hnone : directiveAt name offset (wordsText (word :: rest)) = none := by
        refine Option.eq_none_iff_forall_ne_some.2 fun found hfound => ?_
        have hopens := (opensDeclaration_of_directiveAt hfound).2
        exact absurd (hdeclares.symm.trans ((declaresDirective_iff hname hwords).2 hopens))
          Bool.false_ne_true
      obtain ⟨hquiet, hends⟩ := isQuiet_true_of_nameChars hchars
      have hskip : isQuiet true (others ++ word.gap) = true := by
        rw [isQuiet_append, hquiet, hends, quiet, Bool.true_and]
      have hafter : rest ≠ [] → endsInName true (others ++ word.gap) = false := by
        intro hrest
        rw [endsInName_append, hends, apart hrest]
      have hlength : offset + 1 + (others ++ word.gap).length + (wordsText rest).length =
          offset + (wordsText (word :: rest)).length := by
        simp only [hcons, List.length_cons, List.length_append]
        omega
      rw [hnone, Option.none_or, findDirectiveFrom_quiet hskip, ih hafter, hlength,
        if_neg Bool.false_ne_true]

theorem findDirective_wordsText (hname : isName name = true) (hwords : Worded words)
    {gap : List Char} (hgap : isQuiet false gap = true)
    (hends : words ≠ [] → endsInName false gap = false) :
    (findDirective name (gap ++ wordsText words)).map Declaration.start =
      (markedOpening name words).map fun found =>
        (gap ++ wordsText words).length - (wordsText found).length := by
  rw [findDirective, findDirectiveFrom_quiet hgap, findDirectiveFrom_wordsText hname hwords hends,
    Nat.zero_add, List.length_append]

end Directives

end SchemaDrift
