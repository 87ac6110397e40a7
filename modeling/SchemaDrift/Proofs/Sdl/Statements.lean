import SchemaDrift.Proofs.Sdl.Advances

/-!
# Where the statements of a document stand

Every statement of a document is read from its own tokens.  The one that defines a type or a
directive starts with the word for it, after a description if it has one, and the name comes
next.

* `ReadFrom` — the tokens that each statement of a document is read from.
* `Statement.key?` — what a statement defines.
* `Introduces`, `introduces_of_statement` — the tokens at the start of a definition.
* `exists_placed_of_statementsOf`, `readFrom_of_statementsOf` — the statements of a document are
  read from its tokens, one after the other, and none of these is a fault.
-/

namespace SchemaDrift.Sdl

open Reader

/-! ## The tokens of a statement -/

/-- Among the statements that are read from tokens one after the other, one is read from
`start` on. -/
inductive ReadFrom : List Token → Statement → List Token → Prop where
  | first {tokens rest : List Token} {found : Statement}
      (read : statement tokens = .ok (found, rest)) : ReadFrom tokens found tokens
  | later {tokens rest start : List Token} {first found : Statement}
      (read : statement tokens = .ok (first, rest)) (more : ReadFrom rest found start) :
      ReadFrom tokens found start

/-- It is a statement that is read there. -/
theorem ReadFrom.exists_statement {tokens start : List Token} {found : Statement}
    (h : ReadFrom tokens found start) : ∃ rest, statement start = .ok (found, rest) := by
  induction h with
  | first read => exact ⟨_, read⟩
  | later _ _ ih => exact ih

/-- What comes before a statement is passed without a fault. -/
theorem ReadFrom.advances {tokens start : List Token} {found : Statement}
    (h : ReadFrom tokens found start) (htokens : Untroubled tokens) :
    ∃ passed, tokens = passed ++ start := by
  induction h with
  | first => exact ⟨[], rfl⟩
  | later read _ ih =>
    obtain ⟨hrest, passed, rfl, -⟩ := advances_statement read htokens
    obtain ⟨more, rfl⟩ := ih hrest
    exact ⟨passed ++ more, (List.append_assoc ..).symm⟩

/-- No statement starts at the end of the text. -/
theorem statement_of_stop {tokens rest : List Token} {found : Statement}
    (h : tokens.headD .stop = .stop) : statement tokens ≠ .ok (found, rest) := by
  intro hread
  obtain ⟨next, middle, hpeek, hread⟩ := bind_eq_ok_iff.1 hread
  obtain ⟨rfl, rfl⟩ := peek_eq_ok_iff.1 hpeek
  rw [h] at hread
  obtain ⟨keyword, middle, hkeyword, hread⟩ := bind_eq_ok_iff.1 hread
  obtain ⟨rfl, rfl⟩ := peek_eq_ok_iff.1 hkeyword
  rw [h] at hread
  exact absurd hread nofun

theorem spot_eq_ok_iff {tokens rest : List Token} {found : Spot} :
    spot tokens = .ok (found, rest) ↔ tokens.length = found ∧ tokens = rest := by
  show Except.ok (tokens.length, tokens) = _ ↔ _
  rw [Except.ok.injEq, Prod.mk.injEq]

/-- What can be read as statements: one up to the end of the text, or one and then others. -/
theorem cases_of_statementsWithin {bound : Nat} {tokens rest : List Token}
    {read : List (Statement × Spot)}
    (h : statementsWithin (bound + 1) tokens = .ok (read, rest)) :
    ∃ first middle, statement tokens = .ok (first, middle) ∧
      ((middle.headD .stop = .stop ∧ read = [(first, tokens.length)] ∧ rest = middle) ∨
        ∃ more, statementsWithin bound middle = .ok (more, rest) ∧
          read = (first, tokens.length) :: more) := by
  obtain ⟨spot, start, hspot, h⟩ := bind_eq_ok_iff.1 h
  obtain ⟨rfl, rfl⟩ := spot_eq_ok_iff.1 hspot
  obtain ⟨first, middle, hfirst, h⟩ := bind_eq_ok_iff.1 h
  obtain ⟨next, again, hpeek, h⟩ := bind_eq_ok_iff.1 h
  obtain ⟨rfl, rfl⟩ := peek_eq_ok_iff.1 hpeek
  refine ⟨first, middle, hfirst, ?_⟩
  split at h
  case isTrue hstop =>
    obtain ⟨rfl, rfl⟩ := pure_eq_ok_iff.1 h
    exact .inl ⟨hstop, rfl, rfl⟩
  case isFalse =>
    obtain ⟨more, last, hmore, h⟩ := bind_eq_ok_iff.1 h
    obtain ⟨rfl, rfl⟩ := pure_eq_ok_iff.1 h
    exact .inr ⟨more, hmore, rfl⟩

/-- A statement takes at least one token: otherwise it would be read for ever. -/
theorem statementsWithin_ne_ok_of_stuck {bound : Nat} {tokens rest : List Token}
    {first : Statement} {read : List (Statement × Spot)}
    (hstuck : statement tokens = .ok (first, tokens)) :
    statementsWithin bound tokens ≠ .ok (read, rest) := by
  induction bound generalizing read with
  | zero =>
    intro h
    obtain ⟨_, _, -, hrefused⟩ := bind_eq_ok_iff.1 h
    exact absurd hrefused nofun
  | succ bound ih =>
    intro h
    obtain ⟨found, middle, hfound, hrest⟩ := cases_of_statementsWithin h
    obtain ⟨-, rfl⟩ := Prod.mk.inj (Except.ok.inj (hfound.symm.trans hstuck))
    obtain ⟨hstop, -, -⟩ | ⟨more, hmore, -⟩ := hrest
    · exact statement_of_stop hstop hstuck
    · exact ih hmore

/-- Tokens that come later: some are passed up to them. -/
def IsLater (one other : List Token) : Prop := other <:+ one ∧ other.length < one.length

/-- Statements that are read one after the other, up to the end of the text.  Each is read from
tokens that come after those of the ones before it. -/
theorem exists_placed_of_statementsWithin {bound : Nat} {tokens rest : List Token}
    {read : List (Statement × Spot)} (h : statementsWithin bound tokens = .ok (read, rest))
    (htokens : Untroubled tokens) :
    rest.headD .stop = .stop ∧ ∃ placed : List (Statement × List Token),
      (placed.map fun found => (found.1, found.2.length)) = read ∧
      (∀ found start, (found, start) ∈ placed ↔ ReadFrom tokens found start) ∧
      placed.Pairwise fun one other => IsLater one.2 other.2 := by
  induction bound generalizing tokens read with
  | zero =>
    obtain ⟨_, _, -, hrefused⟩ := bind_eq_ok_iff.1 h
    exact absurd hrefused nofun
  | succ bound ih =>
    have hstuck {first : Statement} : statement tokens ≠ .ok (first, tokens) :=
      fun hfirst => statementsWithin_ne_ok_of_stuck hfirst h
    obtain ⟨first, middle, hfirst, h⟩ := cases_of_statementsWithin h
    have hcases (found : Statement) (start : List Token) : ReadFrom tokens found start ↔
        (found, start) = (first, tokens) ∨ ReadFrom middle found start := by
      constructor
      · intro hread
        cases hread with
        | first read =>
          obtain ⟨rfl, -⟩ := Prod.mk.inj (Except.ok.inj (read.symm.trans hfirst))
          exact .inl rfl
        | later read more =>
          obtain ⟨-, rfl⟩ := Prod.mk.inj (Except.ok.inj (read.symm.trans hfirst))
          exact .inr more
      · rintro (heq | hread)
        · obtain ⟨rfl, rfl⟩ := Prod.mk.inj heq
          exact .first hfirst
        · exact .later hfirst hread
    obtain ⟨hstop, rfl, rfl⟩ | ⟨more, hmore, rfl⟩ := h
    · have hnone (found : Statement) (start : List Token) : ¬ ReadFrom rest found start := by
        intro hread
        cases hread with
        | first read => exact statement_of_stop hstop read
        | later read => exact statement_of_stop hstop read
      refine ⟨hstop, [(first, tokens)], rfl, fun found start => ?_, List.pairwise_singleton _ _⟩
      rw [List.mem_singleton, hcases, or_iff_left (hnone found start)]
    · obtain ⟨hmiddle, passed, hpassed, -⟩ := advances_statement hfirst htokens
      obtain ⟨hrest, placed, rfl, hmem, hplaced⟩ := ih hmore hmiddle
      have hlater : IsLater tokens middle := by
        refine ⟨⟨passed, hpassed.symm⟩, ?_⟩
        rw [hpassed, List.length_append]
        refine Nat.lt_add_of_pos_left (List.length_pos_iff.2 ?_)
        rintro rfl
        rw [List.nil_append] at hpassed
        rw [← hpassed] at hfirst
        exact hstuck hfirst
      refine ⟨hrest, (first, tokens) :: placed, rfl, fun found start => ?_,
        List.pairwise_cons.2 ⟨fun other hother => ?_, hplaced⟩⟩
      · rw [List.mem_cons, hmem, hcases]
      · obtain ⟨skipped, heq⟩ := ((hmem other.1 other.2).1 hother).advances hmiddle
        refine ⟨⟨passed ++ skipped, by rw [List.append_assoc, ← heq, hpassed]⟩, ?_⟩
        exact Nat.lt_of_le_of_lt (List.IsSuffix.length_le ⟨skipped, heq.symm⟩) hlater.2

/-! ## Single tokens -/

section Tokens

variable {tokens rest : List Token}

theorem eq_cons_of_headD {token : Token} (hne : token ≠ .stop)
    (h : tokens.headD .stop = token) : tokens = token :: tokens.tail := by
  cases tokens with
  | nil => exact absurd h.symm hne
  | cons first more =>
    rw [List.headD_cons] at h
    rw [h, List.tail_cons]

/-- A word that has to come next is what is passed. -/
theorem eq_of_expectWord {word : String} {found : Unit}
    (h : expectWord word tokens = .ok (found, rest)) : tokens = .name word :: rest := by
  obtain ⟨token, middle, hpeek, h⟩ := bind_eq_ok_iff.1 h
  obtain ⟨rfl, rfl⟩ := peek_eq_ok_iff.1 hpeek
  split at h
  case isFalse =>
    obtain ⟨_, _, -, hthrow⟩ := bind_eq_ok_iff.1 h
    exact absurd hthrow throw_ne_ok
  case isTrue hword =>
    obtain ⟨hrest, -⟩ := advance_eq_ok_iff.1 h
    rw [← hrest]
    exact eq_cons_of_headD nofun hword

/-- A punctuator that has to come next is what is passed. -/
theorem eq_of_expect {mark : Punct} {found : Unit}
    (h : expect mark tokens = .ok (found, rest)) : tokens = .punct mark :: rest := by
  obtain ⟨token, middle, hpeek, h⟩ := bind_eq_ok_iff.1 h
  obtain ⟨rfl, rfl⟩ := peek_eq_ok_iff.1 hpeek
  split at h
  case isFalse =>
    obtain ⟨_, _, -, hthrow⟩ := bind_eq_ok_iff.1 h
    exact absurd hthrow throw_ne_ok
  case isTrue hmark =>
    obtain ⟨hrest, -⟩ := advance_eq_ok_iff.1 h
    rw [← hrest]
    exact eq_cons_of_headD nofun hmark

/-- A name that is read is what is passed. -/
theorem eq_of_name {found : String} (h : name tokens = .ok (found, rest)) :
    tokens = .name found :: rest := by
  obtain ⟨token, middle, hpeek, h⟩ := bind_eq_ok_iff.1 h
  obtain ⟨htoken, rfl⟩ := peek_eq_ok_iff.1 hpeek
  split at h
  case h_2 =>
    obtain ⟨_, _, -, hthrow⟩ := bind_eq_ok_iff.1 h
    exact absurd hthrow throw_ne_ok
  case h_1 text =>
    obtain ⟨_, _, hadvance, h⟩ := bind_eq_ok_iff.1 h
    obtain ⟨rfl, -⟩ := advance_eq_ok_iff.1 hadvance
    obtain ⟨rfl, rfl⟩ := pure_eq_ok_iff.1 h
    exact eq_cons_of_headD nofun htoken

/-- Tokens after the description that may stand before them. -/
def undescribed (tokens : List Token) : List Token :=
  if (tokens.headD .stop).isDescription then tokens.tail else tokens

theorem undescribed_suffix (tokens : List Token) : undescribed tokens <:+ tokens := by
  rw [undescribed]
  split
  · exact List.tail_suffix tokens
  · exact List.suffix_refl tokens

theorem undescribed_of_description {found : Option String}
    (h : description tokens = .ok (found, rest)) : rest = undescribed tokens := by
  obtain ⟨token, middle, hpeek, h⟩ := bind_eq_ok_iff.1 h
  obtain ⟨htoken, rfl⟩ := peek_eq_ok_iff.1 hpeek
  rw [undescribed, htoken]
  have hpassed {content : String} (h : (advance >>= fun _ => pure (some content)) tokens =
      .ok (found, rest)) : rest = tokens.tail := by
    obtain ⟨_, _, hadvance, h⟩ := bind_eq_ok_iff.1 h
    obtain ⟨rfl, -⟩ := advance_eq_ok_iff.1 hadvance
    exact (pure_eq_ok_iff.1 h).2.symm
  cases token with
  | string content => exact hpassed h
  | block content => exact hpassed h
  | punct | name | int | float | invalid | stop => exact (pure_eq_ok_iff.1 h).2.symm

theorem eq_of_lookahead {token : Token} (h : lookahead tokens = .ok (token, rest)) :
    tokens = rest := by
  cases tokens with
  | nil => exact (pure_eq_ok_iff.1 h).2
  | cons first more =>
    cases more with
    | nil => exact (pure_eq_ok_iff.1 h).2
    | cons second more =>
      cases second with
      | invalid fault => exact absurd h nofun
      | punct | name | int | float | string | block | stop => exact (pure_eq_ok_iff.1 h).2

end Tokens

/-- A token of the rest of a text is found from the number of tokens that are left. -/
theorem exists_lexemeAt? {all : List Lexeme} {passed more : List Token} {token : Token}
    (h : all.map Lexeme.token = passed ++ token :: more) :
    ∃ lexeme ∈ all, lexemeAt? all (token :: more).length = some lexeme ∧ lexeme.token = token := by
  have hlength := congrArg List.length h
  rw [List.length_map, List.length_append] at hlength
  have hget : (all.map Lexeme.token)[passed.length]? = some token := by
    rw [h, List.getElem?_append_right (Nat.le_refl _), Nat.sub_self, List.getElem?_cons_zero]
  rw [List.getElem?_map] at hget
  obtain ⟨lexeme, hlexeme, htoken⟩ := Option.map_eq_some_iff.1 hget
  refine ⟨lexeme, List.mem_of_getElem? hlexeme, ?_, htoken⟩
  rw [lexemeAt?, hlength, Nat.add_sub_cancel, hlexeme]

/-! ## What statements define -/

/-- The path of what a statement defines: a type or a directive.  Extensions define
nothing. -/
def Statement.key? : Statement → Option String
  | .type node => if node.extending then none else some node.name
  | .directive node => some ("@" ++ node.name)
  | _ => none

/-- Tokens start with the word for a definition and what is defined. -/
inductive Introduces : List Token → String → Prop where
  | type {word : String} (isWord : word ∈ typeWords) (name : String) (more : List Token) :
      Introduces (.name word :: .name name :: more) name
  | directive (name : String) (more : List Token) :
      Introduces (.name "directive" :: .punct .atSign :: .name name :: more) ("@" ++ name)

/-- All that a reader yields has a property. -/
def Yields {α : Type} (property : α → Prop) (reader : Reader α) : Prop :=
  ∀ ⦃tokens found rest⦄, reader tokens = .ok (found, rest) → property found

namespace Yields

variable {α β : Type} {property : β → Prop}

theorem pure {value : β} (h : property value) : Yields property (pure value : Reader β) := by
  intro tokens found rest hread
  obtain ⟨rfl, -⟩ := pure_eq_ok_iff.1 hread
  exact h

theorem throw (refusal : Refusal) : Yields property (throw refusal : Reader β) :=
  fun _ _ _ hread => absurd hread throw_ne_ok

theorem bind {first : Reader α} {next : α → Reader β} (h : ∀ value, Yields property (next value)) :
    Yields property (first >>= next) := by
  intro tokens found rest hread
  obtain ⟨value, middle, -, hfound⟩ := bind_eq_ok_iff.1 hread
  exact h value hfound

theorem ite {condition : Prop} [Decidable condition] {one other : Reader β}
    (hone : Yields property one) (hother : Yields property other) :
    Yields property (if condition then one else other) := by
  split
  · exact hone
  · exact hother

end Yields

/-- A statement that defines nothing. -/
abbrev DefinesNothing (found : Statement) : Prop := found.key? = none

theorem yields_schemaDefinition : Yields DefinesNothing schemaDefinition :=
  .bind fun _ => .bind fun _ => .bind fun _ => .bind fun _ => .pure rfl

theorem yields_fragmentDefinition : Yields DefinesNothing fragmentDefinition :=
  .bind fun _ => .bind fun _ => .bind fun _ => .bind fun _ => .bind fun _ => .bind fun _ =>
    .bind fun _ => .pure rfl

theorem yields_operationDefinition : Yields DefinesNothing operationDefinition :=
  .bind fun _ => .ite (.bind fun _ => .pure rfl)
    (.bind fun _ => .bind fun _ => .bind fun _ => .bind fun _ => .bind fun _ => .bind fun _ =>
      .pure rfl)

theorem yields_extension : Yields DefinesNothing extension := by
  have htype (word : String) : Yields DefinesNothing (typeExtension word) :=
    .bind fun _ => .bind fun _ => .bind fun _ => .bind fun _ =>
      .ite (.bind fun _ => .pure rfl) (.pure rfl)
  have hschema : Yields DefinesNothing schemaExtension :=
    .bind fun _ => .bind fun _ => .bind fun _ => .bind fun _ =>
      .ite (.bind fun _ => .pure rfl) (.pure rfl)
  have hdirective : Yields DefinesNothing directiveExtension :=
    .bind fun _ => .bind fun _ => .bind fun _ => .bind fun _ => .bind fun _ =>
      .ite (.bind fun _ => .pure rfl) (.pure rfl)
  refine .bind fun next => ?_
  split
  · exact .ite hschema (.ite hdirective (.ite (htype _) (.bind fun _ => .throw _)))
  · exact .bind fun _ => .throw _

section Definitions

variable {tokens rest : List Token} {found : Statement} {key : String}

theorem introduces_of_typeDefinition {word : String} (hword : word ∈ typeWords)
    (h : typeDefinition word tokens = .ok (found, rest)) (hkey : found.key? = some key) :
    Introduces (undescribed tokens) key := by
  obtain ⟨description, start, hdescription, h⟩ := bind_eq_ok_iff.1 h
  obtain ⟨_, afterWord, hexpect, h⟩ := bind_eq_ok_iff.1 h
  obtain ⟨name, afterName, hname, h⟩ := bind_eq_ok_iff.1 h
  obtain ⟨content, afterContent, -, h⟩ := bind_eq_ok_iff.1 h
  obtain ⟨rfl, -⟩ := pure_eq_ok_iff.1 h
  obtain rfl := Option.some.inj hkey
  rw [← undescribed_of_description hdescription, eq_of_expectWord hexpect, eq_of_name hname]
  exact .type hword name afterName

theorem introduces_of_directiveDefinition
    (h : directiveDefinition tokens = .ok (found, rest)) (hkey : found.key? = some key) :
    Introduces (undescribed tokens) key := by
  obtain ⟨description, start, hdescription, h⟩ := bind_eq_ok_iff.1 h
  obtain ⟨_, afterWord, hexpect, h⟩ := bind_eq_ok_iff.1 h
  obtain ⟨_, afterSign, hsign, h⟩ := bind_eq_ok_iff.1 h
  obtain ⟨name, afterName, hname, h⟩ := bind_eq_ok_iff.1 h
  have hyields : Yields (fun found => found.key? = some ("@" ++ name))
      (do
        let args ← arguments
        let directives ← directives
        let repeatable ← accept (.name "repeatable")
        expectWord "on"
        let locations ← delimited .pipe place
        return Statement.directive
          { description, name, args, directives, repeatable, locations }) :=
    .bind fun _ => .bind fun _ => .bind fun _ => .bind fun _ => .bind fun _ => .pure rfl
  obtain rfl := Option.some.inj (hkey.symm.trans (hyields h))
  rw [← undescribed_of_description hdescription, eq_of_expectWord hexpect, eq_of_expect hsign,
    eq_of_name hname]
  exact .directive name afterName

theorem introduces_of_describable {word : String} {reader : Reader Statement}
    (hreader : describable? word = some reader) (h : reader tokens = .ok (found, rest))
    (hkey : found.key? = some key) : Introduces (undescribed tokens) key := by
  have hnothing (hnone : found.key? = none) : Introduces (undescribed tokens) key :=
    absurd (hnone.symm.trans hkey) nofun
  unfold describable? at hreader
  split at hreader
  · obtain rfl := Option.some.inj hreader
    exact hnothing (yields_schemaDefinition h)
  split at hreader
  · obtain rfl := Option.some.inj hreader
    exact introduces_of_directiveDefinition h hkey
  split at hreader
  · obtain rfl := Option.some.inj hreader
    exact hnothing (yields_fragmentDefinition h)
  split at hreader
  case isTrue hword =>
    obtain rfl := Option.some.inj hreader
    exact introduces_of_typeDefinition (List.contains_iff_mem.1 hword) h hkey
  split at hreader
  · obtain rfl := Option.some.inj hreader
    exact hnothing (yields_operationDefinition h)
  · exact absurd hreader nofun

/-- A statement that defines something starts with the word for it and its name. -/
theorem introduces_of_statement (h : statement tokens = .ok (found, rest))
    (hkey : found.key? = some key) : Introduces (undescribed tokens) key := by
  have hnothing {reader : Reader Statement} (hyields : Yields DefinesNothing reader)
      (h : reader tokens = .ok (found, rest)) : Introduces (undescribed tokens) key :=
    absurd ((hyields h).symm.trans hkey) nofun
  have hrefused {keyword : Token} {back : Nat} : Yields DefinesNothing
      (do throw ⟨.unexpected keyword, (← spot) - back⟩ : Reader Statement) :=
    .bind fun _ => .throw _
  have hrefuse {fault : Fault} : Yields DefinesNothing (refuse fault) := .bind fun _ => .throw _
  obtain ⟨next, middle, hpeek, h⟩ := bind_eq_ok_iff.1 h
  obtain ⟨-, rfl⟩ := peek_eq_ok_iff.1 hpeek
  dsimp only at h
  -- Whether the word comes next or after a description, it decides alike.
  split at h
  case isTrue =>
    obtain ⟨keyword, middle, hkeyword, h⟩ := bind_eq_ok_iff.1 h
    obtain rfl := eq_of_lookahead hkeyword
    split at h
    case h_1 => exact hnothing hrefuse h
    case h_3 => exact hnothing hrefused h
    case h_2 word =>
      cases hreader : describable? word with
      | some reader =>
        rw [hreader] at h
        exact introduces_of_describable hreader h hkey
      | none =>
        rw [hreader] at h
        exact hnothing hrefuse h
  case isFalse =>
    obtain ⟨keyword, middle, hkeyword, h⟩ := bind_eq_ok_iff.1 h
    obtain ⟨-, rfl⟩ := peek_eq_ok_iff.1 hkeyword
    split at h
    case h_1 => exact hnothing yields_operationDefinition h
    case h_3 => exact hnothing hrefused h
    case h_2 word =>
      cases hreader : describable? word with
      | some reader =>
        rw [hreader] at h
        exact introduces_of_describable hreader h hkey
      | none =>
        rw [hreader] at h
        exact hnothing (.ite yields_extension hrefused) h

end Definitions

/-! ## Whole documents -/

/-- Statements that are read from tokens, each with the tokens that it is read from.  None of the
tokens up to the end of the text is a fault. -/
theorem exists_placed_of_statementsOf {tokens : List Token} {read : List (Statement × Spot)}
    (h : statementsOf tokens = .ok read) :
    Untroubled tokens ∧
      (∃ passed rest, tokens = passed ++ rest ∧ rest.headD .stop = .stop ∧
        ∀ fault, .invalid fault ∉ passed) ∧
      ∃ placed : List (Statement × List Token),
        (placed.map fun found => (found.1, found.2.length)) = read ∧
        (∀ found start, (found, start) ∈ placed ↔ ReadFrom tokens found start) ∧
        placed.Pairwise fun one other => IsLater one.2 other.2 := by
  have hread : ∃ rest, Sdl.document tokens = .ok (read, rest) := by
    unfold statementsOf at h
    cases hdocument : Sdl.document tokens with
    | error refusal =>
      rw [hdocument] at h
      exact absurd h nofun
    | ok found =>
      rw [hdocument] at h
      obtain rfl := Except.ok.inj h
      exact ⟨found.2, rfl⟩
  obtain ⟨rest, hread⟩ := hread
  obtain ⟨_, middle, hcheck, hread⟩ := bind_eq_ok_iff.1 hread
  obtain ⟨rfl, htokens⟩ := checkToken_eq_ok_iff.1 hcheck
  obtain ⟨bound, middle, hbound, hread⟩ := bind_eq_ok_iff.1 hread
  obtain ⟨-, rfl⟩ := Prod.mk.inj (Except.ok.inj hbound)
  obtain ⟨hrest, hstatements⟩ := exists_placed_of_statementsWithin hread htokens
  obtain ⟨-, passed, heq, hpassed⟩ := advances_statementsWithin bound hread htokens
  exact ⟨htokens, ⟨passed, rest, heq, hrest, hpassed⟩, hstatements⟩

/-- The statements that are read are those that stand among the tokens. -/
theorem readFrom_of_statementsOf {tokens : List Token} {read : List (Statement × Spot)}
    (h : statementsOf tokens = .ok read) :
    Untroubled tokens ∧
      (∃ passed rest, tokens = passed ++ rest ∧ rest.headD .stop = .stop ∧
        ∀ fault, .invalid fault ∉ passed) ∧
      ∀ found, found ∈ read.map Prod.fst ↔ ∃ start, ReadFrom tokens found start := by
  obtain ⟨htokens, hrest, placed, rfl, hmem, -⟩ := exists_placed_of_statementsOf h
  refine ⟨htokens, hrest, fun found => ?_⟩
  rw [List.map_map, List.mem_map]
  constructor
  · rintro ⟨⟨_, start⟩, hfound, rfl⟩
    exact ⟨start, (hmem _ start).1 hfound⟩
  · rintro ⟨start, hread⟩
    exact ⟨(found, start), (hmem found start).2 hread, rfl⟩

end SchemaDrift.Sdl
