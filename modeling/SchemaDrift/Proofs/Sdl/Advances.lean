import SchemaDrift.Sdl.Grammar

/-!
# Readers only move on

A reader that succeeds has passed some of its tokens, none of them a fault, and the rest is
left as it stood.

* `Untroubled` — no fault comes next.
* `Reader.Advances` — what a reader does that only moves on.
* `advances_statement` — the reader of statements is one.
-/

namespace SchemaDrift.Sdl

/-- What comes next is no fault. -/
def Untroubled (tokens : List Token) : Prop := ∀ fault, tokens.head? ≠ some (.invalid fault)

namespace Reader

variable {α β : Type}

/-! ## Readers in a row -/

theorem bind_eq_ok_iff {first : Reader α} {next : α → Reader β} {tokens rest : List Token}
    {found : β} : (first >>= next) tokens = .ok (found, rest) ↔
      ∃ value middle, first tokens = .ok (value, middle) ∧
        next value middle = .ok (found, rest) := by
  show Except.bind (first tokens) (fun read => next read.1 read.2) = _ ↔ _
  cases first tokens with
  | error refusal => exact iff_of_false nofun fun ⟨_, _, h, _⟩ => absurd h nofun
  | ok read =>
    constructor
    · exact fun h => ⟨read.1, read.2, rfl, h⟩
    · rintro ⟨value, middle, h, hnext⟩
      obtain rfl := Except.ok.inj h
      exact hnext

theorem pure_eq_ok_iff {value found : α} {tokens rest : List Token} :
    (pure value : Reader α) tokens = .ok (found, rest) ↔ value = found ∧ tokens = rest := by
  show Except.ok (value, tokens) = _ ↔ _
  rw [Except.ok.injEq, Prod.mk.injEq]

theorem get_eq_ok_iff {tokens rest found : List Token} :
    (get : Reader (List Token)) tokens = .ok (found, rest) ↔ tokens = found ∧ tokens = rest := by
  show Except.ok (tokens, tokens) = _ ↔ _
  rw [Except.ok.injEq, Prod.mk.injEq]

theorem throw_ne_ok {refusal : Refusal} {found : α} {tokens rest : List Token} :
    (throw refusal : Reader α) tokens ≠ .ok (found, rest) := nofun

theorem peek_eq_ok_iff {tokens rest : List Token} {found : Token} :
    peek tokens = .ok (found, rest) ↔ tokens.headD .stop = found ∧ tokens = rest := by
  show Except.ok (tokens.headD .stop, tokens) = _ ↔ _
  rw [Except.ok.injEq, Prod.mk.injEq]

/-- A reader passes tokens without a fault, and does not stop before a fault. -/
def Advances (reader : Reader α) : Prop :=
  ∀ ⦃tokens : List Token⦄ ⦃found : α⦄ ⦃rest : List Token⦄, reader tokens = .ok (found, rest) →
    Untroubled tokens →
      Untroubled rest ∧ ∃ passed, tokens = passed ++ rest ∧ ∀ fault, .invalid fault ∉ passed

namespace Advances

/-- What leaves the tokens as they are moves on by none. -/
theorem of_same {reader : Reader α}
    (h : ∀ tokens found rest, reader tokens = .ok (found, rest) → tokens = rest) :
    Advances reader := by
  intro tokens found rest hread htokens
  obtain rfl := h tokens found rest hread
  exact ⟨htokens, [], rfl, fun _ => List.not_mem_nil⟩

theorem pure (value : α) : Advances (pure value : Reader α) :=
  of_same fun _ _ _ h => (pure_eq_ok_iff.1 h).2

theorem throw (refusal : Refusal) : Advances (throw refusal : Reader α) :=
  fun _ _ _ h => absurd h throw_ne_ok

theorem bind {first : Reader α} {next : α → Reader β} (hfirst : Advances first)
    (hnext : ∀ value, Advances (next value)) : Advances (first >>= next) := by
  intro tokens found rest h htokens
  obtain ⟨value, middle, hvalue, hfound⟩ := bind_eq_ok_iff.1 h
  obtain ⟨hmiddle, passed, rfl, hpassed⟩ := hfirst hvalue htokens
  obtain ⟨hrest, more, rfl, hmore⟩ := hnext value hfound hmiddle
  refine ⟨hrest, passed ++ more, (List.append_assoc ..).symm, fun fault hmem => ?_⟩
  exact (List.mem_append.1 hmem).elim (hpassed fault) (hmore fault)

theorem map {reader : Reader α} (f : α → β) (h : Advances reader) : Advances (f <$> reader) :=
  h.bind fun _ => pure _

theorem ite {condition : Prop} [Decidable condition] {one other : Reader α}
    (hone : Advances one) (hother : Advances other) :
    Advances (if condition then one else other) := by
  split
  · exact hone
  · exact hother

theorem get : Advances (get : Reader (List Token)) :=
  of_same fun _ _ _ h => (get_eq_ok_iff.1 h).2

end Advances

/-! ## Single tokens -/

theorem advances_peek : Advances peek := .bind .get fun _ => .pure _

theorem advances_spot : Advances spot := .bind .get fun _ => .pure _

theorem advances_bound : Advances bound := .bind .get fun _ => .pure _

theorem advances_refuse (fault : Fault) : Advances (refuse fault : Reader α) :=
  .bind advances_spot fun _ => .throw _

theorem advances_unexpected : Advances (unexpected : Reader α) :=
  .bind advances_peek fun _ => advances_refuse _

theorem advances_lookahead : Advances lookahead := by
  refine .bind .get fun tokens => ?_
  split
  · exact .pure _
  · exact .throw _
  · exact .pure _

theorem checkToken_eq_ok_iff {tokens rest : List Token} :
    checkToken tokens = .ok ((), rest) ↔ tokens = rest ∧ Untroubled tokens := by
  cases tokens with
  | nil =>
    have hcheck : checkToken [] = .ok ((), []) := rfl
    rw [hcheck, Except.ok.injEq, Prod.mk.injEq]
    exact ⟨fun h => ⟨h.2, fun _ => nofun⟩, fun h => ⟨rfl, h.1⟩⟩
  | cons token more =>
    cases token with
    | invalid fault => exact iff_of_false nofun fun h => h.2 fault rfl
    | punct | name | int | float | string | block | stop =>
      refine Iff.trans pure_eq_ok_iff ⟨fun h => ⟨h.2, fun _ => nofun⟩, fun h => ⟨rfl, h.1⟩⟩

theorem advance_eq_ok_iff {tokens rest : List Token} :
    advance tokens = .ok ((), rest) ↔ tokens.tail = rest ∧ Untroubled tokens.tail :=
  checkToken_eq_ok_iff

theorem advances_advance : Advances advance := by
  intro tokens found rest h htokens
  obtain ⟨rfl, hrest⟩ := advance_eq_ok_iff.1 h
  refine ⟨hrest, tokens.head?.toList, ?_, fun fault hmem => ?_⟩
  · cases tokens <;> rfl
  · exact htokens fault (Option.mem_toList.1 hmem)

theorem advances_accept (token : Token) : Advances (accept token) :=
  .bind advances_peek fun _ => .ite (.bind advances_advance fun _ => .pure _) (.pure _)

theorem advances_expect (mark : Punct) : Advances (expect mark) :=
  .bind advances_peek fun _ => .ite advances_advance (advances_refuse _)

theorem advances_expectWord (word : String) : Advances (expectWord word) :=
  .bind advances_peek fun _ => .ite advances_advance (advances_refuse _)

theorem advances_name : Advances name := by
  refine .bind advances_peek fun token => ?_
  split
  · exact .bind advances_advance fun _ => .pure _
  · exact advances_refuse _

/-! ## Rows -/

section Rows

variable {item : Reader α}

theorem advances_untilClose (close : Punct) (h : Advances item) (bound : Nat) :
    Advances (untilClose close item bound) := by
  induction bound with
  | zero => exact advances_unexpected
  | succ bound ih =>
    exact .bind (advances_accept _) fun _ =>
      .ite (.pure _) (.bind h fun _ => .bind ih fun _ => .pure _)

theorem advances_many (start close : Punct) (h : Advances item) :
    Advances (many start close item) :=
  .bind (advances_expect _) fun _ => .bind h fun _ => .bind advances_bound fun bound =>
    .bind (advances_untilClose close h bound) fun _ => .pure _

theorem advances_any (start close : Punct) (h : Advances item) :
    Advances (any start close item) :=
  .bind (advances_expect _) fun _ => .bind advances_bound fun bound =>
    advances_untilClose close h bound

theorem advances_optionalMany (start close : Punct) (h : Advances item) :
    Advances (optionalMany start close item) :=
  .bind advances_peek fun _ => .ite (advances_many start close h) (.pure _)

theorem advances_moreDelimited (delimiter : Punct) (h : Advances item) (bound : Nat) :
    Advances (moreDelimited delimiter item bound) := by
  induction bound with
  | zero => exact advances_unexpected
  | succ bound ih =>
    exact .bind (advances_accept _) fun _ =>
      .ite (.bind h fun _ => .bind ih fun _ => .pure _) (.pure _)

theorem advances_delimited (delimiter : Punct) (h : Advances item) :
    Advances (delimited delimiter item) :=
  .bind (advances_accept _) fun _ => .bind h fun _ => .bind advances_bound fun bound =>
    .bind (advances_moreDelimited delimiter h bound) fun _ => .pure _

end Rows

end Reader

open Reader

/-! ## Types, values and applied directives -/

theorem advances_typeRefOf {item : Reader TypeRef} (h : Advances item) :
    Advances (typeRefOf item) := by
  have hmark (inner : TypeRef) : Advances (do
      if ← accept (.punct .bang) then return .nonNull inner else return inner) :=
    .bind (advances_accept _) fun _ => .ite (.pure _) (.pure _)
  exact .bind (advances_accept _) fun _ => .ite
    (.bind h fun _ => .bind (advances_expect _) fun _ => .bind (.pure _) hmark)
    (.bind advances_name fun _ => .bind (.pure _) hmark)

theorem advances_type : Advances type := by
  have hwithin (room : Nat) : Advances (typeRefWithin room) := by
    induction room with
    | zero => exact advances_typeRefOf (advances_refuse _)
    | succ room ih => exact advances_typeRefOf ih
  exact hwithin nestingLimit

theorem advances_reference (constancy : Constancy) : Advances (reference constancy) := by
  refine .bind advances_spot fun _ => .bind advances_advance fun _ =>
    .bind advances_peek fun _ => ?_
  split
  · exact .bind advances_name fun _ => .pure _
  · exact .throw _
  · exact .throw _

theorem advances_simpleValue (constancy : Constancy) : Advances (simpleValue constancy) := by
  refine .bind advances_peek fun _ => ?_
  split
  · exact .bind advances_advance fun _ => .pure _
  · exact .bind advances_advance fun _ => .pure _
  · exact .bind advances_advance fun _ => .pure _
  · exact .bind advances_advance fun _ => .pure _
  · exact .bind advances_advance fun _ => .pure _
  · exact advances_reference constancy
  · exact advances_unexpected

theorem advances_entry {item : Reader Literal} (h : Advances item) : Advances (entry item) :=
  .bind advances_name fun _ => .bind (advances_expect _) fun _ => .bind h fun _ => .pure _

theorem advances_valueWithin (constancy : Constancy) (room : Nat) :
    Advances (valueWithin constancy room) := by
  induction room with
  | zero =>
    refine .bind advances_peek fun _ => ?_
    split
    · exact advances_refuse _
    · exact advances_refuse _
    · exact advances_simpleValue constancy
  | succ room ih =>
    refine .bind advances_peek fun _ => ?_
    split
    · exact .bind (advances_any _ _ ih) fun _ => .pure _
    · exact .bind (advances_any _ _ (advances_entry ih)) fun _ => .pure _
    · exact advances_simpleValue constancy

theorem advances_value : Advances value := advances_valueWithin .constant nestingLimit

theorem advances_argument {item : Reader Literal} (h : Advances item) :
    Advances (argument item) :=
  .bind advances_name fun _ => .bind (advances_expect _) fun _ => .bind advances_spot fun _ =>
    .bind h fun _ => .pure _

theorem advances_argumentsOf {item : Reader Literal} (h : Advances item) :
    Advances (argumentsOf item) := advances_optionalMany _ _ (advances_argument h)

theorem advances_applied {item : Reader Literal} (h : Advances item) : Advances (applied item) :=
  .bind advances_spot fun _ => .bind (advances_expect _) fun _ => .bind advances_name fun _ =>
    .bind (advances_argumentsOf h) fun _ => .pure _

theorem advances_directivesOf {item : Reader Literal} (h : Advances item) :
    Advances (directivesOf item) := by
  have hwithin (bound : Nat) : Advances (appliedWithin item bound) := by
    induction bound with
    | zero => exact advances_unexpected
    | succ bound ih =>
      exact .bind advances_peek fun _ =>
        .ite (.bind (advances_applied h) fun _ => .bind ih fun _ => .pure _) (.pure _)
  exact .bind advances_bound hwithin

theorem advances_directives : Advances directives := advances_directivesOf advances_value

theorem advances_description : Advances description := by
  refine .bind advances_peek fun _ => ?_
  split
  · exact .bind advances_advance fun _ => .pure _
  · exact .bind advances_advance fun _ => .pure _
  · exact .pure _

/-- A value that may be left out. -/
theorem advances_defaultValue {next : Option Literal → Reader α}
    (h : ∀ value, Advances (next value)) :
    Advances (accept (.punct .equals) >>= fun given =>
      if given = true then (some <$> value) >>= next else pure none >>= next) :=
  .bind (advances_accept _) fun _ =>
    .ite (.bind (.map _ advances_value) h) (.bind (.pure _) h)

/-! ## Operations and fragments -/

theorem advances_fragmentName : Advances fragmentName :=
  .bind advances_peek fun _ =>
    .ite (.bind advances_unexpected fun _ => advances_name) advances_name

section Selections

variable {inner : Inner}

theorem advances_fieldSelection (hvalue : Advances inner.value)
    (hselections : Advances inner.selections) : Advances (fieldSelection inner) := by
  have hfield (names : Option String × String) : Advances (do
      let args ← argumentsOf inner.value
      let directives ← directivesOf inner.value
      let selections ← if (← peek) = .punct .braceOpen then inner.selections else pure []
      return Selection.field names.1 names.2 args directives selections) :=
    .bind (advances_argumentsOf hvalue) fun _ => .bind (advances_directivesOf hvalue) fun _ =>
      .bind advances_peek fun _ =>
        .ite (.bind hselections fun _ => .pure _) (.bind (.pure _) fun _ => .pure _)
  exact .bind advances_name fun _ => .bind (advances_accept _) fun _ =>
    .ite (.bind advances_name fun _ => .bind (.pure _) hfield) (.bind (.pure _) hfield)

theorem advances_inlineSelection (hvalue : Advances inner.value)
    (hselections : Advances inner.selections) (type : Option String) :
    Advances (inlineSelection inner type) :=
  .bind (advances_directivesOf hvalue) fun _ => .bind hselections fun _ => .pure _

theorem advances_fragmentSelection (hvalue : Advances inner.value)
    (hselections : Advances inner.selections) : Advances (fragmentSelection inner) := by
  refine .bind (advances_expect _) fun _ => .bind (advances_accept _) fun _ => .ite ?_ ?_
  · exact .bind advances_name fun _ => advances_inlineSelection hvalue hselections _
  · refine .bind advances_peek fun _ => ?_
    split
    · exact .bind advances_fragmentName fun _ =>
        .bind (advances_directivesOf hvalue) fun _ => .pure _
    · exact advances_inlineSelection hvalue hselections _

theorem advances_selection (hvalue : Advances inner.value)
    (hselections : Advances inner.selections) : Advances (selection inner) :=
  .bind advances_peek fun _ =>
    .ite (advances_fragmentSelection hvalue hselections)
      (advances_fieldSelection hvalue hselections)

end Selections

theorem advances_selections : Advances selections := by
  have hwithin (room : Nat) : Advances (selectionsWithin room) := by
    induction room with
    | zero => exact advances_refuse _
    | succ room ih =>
      exact advances_any _ _ (advances_selection (advances_valueWithin _ room) ih)
  exact hwithin nestingLimit

theorem advances_varyingDirectives : Advances varyingDirectives :=
  advances_directivesOf (advances_valueWithin _ _)

theorem advances_parameter : Advances parameter :=
  .bind advances_description fun _ => .bind (advances_expect _) fun _ =>
    .bind advances_name fun _ => .bind (advances_expect _) fun _ => .bind advances_type fun _ =>
      advances_defaultValue fun _ => .bind advances_directives fun _ => .pure _

theorem advances_operationKind : Advances operationKind := by
  refine .bind advances_peek fun _ => .bind advances_spot fun _ =>
    .bind advances_name fun _ => ?_
  split
  · exact .pure _
  · exact .throw _

theorem advances_optionalName : Advances optionalName := by
  refine .bind advances_peek fun _ => ?_
  split
  · exact .map _ advances_name
  · exact .pure _

theorem advances_operationDefinition : Advances operationDefinition :=
  .bind advances_peek fun _ => .ite (.bind advances_selections fun _ => .pure _)
    (.bind advances_description fun _ => .bind advances_operationKind fun _ =>
      .bind advances_optionalName fun _ =>
        .bind (advances_optionalMany _ _ advances_parameter) fun _ =>
          .bind advances_varyingDirectives fun _ => .bind advances_selections fun _ => .pure _)

theorem advances_fragmentDefinition : Advances fragmentDefinition :=
  .bind advances_description fun _ => .bind (advances_expectWord _) fun _ =>
    .bind advances_fragmentName fun _ => .bind (advances_expectWord _) fun _ =>
      .bind advances_name fun _ => .bind advances_varyingDirectives fun _ =>
        .bind advances_selections fun _ => .pure _

/-! ## Members -/

theorem advances_inputNode : Advances inputNode :=
  .bind advances_description fun _ => .bind advances_name fun _ =>
    .bind (advances_expect _) fun _ => .bind advances_type fun _ =>
      advances_defaultValue fun _ => .bind advances_directives fun _ => .pure _

theorem advances_arguments : Advances arguments := advances_optionalMany _ _ advances_inputNode

theorem advances_fieldNode : Advances fieldNode :=
  .bind advances_description fun _ => .bind advances_name fun _ =>
    .bind advances_arguments fun _ => .bind (advances_expect _) fun _ =>
      .bind advances_type fun _ => .bind advances_directives fun _ => .pure _

theorem advances_valueNode : Advances valueNode := by
  have hvalue (described : Option String) : Advances (do
      let name ← name
      let directives ← directives
      return ({ description := described, name, directives } : ValueNode)) :=
    .bind advances_name fun _ => .bind advances_directives fun _ => .pure _
  exact .bind advances_description fun described => .bind advances_peek fun _ =>
    .ite (.bind (advances_refuse _) fun _ => hvalue described) (hvalue described)

theorem advances_place : Advances place := by
  refine .bind advances_peek fun _ => .bind advances_spot fun _ =>
    .bind advances_name fun _ => ?_
  split
  · exact .pure _
  · exact .throw _

theorem advances_entryPoint : Advances entryPoint :=
  .bind advances_operationKind fun _ => .bind (advances_expect _) fun _ =>
    .bind advances_name fun _ => .pure _

theorem advances_interfaces : Advances interfaces :=
  .bind (advances_accept _) fun _ => .ite (advances_delimited _ advances_name) (.pure _)

theorem advances_fields : Advances fields := advances_optionalMany _ _ advances_fieldNode

/-! ## Statements -/

theorem advances_typeContent (word : String) : Advances (typeContent word) := by
  unfold typeContent
  split
  · exact .bind advances_interfaces fun _ => .bind advances_directives fun _ =>
      .bind advances_fields fun _ => .pure _
  · exact .bind advances_interfaces fun _ => .bind advances_directives fun _ =>
      .bind advances_fields fun _ => .pure _
  · exact .bind advances_directives fun _ => .bind (advances_accept _) fun _ =>
      .ite (.bind (advances_delimited _ advances_name) fun _ => .pure _)
        (.bind (.pure _) fun _ => .pure _)
  · exact .bind advances_directives fun _ =>
      .bind (advances_optionalMany _ _ advances_valueNode) fun _ => .pure _
  · exact .bind advances_directives fun _ =>
      .bind (advances_optionalMany _ _ advances_inputNode) fun _ => .pure _
  · exact .bind advances_directives fun _ => .pure _

theorem advances_typeDefinition (word : String) : Advances (typeDefinition word) :=
  .bind advances_description fun _ => .bind (advances_expectWord _) fun _ =>
    .bind advances_name fun _ => .bind (advances_typeContent word) fun _ => .pure _

theorem advances_typeExtension (word : String) : Advances (typeExtension word) :=
  .bind (advances_expectWord _) fun _ => .bind (advances_expectWord _) fun _ =>
    .bind advances_name fun _ => .bind (advances_typeContent word) fun _ =>
      .ite (.bind advances_unexpected fun _ => .pure _) (.pure _)

theorem advances_schemaDefinition : Advances schemaDefinition :=
  .bind advances_description fun _ => .bind (advances_expectWord _) fun _ =>
    .bind advances_directives fun _ => .bind (advances_many _ _ advances_entryPoint) fun _ =>
      .pure _

theorem advances_schemaExtension : Advances schemaExtension :=
  .bind (advances_expectWord _) fun _ => .bind (advances_expectWord _) fun _ =>
    .bind advances_directives fun _ =>
      .bind (advances_optionalMany _ _ advances_entryPoint) fun _ =>
        .ite (.bind advances_unexpected fun _ => .pure _) (.pure _)

theorem advances_directiveDefinition : Advances directiveDefinition :=
  .bind advances_description fun _ => .bind (advances_expectWord _) fun _ =>
    .bind (advances_expect _) fun _ => .bind advances_name fun _ =>
      .bind advances_arguments fun _ => .bind advances_directives fun _ =>
        .bind (advances_accept _) fun _ => .bind (advances_expectWord _) fun _ =>
          .bind (advances_delimited _ advances_place) fun _ => .pure _

theorem advances_directiveExtension : Advances directiveExtension :=
  .bind (advances_expectWord _) fun _ => .bind (advances_expectWord _) fun _ =>
    .bind (advances_expect _) fun _ => .bind advances_name fun _ =>
      .bind advances_directives fun _ =>
        .ite (.bind advances_unexpected fun _ => .pure _) (.pure _)

theorem advances_extension : Advances extension := by
  refine .bind advances_lookahead fun _ => ?_
  split
  · exact .ite advances_schemaExtension
      (.ite advances_directiveExtension
        (.ite (advances_typeExtension _) (.bind advances_spot fun _ => .throw _)))
  · exact .bind advances_spot fun _ => .throw _

theorem advances_of_describable {word : String} {reader : Reader Statement}
    (h : describable? word = some reader) : Advances reader := by
  unfold describable? at h
  split at h
  · exact Option.some.inj h ▸ advances_schemaDefinition
  split at h
  · exact Option.some.inj h ▸ advances_directiveDefinition
  split at h
  · exact Option.some.inj h ▸ advances_fragmentDefinition
  split at h
  · exact Option.some.inj h ▸ advances_typeDefinition word
  split at h
  · exact Option.some.inj h ▸ advances_operationDefinition
  · exact absurd h nofun

theorem advances_statement : Advances statement := by
  refine .bind advances_peek fun next => ?_
  have hrefused (keyword : Token) (back : Nat) :
      Advances (do throw ⟨.unexpected keyword, (← spot) - back⟩ : Reader Statement) :=
    .bind advances_spot fun _ => .throw _
  dsimp only
  refine .ite (.bind advances_lookahead fun keyword => ?_) (.bind advances_peek fun keyword => ?_)
  all_goals
    split
    · exact .ite (advances_refuse _) advances_operationDefinition
    · split
      · exact advances_of_describable ‹_›
      · exact .ite (advances_refuse _) (.ite advances_extension (hrefused _ _))
    · exact hrefused _ _

theorem advances_statementsWithin (bound : Nat) : Advances (statementsWithin bound) := by
  induction bound with
  | zero => exact advances_unexpected
  | succ bound ih =>
    exact .bind advances_spot fun _ => .bind advances_statement fun _ => .bind advances_peek fun _ =>
      .ite (.pure _) (.bind ih fun _ => .pure _)

end SchemaDrift.Sdl
