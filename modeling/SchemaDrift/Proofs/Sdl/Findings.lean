import SchemaDrift.Proofs.Loader.Documents
import SchemaDrift.Proofs.Sdl.Statements

/-!
# What readers find

In tokens whose names are names of the schema language, every part of a schema that is read has
such names throughout, and every type reference in it can be read off its notation.

* `Clean`, `Finds` — such tokens, and what a reader finds anywhere in them.
* `finds_type` — the type references that are read.
* `finds_statement`, `ReadFrom.sound` — every statement that is read is sound.
-/

namespace SchemaDrift.Sdl

open Reader

/-! ## Readers anywhere in the tokens -/

/-- Tokens without a fault, whose names are names of the schema language. -/
structure Clean (all : List Token) : Prop where
  faultless : ∀ fault, .invalid fault ∉ all
  isProper : ∀ name, .name name ∈ all → Name.IsProper (some name)

/-- From wherever a reader starts, what it finds has the property, and it leaves an end of the
tokens. -/
def Finds {α : Type} (all : List Token) (property : α → Prop) (reader : Reader α) : Prop :=
  ∀ ⦃start found rest⦄, start <:+ all → reader start = .ok (found, rest) →
    property found ∧ rest <:+ all

namespace Finds

variable {α β : Type} {all : List Token} {property : β → Prop}

theorem pure {value : β} (h : property value) : Finds all property (pure value : Reader β) := by
  intro start found rest hstart hread
  obtain ⟨rfl, rfl⟩ := pure_eq_ok_iff.1 hread
  exact ⟨h, hstart⟩

theorem throw (refusal : Refusal) : Finds all property (throw refusal : Reader β) :=
  fun _ _ _ _ hread => absurd hread throw_ne_ok

theorem bind {met : α → Prop} {first : Reader α} {next : α → Reader β}
    (hfirst : Finds all met first)
    (hnext : ∀ value, met value → Finds all property (next value)) :
    Finds all property (first >>= next) := by
  intro start found rest hstart hread
  obtain ⟨value, middle, hvalue, hfound⟩ := bind_eq_ok_iff.1 hread
  obtain ⟨hmet, hmiddle⟩ := hfirst hstart hvalue
  exact hnext value hmet hmiddle hfound

theorem ite {condition : Prop} [Decidable condition] {one other : Reader β}
    (hone : Finds all property one) (hother : Finds all property other) :
    Finds all property (if condition then one else other) := by
  split
  · exact hone
  · exact hother

theorem of_yields (hall : Clean all) {reader : Reader β} (hreader : Advances reader)
    (h : Yields property reader) : Finds all property reader := by
  intro start found rest hstart hread
  have huntroubled : Untroubled start := fun fault hhead =>
    hall.faultless fault (hstart.subset (List.mem_of_mem_head? hhead))
  obtain ⟨-, passed, rfl, -⟩ := hreader hread huntroubled
  exact ⟨h hread, (List.suffix_append passed rest).trans hstart⟩

/-- Whatever is found, the reader only moves on. -/
theorem passes (hall : Clean all) {reader : Reader β} (hreader : Advances reader) :
    Finds all (fun _ => True) reader :=
  of_yields hall hreader fun _ _ _ _ => trivial

end Finds

section Refusals

variable {α : Type} {all : List Token} {property : α → Prop}

theorem finds_refuse (hall : Clean all) (fault : Fault) :
    Finds all property (refuse fault : Reader α) :=
  .bind (.passes hall advances_spot) fun _ _ => .throw _

theorem finds_unexpected (hall : Clean all) : Finds all property (unexpected : Reader α) :=
  .bind (.passes hall advances_peek) fun _ _ => finds_refuse hall _

end Refusals

/-! ### Rows -/

section Rows

variable {α : Type} {all : List Token} {property : α → Prop} {item : Reader α}

/-- All members of a row have the property. -/
abbrev Throughout (property : α → Prop) (row : List α) : Prop := ∀ member ∈ row, property member

theorem throughout_nil : Throughout property [] := fun _ h => absurd h List.not_mem_nil

theorem throughout_cons {first : α} {rest : List α} (hfirst : property first)
    (hrest : Throughout property rest) : Throughout property (first :: rest) :=
  List.forall_mem_cons.2 ⟨hfirst, hrest⟩

theorem finds_untilClose (hall : Clean all) (close : Punct) (h : Finds all property item)
    (bound : Nat) : Finds all (Throughout property) (untilClose close item bound) := by
  induction bound with
  | zero => exact finds_unexpected hall
  | succ bound ih =>
    exact .bind (.passes hall (advances_accept _)) fun _ _ => .ite (.pure throughout_nil)
      (.bind h fun _ hfirst => .bind ih fun _ hrest => .pure (throughout_cons hfirst hrest))

theorem finds_optionalMany (hall : Clean all) (start close : Punct) (h : Finds all property item) :
    Finds all (Throughout property) (optionalMany start close item) := by
  have hmany : Finds all (Throughout property) (many start close item) :=
    .bind (.passes hall (advances_expect _)) fun _ _ => .bind h fun _ hfirst =>
      .bind (.passes hall advances_bound) fun bound _ =>
        .bind (finds_untilClose hall close h bound) fun _ hrest =>
          .pure (throughout_cons hfirst hrest)
  exact .bind (.passes hall advances_peek) fun _ _ => .ite hmany (.pure throughout_nil)

theorem finds_delimited (hall : Clean all) (delimiter : Punct) (h : Finds all property item) :
    Finds all (Throughout property) (delimited delimiter item) := by
  have hmore (bound : Nat) :
      Finds all (Throughout property) (moreDelimited delimiter item bound) := by
    induction bound with
    | zero => exact finds_unexpected hall
    | succ bound ih =>
      exact .bind (.passes hall (advances_accept _)) fun _ _ =>
        .ite (.bind h fun _ hnext => .bind ih fun _ hrest => .pure (throughout_cons hnext hrest))
          (.pure throughout_nil)
  exact .bind (.passes hall (advances_accept _)) fun _ _ => .bind h fun _ hfirst =>
    .bind (.passes hall advances_bound) fun bound _ => .bind (hmore bound) fun _ hrest =>
      .pure (throughout_cons hfirst hrest)

end Rows

/-! ## Names and type references -/

/-- A legible reference that does not rule out null. -/
def Unmarked (ref : TypeRef) : Prop := ref.isNonNull = false ∧ ref.Legible

section Parts

variable {all : List Token} (hall : Clean all)

include hall

theorem finds_name : Finds all (fun name => Name.IsProper (some name)) name := by
  intro start found rest hstart hread
  have htokens := eq_of_name hread
  rw [htokens] at hstart
  exact ⟨hall.isProper found (hstart.subset (List.mem_cons_self ..)),
    (List.suffix_cons _ _).trans hstart⟩

omit hall in
theorem legible_named {name : String} (h : Name.IsProper (some name)) :
    (TypeRef.named name).Legible := by
  obtain ⟨word, hword, hname⟩ := h
  obtain rfl := Option.some.inj hword
  refine ⟨?_, hname⟩
  show name ≠ ""
  rintro rfl
  exact absurd hname (by decide)

/-- A mark comes after a reference that has none. -/
theorem finds_typeRefOf {item : Reader TypeRef} (h : Finds all TypeRef.Legible item) :
    Finds all TypeRef.Legible (typeRefOf item) := by
  have hbare {inner : TypeRef} (hinner : Unmarked inner) :
      Finds all Unmarked (pure inner : Reader TypeRef) := .pure hinner
  have hmark (inner : TypeRef) (hinner : Unmarked inner) : Finds all TypeRef.Legible (do
      if ← accept (.punct .bang) then return .nonNull inner else return inner) :=
    .bind (.passes hall (advances_accept _)) fun _ _ => .ite
      (.pure ⟨⟨hinner.1, hinner.2.proper⟩, hinner.2.core⟩) (.pure hinner.2)
  exact .bind (.passes hall (advances_accept _)) fun _ _ => .ite
    (.bind h fun item hitem => .bind (.passes hall (advances_expect _)) fun _ _ =>
      .bind (hbare ⟨rfl, TypeRef.legible_list.2 hitem⟩) hmark)
    (.bind (finds_name hall) fun name hname => .bind (hbare ⟨rfl, legible_named hname⟩) hmark)

/-- The type references that are read can be read off their notation. -/
theorem finds_type : Finds all TypeRef.Legible type := by
  have hwithin (room : Nat) : Finds all TypeRef.Legible (typeRefWithin room) := by
    induction room with
    | zero => exact finds_typeRefOf hall (finds_refuse hall _)
    | succ room ih => exact finds_typeRefOf hall ih
  exact hwithin nestingLimit

end Parts

/-! ## Members -/

section Members

variable {all : List Token} (hall : Clean all)

include hall

theorem finds_inputNode : Finds all InputNode.Sound inputNode := by
  refine .bind (.passes hall advances_description) fun description _ =>
    .bind (finds_name hall) fun name hname => .bind (.passes hall (advances_expect _)) fun _ _ =>
      .bind (finds_type hall) fun type htype => ?_
  have hrest (value : Option Literal) : Finds all InputNode.Sound (do
      let directives ← directives
      return ({ description, name, type, defaultValue := value, directives } : InputNode)) :=
    .bind (.passes hall advances_directives) fun _ _ => .pure ⟨hname, htype⟩
  exact .bind (.passes hall (advances_accept _)) fun _ _ => .ite
    (.bind (.passes hall (.map some advances_value)) fun value _ => hrest value)
    (.bind (.passes hall (.pure none)) fun value _ => hrest value)

theorem finds_fieldNode : Finds all FieldNode.Sound fieldNode :=
  .bind (.passes hall advances_description) fun _ _ => .bind (finds_name hall) fun _ hname =>
    .bind (finds_optionalMany hall _ _ (finds_inputNode hall)) fun _ hargs =>
      .bind (.passes hall (advances_expect _)) fun _ _ => .bind (finds_type hall) fun _ htype =>
        .bind (.passes hall advances_directives) fun _ _ => .pure ⟨hname, htype, hargs⟩

theorem finds_valueNode :
    Finds all (fun node : ValueNode => Name.IsProper (some node.name)) valueNode := by
  have hvalue (description : Option String) :
      Finds all (fun node : ValueNode => Name.IsProper (some node.name)) (do
        let name ← name
        let directives ← directives
        return ({ description, name, directives } : ValueNode)) :=
    .bind (finds_name hall) fun _ hname => .bind (.passes hall advances_directives) fun _ _ =>
      .pure hname
  exact .bind (.passes hall advances_description) fun description _ =>
    .bind (.passes hall advances_peek) fun _ _ =>
      .ite (.bind (.passes hall (advances_refuse _)) fun _ _ => hvalue description)
        (hvalue description)

theorem finds_interfaces :
    Finds all (Throughout fun name : String => Name.IsProper (some name)) interfaces :=
  .bind (.passes hall (advances_accept _)) fun _ _ =>
    .ite (finds_delimited hall _ (finds_name hall)) (.pure throughout_nil)

theorem finds_fields : Finds all (Throughout FieldNode.Sound) fields :=
  finds_optionalMany hall _ _ (finds_fieldNode hall)

/-! ## Statements -/

theorem finds_typeContent (word : String) :
    Finds all (fun found : List Applied × Content => found.2.Sound) (typeContent word) := by
  unfold typeContent
  split
  · exact .bind (finds_interfaces hall) fun _ hinterfaces =>
      .bind (.passes hall advances_directives) fun _ _ => .bind (finds_fields hall) fun _ hfields =>
        .pure ⟨hinterfaces, throughout_nil, throughout_nil, hfields, throughout_nil⟩
  · exact .bind (finds_interfaces hall) fun _ hinterfaces =>
      .bind (.passes hall advances_directives) fun _ _ => .bind (finds_fields hall) fun _ hfields =>
        .pure ⟨hinterfaces, throughout_nil, throughout_nil, hfields, throughout_nil⟩
  · have hunion (directives : List Applied) (members : List String)
        (hmembers : ∀ name ∈ members, Name.IsProper (some name)) :
        Finds all (fun found : List Applied × Content => found.2.Sound)
          (pure (directives, .union members)) :=
      .pure ⟨throughout_nil, hmembers, throughout_nil, throughout_nil, throughout_nil⟩
    exact .bind (.passes hall advances_directives) fun directives _ =>
      .bind (.passes hall (advances_accept _)) fun _ _ =>
        .ite (.bind (finds_delimited hall _ (finds_name hall)) (hunion directives))
          (.bind (.pure throughout_nil) (hunion directives))
  · exact .bind (.passes hall advances_directives) fun _ _ =>
      .bind (finds_optionalMany hall _ _ (finds_valueNode hall)) fun _ hvalues =>
        .pure ⟨throughout_nil, throughout_nil, List.forall_mem_map.2 hvalues, throughout_nil,
          throughout_nil⟩
  · exact .bind (.passes hall advances_directives) fun _ _ =>
      .bind (finds_optionalMany hall _ _ (finds_inputNode hall)) fun _ hinputs =>
        .pure ⟨throughout_nil, throughout_nil, throughout_nil, throughout_nil, hinputs⟩
  · exact .bind (.passes hall advances_directives) fun _ _ =>
      .pure ⟨throughout_nil, throughout_nil, throughout_nil, throughout_nil, throughout_nil⟩

theorem finds_typeDefinition (word : String) : Finds all Statement.Sound (typeDefinition word) :=
  .bind (.passes hall advances_description) fun _ _ =>
    .bind (.passes hall (advances_expectWord _)) fun _ _ => .bind (finds_name hall) fun _ hname =>
      .bind (finds_typeContent hall word) fun _ hcontent => .pure ⟨hname, hcontent⟩

theorem finds_typeExtension (word : String) : Finds all Statement.Sound (typeExtension word) :=
  .bind (.passes hall (advances_expectWord _)) fun _ _ =>
    .bind (.passes hall (advances_expectWord _)) fun _ _ => .bind (finds_name hall) fun _ hname =>
      .bind (finds_typeContent hall word) fun _ hcontent =>
        .ite (.bind (.passes hall advances_unexpected) fun _ _ => .pure ⟨hname, hcontent⟩)
          (.pure ⟨hname, hcontent⟩)

theorem finds_directiveDefinition : Finds all Statement.Sound directiveDefinition :=
  .bind (.passes hall advances_description) fun _ _ =>
    .bind (.passes hall (advances_expectWord _)) fun _ _ =>
      .bind (.passes hall (advances_expect _)) fun _ _ => .bind (finds_name hall) fun _ hname =>
        .bind (finds_optionalMany hall _ _ (finds_inputNode hall)) fun _ hargs =>
          .bind (.passes hall advances_directives) fun _ _ =>
            .bind (.passes hall (advances_accept _)) fun _ _ =>
              .bind (.passes hall (advances_expectWord _)) fun _ _ =>
                .bind (.passes hall (advances_delimited _ advances_place)) fun _ _ =>
                  .pure ⟨hname, hargs⟩

theorem finds_extension : Finds all Statement.Sound extension := by
  have hschema : Yields Statement.Sound schemaExtension :=
    .bind fun _ => .bind fun _ => .bind fun _ => .bind fun _ =>
      .ite (.bind fun _ => .pure trivial) (.pure trivial)
  have hdirective : Yields Statement.Sound directiveExtension :=
    .bind fun _ => .bind fun _ => .bind fun _ => .bind fun _ => .bind fun _ =>
      .ite (.bind fun _ => .pure trivial) (.pure trivial)
  refine .bind (.passes hall advances_lookahead) fun next _ => ?_
  split
  · exact .ite (.of_yields hall advances_schemaExtension hschema)
      (.ite (.of_yields hall advances_directiveExtension hdirective)
        (.ite (finds_typeExtension hall _)
          (.bind (.passes hall advances_spot) fun _ _ => .throw _)))
  · exact .bind (.passes hall advances_spot) fun _ _ => .throw _

theorem finds_operationDefinition : Finds all Statement.Sound operationDefinition :=
  .of_yields hall advances_operationDefinition <|
    .bind fun _ => .ite (.bind fun _ => .pure trivial)
      (.bind fun _ => .bind fun _ => .bind fun _ => .bind fun _ => .bind fun _ => .bind fun _ =>
        .pure trivial)

theorem finds_of_describable {word : String} {reader : Reader Statement}
    (h : describable? word = some reader) : Finds all Statement.Sound reader := by
  have hschema : Yields Statement.Sound schemaDefinition :=
    .bind fun _ => .bind fun _ => .bind fun _ => .bind fun _ => .pure trivial
  have hfragment : Yields Statement.Sound fragmentDefinition :=
    .bind fun _ => .bind fun _ => .bind fun _ => .bind fun _ => .bind fun _ => .bind fun _ =>
      .bind fun _ => .pure trivial
  unfold describable? at h
  split at h
  · exact Option.some.inj h ▸ .of_yields hall advances_schemaDefinition hschema
  split at h
  · exact Option.some.inj h ▸ finds_directiveDefinition hall
  split at h
  · exact Option.some.inj h ▸ .of_yields hall advances_fragmentDefinition hfragment
  split at h
  · exact Option.some.inj h ▸ finds_typeDefinition hall word
  split at h
  · exact Option.some.inj h ▸ finds_operationDefinition hall
  · exact absurd h nofun

/-- Every statement that is read is sound. -/
theorem finds_statement : Finds all Statement.Sound statement := by
  have hrefused (keyword : Token) (back : Nat) : Finds all Statement.Sound
      (do throw ⟨.unexpected keyword, (← spot) - back⟩ : Reader Statement) :=
    .bind (.passes hall advances_spot) fun _ _ => .throw _
  refine .bind (.passes hall advances_peek) fun next _ => ?_
  dsimp only
  refine .ite (.bind (.passes hall advances_lookahead) fun keyword _ => ?_)
    (.bind (.passes hall advances_peek) fun keyword _ => ?_)
  all_goals
    split
    · exact .ite (finds_refuse hall _) (finds_operationDefinition hall)
    · split
      · exact finds_of_describable hall ‹_›
      · exact .ite (finds_refuse hall _) (.ite (finds_extension hall) (hrefused _ _))
    · exact hrefused _ _

/-- So is every statement of a document, which is read from an end of the tokens. -/
theorem ReadFrom.sound {tokens start : List Token} {found : Statement}
    (h : ReadFrom tokens found start) (hsuffix : tokens <:+ all) :
    found.Sound ∧ start <:+ all := by
  induction h with
  | first read => exact ⟨(finds_statement hall hsuffix read).1, hsuffix⟩
  | later read _ ih => exact ih (finds_statement hall hsuffix read).2

end Members

end SchemaDrift.Sdl
