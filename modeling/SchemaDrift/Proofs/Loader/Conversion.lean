import SchemaDrift.Proofs.Loader.Laws
import SchemaDrift.Proofs.Loader.Order

/-!
# What a schema is converted to

A schema that has what its tree defines is converted to the definitions that the statements of
the tree give: the types in the order of their statements, and then the directives.

* `FrontEnd.gives_inputValue`, `FrontEnd.gives_field`, `FrontEnd.lists_body` — what follows the
  nodes of a document is converted to what these say.
* `FrontEnd.gives_typeDefinition`, `FrontEnd.gives_directiveDefinition` — so it is with types and
  directives.
* `sortedByPlace_filter` — whatever comes in between and in whichever order, sorting brings back
  the order of the statements.
* `BuiltSchema.Merges.follows_typesInOrder`, `BuiltSchema.Merges.follows_directivesInOrder` — what
  is converted of a schema, in order.
* `BuiltSchema.Merges.exists_typeMap_iff`, `BuiltSchema.Merges.exists_definitions` — whether a
  schema is converted, and to which definitions.
* `FrontEnd.schema_eq_ok_iff`, `FrontEnd.load_eq_ok_iff` — which schemas and maps are loaded.
-/

namespace SchemaDrift

open Sdl

variable {Value : Type}

/-! ## Members -/

theorem Wrapped.Follows.typeRef_eq {wrapped : Wrapped} {ref : TypeRef} (h : wrapped.Follows ref) :
    wrapped.typeRef = ref := by
  induction h with
  | named name => rfl
  | list _ ih => rw [Wrapped.typeRef, ih]
  | nonNull _ ih => rw [Wrapped.typeRef, ih]

namespace FrontEnd

variable (core : FrontEnd Value)

/-- A default is there exactly if one is written. -/
theorem defaultText_eq_none_iff {node : InputNode} {entry : String × BuiltInput Value}
    (h : BuiltInput.Follows node entry) :
    core.defaultText entry.2 = none ↔ node.defaultValue = none := by
  rw [defaultText, h.origin, Option.bind_some]
  cases hwritten : node.defaultValue with
  | some literal => exact iff_of_false nofun nofun
  | none =>
    rw [h.noDefault hwritten]
    exact iff_of_true rfl rfl

theorem gives_inputValue {node : InputNode} {entry : String × BuiltInput Value}
    (h : BuiltInput.Follows node entry) : node.Gives (core.inputValue entry) :=
  ⟨congrArg some h.name, h.type.typeRef_eq, core.defaultText_eq_none_iff h⟩

theorem gives_inputValues {nodes : List InputNode} {entries : Keyed String (BuiltInput Value)}
    (h : List.Forall₂ BuiltInput.Follows nodes entries) :
    List.Forall₂ InputNode.Gives nodes (entries.map core.inputValue) :=
  List.forall₂_map_right_iff.2 (h.imp fun _ _ => core.gives_inputValue)

theorem gives_field {node : FieldNode} {entry : String × BuiltField Value}
    (h : BuiltField.Follows node entry) : node.Gives (core.field entry) :=
  ⟨congrArg some h.name, h.type.typeRef_eq, core.gives_inputValues h.args⟩

/-! ## Types and directives -/

theorem lists_body {content : BuiltContent Value} {parts : List Content} {body : Body}
    (h : content.Follows parts) (hbody : core.body content = .ok body) :
    content.kind? = some body.kind ∧ Body.Lists parts body := by
  cases content with
  | object fields interfaces | interface fields interfaces =>
    obtain rfl := Except.ok.inj hbody
    exact ⟨rfl, List.forall₂_map_right_iff.2 (h.1.imp fun _ _ => core.gives_field), h.2 ▸ rfl⟩
  | union members =>
    obtain rfl := Except.ok.inj hbody
    exact ⟨rfl, congrArg (List.map some) h⟩
  | enum values =>
    cases values with
    | error fault => exact absurd hbody nofun
    | ok found =>
      obtain rfl := Except.ok.inj hbody
      refine ⟨rfl, ?_⟩
      rw [Body.Lists, ← h found rfl, List.map_map, List.map_map]
      rfl
  | input fields =>
    obtain rfl := Except.ok.inj hbody
    exact ⟨rfl, core.gives_inputValues h⟩
  | scalar specifiedBy =>
    obtain rfl := Except.ok.inj hbody
    exact ⟨rfl, trivial⟩
  | other shown => exact h.elim

theorem gives_typeDefinition {document : Document} {placed : PlacedStatement}
    {type : BuiltType Value} {definition : Definition} (h : type.Follows document placed)
    (hdefinition : core.typeDefinition type = .ok definition) :
    placed.statement.Gives document definition := by
  obtain ⟨node, hstatement, hname, -, hkind, hcontent⟩ := h
  rw [typeDefinition] at hdefinition
  cases hbody : core.body type.content with
  | error fault =>
    rw [hbody] at hdefinition
    exact absurd hdefinition nofun
  | ok body =>
    rw [hbody] at hdefinition
    obtain rfl := Except.ok.inj hdefinition
    obtain ⟨hclass, hlists⟩ := core.lists_body hcontent hbody
    rw [hstatement]
    exact ⟨congrArg some hname, Option.some.inj (hclass.symm.trans hkind), hlists⟩

theorem gives_typeDefinitions {document : Document} {placed : List PlacedStatement}
    {types : List (BuiltType Value)} {definitions : List Definition}
    (h : List.Forall₂ (BuiltType.Follows document) placed types)
    (hdefinitions : core.typeDefinitions types = .ok definitions) :
    List.Forall₂ (fun placed definition => placed.statement.Gives document definition) placed
      definitions := by
  induction h generalizing definitions with
  | nil =>
    obtain rfl := Except.ok.inj hdefinitions
    exact .nil
  | @cons _ type _ rest hfirst _ ih =>
    rw [typeDefinitions] at hdefinitions
    cases hdefinition : core.typeDefinition type with
    | error fault =>
      rw [hdefinition] at hdefinitions
      exact absurd hdefinitions nofun
    | ok definition =>
      cases hrest : core.typeDefinitions rest with
      | error fault =>
        rw [hdefinition, hrest] at hdefinitions
        exact absurd hdefinitions nofun
      | ok others =>
        rw [hdefinition, hrest] at hdefinitions
        obtain rfl := Except.ok.inj hdefinitions
        exact .cons (core.gives_typeDefinition hfirst hdefinition) (ih hrest)

/-- A type of a known class is converted exactly if its values, in case it is an enum, could be
resolved. -/
theorem exists_typeDefinition_iff {type : BuiltType Value} (h : type.content.kind? ≠ none) :
    (∃ definition, core.typeDefinition type = .ok definition) ↔
      ∀ fault, type.content ≠ .enum (.error fault) := by
  rw [typeDefinition]
  cases hcontent : type.content with
  | object | interface | union | input | scalar => exact iff_of_true ⟨_, rfl⟩ fun _ => nofun
  | enum values =>
    cases values with
    | error fault => exact iff_of_false nofun fun hresolved => hresolved fault rfl
    | ok found => exact iff_of_true ⟨_, rfl⟩ fun _ => nofun
  | other shown => exact absurd (congrArg BuiltContent.kind? hcontent) h

/-- Types are converted exactly if each of them is. -/
theorem exists_typeDefinitions_iff (types : List (BuiltType Value)) :
    (∃ definitions, core.typeDefinitions types = .ok definitions) ↔
      ∀ type ∈ types, ∃ definition, core.typeDefinition type = .ok definition := by
  induction types with
  | nil => exact iff_of_true ⟨[], rfl⟩ nofun
  | cons first rest ih =>
    rw [List.forall_mem_cons, ← ih, typeDefinitions]
    cases core.typeDefinition first with
    | error fault => exact iff_of_false nofun fun h => absurd h.1 nofun
    | ok definition =>
      cases core.typeDefinitions rest with
      | error fault => exact iff_of_false nofun fun h => absurd h.2 nofun
      | ok others => exact iff_of_true ⟨_, rfl⟩ ⟨⟨_, rfl⟩, _, rfl⟩

theorem gives_directiveDefinition {document : Document} {placed : PlacedStatement}
    {directive : BuiltDirective Value} (h : directive.Follows placed) :
    placed.statement.Gives document (core.directiveDefinition directive) := by
  obtain ⟨node, hstatement, hname, -, hlocations, hargs, hrepeatable⟩ := h
  rw [hstatement]
  refine ⟨congrArg some hname, _, ?_, core.gives_inputValues hargs⟩
  rw [directiveDefinition, hlocations, hrepeatable]

end FrontEnd

/-! ## Whole schemas -/

section Members

variable {α : Type} {isOwn : α → Bool} {follows : PlacedStatement → α → Prop}
  {placed : List PlacedStatement} {members own standard : List α}
  (hmembers : members.Perm (own ++ standard)) (hown : List.Forall₂ follows placed own)
  (hstandard : ∀ member ∈ standard, isOwn member = false)

include hmembers hown hstandard

/-- A member that not every schema has follows a statement. -/
theorem exists_follows_of_isOwn {member : α} (hmem : member ∈ members)
    (h : isOwn member = true) : ∃ statement ∈ placed, follows statement member := by
  obtain hmem | hmem := List.mem_append.1 (hmembers.subset hmem)
  · exact exists_of_mem_of_forall₂ hown.flip hmem
  · exact absurd h (Bool.eq_false_iff.1 (hstandard member hmem))

/-- Whatever comes in between and in whichever order, sorting brings back the order of the
statements. -/
theorem sortedByPlace_filter {origin : α → Option SourceNode}
    (hfollows : ∀ statement ∈ placed, ∀ member, follows statement member →
      isOwn member = true ∧ origin member = some ⟨some statement.offset⟩)
    (horder : placed.Pairwise fun one other => one.offset < other.offset) :
    sortedByPlace origin (members.filter isOwn) = own := by
  have hall : ∀ member ∈ own, isOwn member = true := by
    intro member hmember
    obtain ⟨statement, hstatement, h⟩ := exists_of_mem_of_forall₂ hown.flip hmember
    exact (hfollows statement hstatement member h).1
  have hkept : (own ++ standard).filter isOwn = own := by
    rw [List.filter_append, List.filter_eq_self.2 hall, List.filter_eq_nil_iff.2, List.append_nil]
    exact fun member hmember => Bool.eq_false_iff.1 (hstandard member hmember)
  refine sortedByPlace_eq_of_perm origin (hkept ▸ hmembers.filter isOwn) ?_
  clear hmembers hstandard hall hkept
  induction hown with
  | nil => exact .nil
  | @cons statement member rest members hfirst hrest ih =>
    obtain ⟨hlater, horder⟩ := List.pairwise_cons.1 horder
    obtain ⟨hstatement, hfollows⟩ := List.forall_mem_cons.1 hfollows
    refine List.pairwise_cons.2 ⟨fun other hother => ?_, ih hfollows horder⟩
    obtain ⟨later, hmem, h⟩ := exists_of_mem_of_forall₂ hrest.flip hother
    rw [(hstatement member hfirst).2, (hfollows later hmem other h).2]
    exact decide_eq_false (Nat.not_le.2 (hlater later hmem))

end Members

theorem FrontEnd.mem_typesInOrder_iff (core : FrontEnd Value) {schema : BuiltSchema Value}
    {type : BuiltType Value} : type ∈ core.typesInOrder schema ↔
      type ∈ schema.types ∧ core.isOwnType type.name = true := by
  rw [typesInOrder, mem_sortedByPlace, List.mem_filter]

/-- The statements that define what not every schema has, types first. -/
def FrontEnd.origins (core : FrontEnd Value) (tree : Tree) : List PlacedStatement :=
  core.ownTypes tree ++ core.ownDirectives tree

/-- The values of all enums that not every schema has could be resolved. -/
def BuiltSchema.Resolved (core : FrontEnd Value) (schema : BuiltSchema Value) : Prop :=
  ∀ type ∈ schema.types, core.isOwnType type.name = true →
    ∀ fault, type.content ≠ .enum (.error fault)

namespace BuiltSchema.Merges

variable {core : FrontEnd Value} {tree : Tree} {schema : BuiltSchema Value}

/-- A type that not every schema has is built from a statement of the tree. -/
theorem exists_origin_of_isOwnType (h : schema.Merges core tree) {type : BuiltType Value}
    (hmem : type ∈ schema.types) (hown : core.isOwnType type.name = true) :
    ∃ placed ∈ tree, type.origin = some ⟨some placed.offset⟩ := by
  obtain ⟨own, standard, htypes, hfollows, hstandard⟩ := h.types
  obtain ⟨placed, hplaced, node, -, -, horigin, -⟩ :=
    exists_follows_of_isOwn htypes hfollows hstandard hmem hown
  exact ⟨placed, (List.mem_filter.1 hplaced).1, horigin⟩

/-- So is a directive. -/
theorem exists_origin_of_isOwnDirective (h : schema.Merges core tree)
    {directive : BuiltDirective Value} (hmem : directive ∈ schema.directives)
    (hown : core.isOwnDirective directive.name = true) :
    ∃ placed ∈ tree, directive.origin = some ⟨some placed.offset⟩ := by
  obtain ⟨own, standard, hdirectives, hfollows, hstandard⟩ := h.directives
  obtain ⟨placed, hplaced, node, -, -, horigin, -⟩ :=
    exists_follows_of_isOwn hdirectives hfollows hstandard hmem hown
  exact ⟨placed, (List.mem_filter.1 hplaced).1, horigin⟩

/-- What is converted of a schema are the types that its tree defines, in order, -/
theorem follows_typesInOrder (h : schema.Merges core tree)
    (horder : tree.Pairwise fun one other => one.offset < other.offset) :
    List.Forall₂ (BuiltType.Follows tree.document) (core.ownTypes tree)
      (core.typesInOrder schema) := by
  obtain ⟨types, standard, htypes, hfollows, hstandard⟩ := h.types
  rwa [FrontEnd.typesInOrder, sortedByPlace_filter htypes hfollows hstandard
    (fun placed hplaced type hfollows => ?_) (horder.sublist List.filter_sublist)]
  obtain ⟨node, hstatement, hname, horigin, -⟩ := hfollows
  obtain ⟨found, hfound, -, hown⟩ :=
    FrontEnd.exists_node_of_definesType (List.mem_filter.1 hplaced).2
  obtain rfl := Statement.type.inj (hfound.symm.trans hstatement)
  exact ⟨hname ▸ hown, horigin⟩

/-- and the directives. -/
theorem follows_directivesInOrder (h : schema.Merges core tree)
    (horder : tree.Pairwise fun one other => one.offset < other.offset) :
    List.Forall₂ BuiltDirective.Follows (core.ownDirectives tree)
      (core.directivesInOrder schema) := by
  obtain ⟨directives, standard, hdirectives, hfollows, hstandard⟩ := h.directives
  rwa [FrontEnd.directivesInOrder, sortedByPlace_filter hdirectives hfollows hstandard
    (fun placed hplaced directive hfollows => ?_) (horder.sublist List.filter_sublist)]
  obtain ⟨node, hstatement, hname, horigin, -⟩ := hfollows
  obtain ⟨found, hfound, hown⟩ :=
    FrontEnd.exists_node_of_definesDirective (List.mem_filter.1 hplaced).2
  obtain rfl := Statement.directive.inj (hfound.symm.trans hstatement)
  exact ⟨hname ▸ hown, horigin⟩

/-- A schema is converted exactly if the values of its enums could be resolved. -/
theorem exists_typeMap_iff (h : schema.Merges core tree)
    (horder : tree.Pairwise fun one other => one.offset < other.offset) :
    (∃ types, core.typeMap schema = .ok types) ↔ schema.Resolved core := by
  have hconverted : (∃ types, core.typeMap schema = .ok types) ↔
      ∃ definitions, core.typeDefinitions (core.typesInOrder schema) = .ok definitions := by
    unfold FrontEnd.typeMap
    cases core.typeDefinitions _ with
    | error fault => exact iff_of_false nofun nofun
    | ok definitions => exact iff_of_true ⟨_, rfl⟩ ⟨_, rfl⟩
  have hknown : ∀ type ∈ core.typesInOrder schema, type.content.kind? ≠ none := by
    intro type hmem
    obtain ⟨placed, -, node, -, -, -, hkind, -⟩ :=
      exists_of_mem_of_forall₂ (h.follows_typesInOrder horder).flip hmem
    rw [hkind]
    exact nofun
  rw [hconverted, core.exists_typeDefinitions_iff]
  constructor
  · intro hall type hmem hown
    have hsorted := core.mem_typesInOrder_iff.2 ⟨hmem, hown⟩
    exact (core.exists_typeDefinition_iff (hknown type hsorted)).1 (hall type hsorted)
  · intro hresolved type hsorted
    obtain ⟨hmem, hown⟩ := core.mem_typesInOrder_iff.1 hsorted
    exact (core.exists_typeDefinition_iff (hknown type hsorted)).2 (hresolved type hmem hown)

/-- It is converted to the definitions that the statements of its tree give. -/
theorem exists_definitions (h : schema.Merges core tree)
    (horder : tree.Pairwise fun one other => one.offset < other.offset) {types : TypeMap}
    (htypes : core.typeMap schema = .ok types) :
    ∃ definitions, types = TypeMap.ofDefinitions definitions ∧
      List.Forall₂ (fun placed definition => placed.statement.Gives tree.document definition)
        (core.origins tree) definitions := by
  unfold FrontEnd.typeMap at htypes
  cases hdefinitions : core.typeDefinitions (core.typesInOrder schema) with
  | error fault =>
    rw [hdefinitions] at htypes
    exact absurd htypes nofun
  | ok definitions =>
    rw [hdefinitions] at htypes
    refine ⟨_, (Except.ok.inj htypes).symm, List.rel_append
      (core.gives_typeDefinitions (h.follows_typesInOrder horder) hdefinitions) ?_⟩
    exact List.forall₂_map_right_iff.2 <|
      (h.follows_directivesInOrder horder).imp fun _ _ => core.gives_directiveDefinition

end BuiltSchema.Merges

/-! ## What is loaded -/

section Texts

variable {core : FrontEnd Value} {text : String} {schema : BuiltSchema Value} {types : TypeMap}

theorem FrontEnd.schema_eq_ok_iff : core.schema text = .ok schema ↔
    ∃ tree, core.parse text = .ok tree ∧ core.check tree = [] ∧
      core.build text tree = .ok schema := by
  unfold FrontEnd.schema
  cases hparse : core.parse text with
  | error fault => exact iff_of_false nofun fun ⟨_, h, _⟩ => absurd h nofun
  | ok tree =>
    dsimp only
    cases hcheck : core.check tree with
    | nil =>
      refine ⟨fun h => ⟨tree, rfl, hcheck, h⟩, fun ⟨found, heq, _, h⟩ => ?_⟩
      rwa [Except.ok.inj heq]
    | cons violation rest =>
      refine iff_of_false nofun fun ⟨found, heq, h, _⟩ => ?_
      rw [← Except.ok.inj heq, hcheck] at h
      exact absurd h nofun

theorem FrontEnd.load_eq_ok_iff : core.load text = .ok types ↔
    ∃ schema, core.schema text = .ok schema ∧ core.typeMap schema = .ok types := by
  unfold FrontEnd.load
  cases hschema : core.schema text with
  | error fault => exact iff_of_false nofun fun ⟨_, h, _⟩ => absurd h nofun
  | ok schema =>
    have hconverted : (core.typeMap schema).mapError (ConversionFault.ofText text) = .ok types ↔
        core.typeMap schema = .ok types := by
      cases core.typeMap schema with
      | error fault => exact iff_of_false nofun nofun
      | ok found =>
        change Except.ok found = _ ↔ _
        rw [Except.ok.injEq, Except.ok.injEq]
    refine hconverted.trans ⟨fun h => ⟨schema, rfl, h⟩, fun ⟨found, heq, h⟩ => ?_⟩
    rwa [Except.ok.inj heq]

end Texts

end SchemaDrift
