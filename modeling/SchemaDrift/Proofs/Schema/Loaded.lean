import SchemaDrift.Proofs.Loader.Conversion
import SchemaDrift.Proofs.Sdl.FrontEnd

/-!
# Type maps that are loaded

A type map that is loaded from a text is regular, and it holds what the text defines: each
definition once, the types first, and either group in the order in which the text has it.  This
is so with every front end that does what is documented of it.

* `FrontEnd.Lawful.regular_of_load`, `FrontEnd.Lawful.legible_of_load` — the maps that are loaded
  are regular, and their type references can be read off their notation.
* `FrontEnd.Precedes` — the order in which the definitions of a text are loaded.
* `TypeMap.Reflects`, `load_reflects_text` — the entries of a map that is loaded stem from the
  definitions of the text.
-/

namespace SchemaDrift

open Sdl

variable {Value : Type} {core : FrontEnd Value} {text : String} {tree : Tree}
  {schema : BuiltSchema Value} {types : TypeMap}

/-! ## Keys -/

namespace FrontEnd

variable (core)

/-- Each of the types that are defined has a key of its own. -/
theorem pairwise_key?_ownTypes (h : tree.document.Coherent) :
    (core.ownTypes tree).Pairwise fun one other =>
      one.statement.key? ≠ other.statement.key? := by
  have hnames := h.nodup_definitions
  rw [List.Nodup, List.pairwise_map, List.pairwise_filterMap, Tree.document,
    List.pairwise_map] at hnames
  refine (hnames.sublist List.filter_sublist).imp_of_mem fun {one other} hone hother hne => ?_
  obtain ⟨node, hnode, hextending, -⟩ := exists_node_of_definesType (List.mem_filter.1 hone).2
  obtain ⟨node', hnode', hextending', -⟩ :=
    exists_node_of_definesType (List.mem_filter.1 hother).2
  rw [hnode, hnode'] at hne ⊢
  rw [Statement.key?, Statement.key?, hextending, hextending']
  have hdefinition {found : TypeNode} (hfound : found.extending = false) :
      Statement.typeDefinition? (.type found) = some found :=
    Option.filter_eq_some_iff.2 ⟨rfl, by rw [hfound, Bool.not_false]⟩
  exact fun heq => hne _ (hdefinition hextending) _ (hdefinition hextending') (Option.some.inj heq)

/-- Each of the directives that are defined has a key of its own. -/
theorem pairwise_key?_ownDirectives (h : tree.document.Coherent) :
    (core.ownDirectives tree).Pairwise fun one other =>
      one.statement.key? ≠ other.statement.key? := by
  have hnames := h.directives
  rw [List.Nodup, List.pairwise_map, List.pairwise_filterMap, Tree.document,
    List.pairwise_map] at hnames
  refine (hnames.sublist List.filter_sublist).imp_of_mem fun {one other} hone hother hne => ?_
  obtain ⟨node, hnode, -⟩ := exists_node_of_definesDirective (List.mem_filter.1 hone).2
  obtain ⟨node', hnode', -⟩ := exists_node_of_definesDirective (List.mem_filter.1 hother).2
  rw [hnode, hnode'] at hne ⊢
  intro heq
  refine hne _ rfl _ rfl ?_
  have hkeys := congrArg String.toList (Option.some.inj heq)
  rw [String.toList_append, String.toList_append] at hkeys
  exact String.toList_inj.1 (List.append_cancel_left hkeys)

/-- No definition of a type and of a directive have one key. -/
theorem key?_ne_of_defines (hsound : ∀ statement ∈ tree.document, statement.Sound)
    {one other : PlacedStatement} (hone : one ∈ core.ownTypes tree)
    (hother : other ∈ core.ownDirectives tree) :
    one.statement.key? ≠ other.statement.key? := by
  obtain ⟨hmem, hone⟩ := List.mem_filter.1 hone
  obtain ⟨node, hnode, hextending, -⟩ := exists_node_of_definesType hone
  obtain ⟨node', hnode', -⟩ := exists_node_of_definesDirective (List.mem_filter.1 hother).2
  have hproper := hsound _ (List.mem_map_of_mem hmem)
  rw [hnode] at hproper ⊢
  rw [hnode', Statement.key?, hextending, if_neg Bool.false_ne_true]
  intro heq
  have hkey := hproper.1
  rw [heq] at hkey
  exact not_isProper_key_directive (some node'.name) hkey

theorem nodup_key?_origins (hsound : ∀ statement ∈ tree.document, statement.Sound)
    (hcoherent : tree.document.Coherent) :
    ((core.origins tree).map fun origin => origin.statement.key?).Nodup := by
  rw [List.Nodup, List.pairwise_map]
  exact List.pairwise_append.2 ⟨core.pairwise_key?_ownTypes hcoherent,
    core.pairwise_key?_ownDirectives hcoherent, fun _ hone _ hother =>
      core.key?_ne_of_defines hsound hone hother⟩

theorem mem_origins_iff {origin : PlacedStatement} :
    origin ∈ core.origins tree ↔ origin ∈ tree ∧ core.defines origin.statement = true := by
  rw [origins, ownTypes, ownDirectives, List.mem_append, List.mem_filter, List.mem_filter,
    defines, Bool.or_eq_true, and_or_left]

variable {core}

/-- What defines something is no extension. -/
theorem extending_of_defines {statement : Statement} (h : core.defines statement = true)
    (node : TypeNode) (hnode : statement = .type node) : node.extending = false := by
  subst hnode
  obtain htype | hdirective := Bool.or_eq_true_iff.1 h
  · obtain ⟨found, hfound, hextending, -⟩ := exists_node_of_definesType htype
    rwa [Statement.type.inj hfound]
  · exact absurd hdirective Bool.false_ne_true

end FrontEnd

/-! ## Regular maps -/

section Definitions

variable {origins : List PlacedStatement} {definitions : List Definition}

/-- Definitions have the keys of the statements that give them. -/
theorem map_key_of_gives {document : Document}
    (h : List.Forall₂ (fun origin definition => origin.statement.Gives document definition)
      origins definitions)
    (hdefines : ∀ origin ∈ origins, core.defines origin.statement = true) :
    definitions.map Definition.key = origins.map fun origin => origin.statement.key? := by
  induction h with
  | nil => rfl
  | cons hfirst _ ih =>
    obtain ⟨hdefined, hdefines⟩ := List.forall_mem_cons.1 hdefines
    rw [List.map_cons, List.map_cons, ih hdefines,
      hfirst.key_eq (FrontEnd.extending_of_defines hdefined)]

variable (hsound : ∀ statement ∈ tree.document, statement.Sound)
  (hcoherent : tree.document.Coherent)
  (h : List.Forall₂ (fun origin definition => origin.statement.Gives tree.document definition)
    (core.origins tree) definitions)

include hsound hcoherent h

/-- No two of the definitions have one key. -/
theorem nodup_keys_of_gives :
    (Keyed.keys (definitions.map fun definition => (definition.key, definition))).Nodup := by
  have hkeys := map_key_of_gives h fun origin horigin => (core.mem_origins_iff.1 horigin).2
  rw [Keyed.keys, List.map_map, show Prod.fst ∘ (fun definition => (definition.key, definition)) =
    Definition.key from rfl, hkeys]
  exact core.nodup_key?_origins hsound hcoherent

/-- They are put into the map as they are, each under its key. -/
theorem ofDefinitions_of_gives : TypeMap.ofDefinitions definitions =
    definitions.map fun definition => (definition.key, definition) :=
  Keyed.ofList_of_nodup (nodup_keys_of_gives hsound hcoherent h)

/-- Each of them is well-formed, and its type references can be read off their notation. -/
theorem wellFormed_of_mem_definitions {definition : Definition} (hmem : definition ∈ definitions) :
    definition.WellFormed ∧ ∀ ref ∈ definition.body.typeRefs, ref.Legible := by
  obtain ⟨origin, horigin, hgives⟩ := exists_of_mem_of_forall₂ h.flip hmem
  obtain ⟨htree, hdefines⟩ := core.mem_origins_iff.1 horigin
  exact wellFormed_of_gives hsound hcoherent (List.mem_map_of_mem htree)
    (FrontEnd.extending_of_defines hdefines) hgives

theorem regular_ofDefinitions : (TypeMap.ofDefinitions definitions).Regular := by
  have hmembers (definition : Definition) (hmem : definition ∈ definitions) :=
    wellFormed_of_mem_definitions hsound hcoherent h hmem
  rw [ofDefinitions_of_gives hsound hcoherent h]
  exact
    { nodup := nodup_keys_of_gives hsound hcoherent h
      key := List.forall_mem_map.2 fun _ _ => rfl
      definition := List.forall_mem_map.2 fun _ hmem => (hmembers _ hmem).1
      proper := List.forall_mem_map.2 fun _ hmem ref href => ((hmembers _ hmem).2 ref href).proper }

end Definitions

namespace FrontEnd.Lawful

variable (hcore : core.Lawful)

include hcore

/-- The map of a schema that is accepted holds the definitions that the statements of its tree
give, each under its key. -/
theorem exists_tree (h : core.schema text = .ok schema) (htypes : core.typeMap schema = .ok types) :
    ∃ tree definitions, core.parse text = .ok tree ∧
      (∀ statement ∈ tree.document, statement.Sound) ∧ tree.document.Coherent ∧
        types = TypeMap.ofDefinitions definitions ∧
        List.Forall₂ (fun origin definition => origin.statement.Gives tree.document definition)
          (core.origins tree) definitions := by
  obtain ⟨tree, hparse, hcheck, hbuild⟩ := schema_eq_ok_iff.1 h
  obtain ⟨definitions, heq, hgives⟩ :=
    (hcore.merging hparse hcheck hbuild).exists_definitions (hcore.order hparse) htypes
  exact ⟨tree, definitions, hparse, hcore.grammar hparse, hcore.rules hcheck, heq, hgives⟩

/-- A map that is loaded is regular. -/
theorem regular_of_load (h : core.load text = .ok types) : types.Regular := by
  obtain ⟨schema, hschema, htypes⟩ := load_eq_ok_iff.1 h
  obtain ⟨tree, definitions, -, hsound, hcoherent, rfl, hgives⟩ := hcore.exists_tree hschema htypes
  exact regular_ofDefinitions hsound hcoherent hgives

/-- The references of a map that is loaded can be read off their notation. -/
theorem legible_of_load (h : core.load text = .ok types) :
    ∀ entry ∈ types, ∀ ref ∈ entry.2.body.typeRefs, ref.Legible := by
  obtain ⟨schema, hschema, htypes⟩ := load_eq_ok_iff.1 h
  obtain ⟨tree, definitions, -, hsound, hcoherent, rfl, hgives⟩ := hcore.exists_tree hschema htypes
  rw [ofDefinitions_of_gives hsound hcoherent hgives]
  exact List.forall_mem_map.2 fun _ hmem =>
    (wellFormed_of_mem_definitions hsound hcoherent hgives hmem).2

end FrontEnd.Lawful

/-! ## The entries of a map that is loaded -/

/-- Types come before directives, and either of them in the order in which they start. -/
def FrontEnd.Precedes (core : FrontEnd Value) (one other : PlacedStatement) : Prop :=
  (core.definesType one.statement = true ∧ core.definesDirective other.statement = true) ∨
    (core.definesType one.statement = core.definesType other.statement ∧ one.offset < other.offset)

/-- A map holds what a text defines.  Its entries stem, one by one, from the statements that define
a type or directive which not every schema has: each of these statements once, types before
directives, and either of them in the order in which they start.  Each definition is what its
statement gives. -/
def TypeMap.Reflects (types : TypeMap) (core : FrontEnd Value) (text : String) : Prop :=
  ∃ (tree : Tree) (origins : List PlacedStatement),
    core.parse text = .ok tree ∧
    (∀ origin : PlacedStatement,
      origin ∈ origins ↔ origin ∈ tree ∧ core.defines origin.statement = true) ∧
    origins.Pairwise core.Precedes ∧
    List.Forall₂ (fun origin entry => origin.statement.Gives tree.document entry.2) origins types

theorem FrontEnd.pairwise_precedes_origins
    (horder : tree.Pairwise fun one other => one.offset < other.offset) :
    (core.origins tree).Pairwise core.Precedes := by
  refine List.pairwise_append.2 ⟨?_, ?_, fun one hone other hother =>
    .inl ⟨(List.mem_filter.1 hone).2, (List.mem_filter.1 hother).2⟩⟩
  · refine (horder.sublist List.filter_sublist).imp_of_mem fun hone hother hlt => .inr ⟨?_, hlt⟩
    exact (List.mem_filter.1 hone).2.trans (List.mem_filter.1 hother).2.symm
  · have hnoType {origin : PlacedStatement} (h : origin ∈ core.ownDirectives tree) :
        core.definesType origin.statement = false := by
      obtain ⟨node, hnode, -⟩ := exists_node_of_definesDirective (List.mem_filter.1 h).2
      rw [hnode]
      rfl
    refine (horder.sublist List.filter_sublist).imp_of_mem fun hone hother hlt => .inr ⟨?_, hlt⟩
    exact (hnoType hone).trans (hnoType hother).symm

/-- **Maps that are loaded are well-formed and reflect their text.**  A text that the front end
accepts is loaded exactly if the front end can resolve the values of its enums: nothing else can
go wrong.  The map that it is loaded as is regular and holds what the text defines. -/
theorem load_reflects_text (hcore : core.Lawful) (h : core.schema text = .ok schema) :
    ((∃ types, core.load text = .ok types) ↔ schema.Resolved core) ∧
      ∀ types, core.load text = .ok types → types.Regular ∧ types.Reflects core text := by
  constructor
  · obtain ⟨tree, hparse, hcheck, hbuild⟩ := FrontEnd.schema_eq_ok_iff.1 h
    rw [← (hcore.merging hparse hcheck hbuild).exists_typeMap_iff (hcore.order hparse)]
    refine exists_congr fun types => FrontEnd.load_eq_ok_iff.trans ⟨?_, fun htypes => ⟨_, h, htypes⟩⟩
    rintro ⟨found, hfound, htypes⟩
    rwa [Except.ok.inj (h.symm.trans hfound)]
  · intro types hload
    refine ⟨hcore.regular_of_load hload, ?_⟩
    obtain ⟨found, hfound, htypes⟩ := FrontEnd.load_eq_ok_iff.1 hload
    obtain ⟨tree, definitions, hparse, hsound, hcoherent, rfl, hgives⟩ :=
      hcore.exists_tree hfound htypes
    refine ⟨tree, core.origins tree, hparse, fun _ => core.mem_origins_iff,
      FrontEnd.pairwise_precedes_origins (hcore.order hparse), ?_⟩
    rw [ofDefinitions_of_gives hsound hcoherent hgives]
    exact List.forall₂_map_right_iff.2 hgives

/-- A type after its extension and after a directive, with definitions of what every schema has. -/
def libraryText : String :=
  "extend type Query \x7b\n  pages: [Int!]!\n\x7d\n\nscalar Int\n\n" ++
  "directive @audit(level: Int = null, who: ID) on OBJECT\n\n" ++
  "\"What can be asked.\"\ntype Query \x7b\n  title(id: ID! = \"a\"): String\n\x7d\n\n" ++
  "directive @skip(if: Boolean!) on FIELD\n\nenum Shelf \x7b\n  HIGH\n  LOW\n\x7d\n"

/-- The text is loaded as two types and a directive. -/
theorem library_reflects_text :
    frontEnd.Lawful ∧ ∃ schema types, frontEnd.schema libraryText = .ok schema ∧
      schema.Resolved frontEnd ∧ frontEnd.load libraryText = .ok types ∧
        Keyed.keys types = [some "Query", some "Shelf", some "@audit"] ∧
          types.Regular ∧ types.Reflects frontEnd libraryText := by
  refine ⟨lawful_frontEnd, ?_⟩
  have hkeys : (frontEnd.load libraryText).toOption.map Keyed.keys =
      some [some "Query", some "Shelf", some "@audit"] := by decide +kernel
  cases hload : frontEnd.load libraryText with
  | error fault =>
    rw [hload] at hkeys
    exact absurd hkeys nofun
  | ok types =>
    rw [hload] at hkeys
    obtain ⟨schema, hschema, -⟩ := FrontEnd.load_eq_ok_iff.1 hload
    obtain ⟨hresolved, hloaded⟩ := load_reflects_text lawful_frontEnd hschema
    exact ⟨schema, types, hschema, hresolved.1 ⟨types, hload⟩, rfl, Option.some.inj hkeys,
      hloaded types hload⟩

end SchemaDrift
