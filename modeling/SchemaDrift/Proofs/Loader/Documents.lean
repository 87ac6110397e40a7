import Mathlib.Data.List.Flatten
import Mathlib.Data.List.Nodup
import Mathlib.Data.List.Pairwise
import SchemaDrift.Proofs.Schema.Notation
import SchemaDrift.Sdl.Build

/-!
# What is known of documents

What the grammar of the schema language and the rules for documents come to, as far as types and
directives depend on it.  Nothing here is about how a text is read or checked.

* `InputNode.Sound`, `FieldNode.Sound`, `Content.Sound`, `Statement.Sound` — parts of a document
  with names and type references such as the grammar has.
* `TypeNode.Distinct`, `TypeNode.Apart`, `Document.Coherent` — how the statements of a valid
  document fit together.
* `Document.partsOf` — what a document says of a type: its definition, and then its extensions.
* `Fitting`, `fitting_of_definition` — parts of a type that go together, which those of a type in
  such a document do.
-/

namespace SchemaDrift.Sdl

/-! ## What the grammar has -/

/-- An argument or input field: its name is a name, and its type can be read off the notation. -/
structure InputNode.Sound (node : InputNode) : Prop where
  name : Name.IsProper (some node.name)
  type : node.type.Legible

/-- A field with its arguments. -/
structure FieldNode.Sound (node : FieldNode) : Prop where
  name : Name.IsProper (some node.name)
  type : node.type.Legible
  args : ∀ arg ∈ node.args, arg.Sound

/-- All names in a content are names, and all types can be read off the notation. -/
structure Content.Sound (content : Content) : Prop where
  interfaces : ∀ name ∈ content.interfaceNames, Name.IsProper (some name)
  members : ∀ name ∈ content.unionMembers, Name.IsProper (some name)
  values : ∀ name ∈ content.valueNames, Name.IsProper (some name)
  fields : ∀ field ∈ content.outputFields, field.Sound
  inputs : ∀ node ∈ content.inputFields, node.Sound

/-- So it is in what a statement defines or extends. -/
def Statement.Sound : Statement → Prop
  | .type node => Name.IsProper (some node.name) ∧ node.content.Sound
  | .directive node => Name.IsProper (some node.name) ∧ ∀ arg ∈ node.args, arg.Sound
  | _ => True

/-! ## What the rules rule out -/

/-- The names in a statement about a type stand only once. -/
structure TypeNode.Distinct (node : TypeNode) : Prop where
  fields : node.content.fieldNames.Nodup
  values : node.content.valueNames.Nodup
  args : ∀ field ∈ node.content.outputFields, (field.args.map InputNode.name).Nodup

/-- Two statements about one type do not both define it, and have no member in common. -/
structure TypeNode.Apart (one other : TypeNode) : Prop where
  defines : one.name = other.name → one.extending = true ∨ other.extending = true
  fields : one.name = other.name → List.Disjoint one.content.fieldNames other.content.fieldNames
  values : one.name = other.name → List.Disjoint one.content.valueNames other.content.valueNames

instance TypeNode.symmApart : Std.Symm TypeNode.Apart where
  symm _ _ h :=
    { defines := fun hname => (h.defines hname.symm).symm
      fields := fun hname _ hother hone => h.fields hname.symm hone hother
      values := fun hname _ hother hone => h.values hname.symm hone hother }

/-- How the statements of a valid document fit together. -/
structure Document.Coherent (document : Document) : Prop where
  /-- Within a statement about a type, no two fields, enum values or arguments of one field have
  one name. -/
  distinct : ∀ node ∈ document.filterMap Statement.typeNode?, node.Distinct
  /-- No type is defined twice, and neither does an extension repeat a member. -/
  apart : (document.filterMap Statement.typeNode?).Pairwise TypeNode.Apart
  /-- No directive is defined twice. -/
  directives : ((document.filterMap Statement.directiveNode?).map DirectiveNode.name).Nodup
  /-- No two arguments of a directive have one name. -/
  directiveArgs : ∀ node ∈ document.filterMap Statement.directiveNode?,
    (node.args.map InputNode.name).Nodup

theorem eq_type_of_typeNode? {statement : Statement} {node : TypeNode}
    (h : statement.typeNode? = some node) : statement = .type node := by
  cases statement with
  | type found => rw [Option.some.inj h]
  | _ => exact absurd h nofun

theorem eq_directive_of_directiveNode? {statement : Statement} {node : DirectiveNode}
    (h : statement.directiveNode? = some node) : statement = .directive node := by
  cases statement with
  | directive found => rw [Option.some.inj h]
  | _ => exact absurd h nofun

/-! ## Types with their extensions -/

/-- What a document says of a type that it defines: the content of the definition, and then those
of the extensions. -/
def Document.partsOf (document : Document) (node : TypeNode) : List Content :=
  (node :: document.extensionsOf node.name).map TypeNode.content

namespace Document

variable {document : Document} {node : TypeNode}

/-- The definition of a type is a statement about it. -/
theorem mem_typeNodes_of_definition
    (h : node ∈ document.filterMap Statement.typeDefinition?) :
    node ∈ document.filterMap Statement.typeNode? ∧ node.extending = false := by
  obtain ⟨statement, hmem, hdefinition⟩ := List.mem_filterMap.1 h
  obtain ⟨hnode, hextending⟩ := Option.filter_eq_some_iff.1 hdefinition
  exact ⟨List.mem_filterMap.2 ⟨statement, hmem, hnode⟩, by simpa using hextending⟩

/-- So is an extension, which is a statement about the type of its name. -/
theorem mem_typeNodes_of_extension {name : String} {other : TypeNode}
    (h : other ∈ document.extensionsOf name) :
    other ∈ document.filterMap Statement.typeNode? ∧ other.extending = true ∧
      other.name = name := by
  obtain ⟨hmem, hother⟩ := List.mem_filter.1 h
  obtain ⟨hextending, hname⟩ := Bool.and_eq_true_iff.1 hother
  exact ⟨hmem, hextending, eq_of_beq hname⟩

/-- The definition of a type and its extensions are statements about types. -/
theorem mem_typeNodes_of_mem_cons (h : node ∈ document.filterMap Statement.typeDefinition?) :
    ∀ part ∈ node :: document.extensionsOf node.name,
      part ∈ document.filterMap Statement.typeNode? :=
  List.forall_mem_cons.2 ⟨(mem_typeNodes_of_definition h).1, fun _ hpart =>
    (mem_typeNodes_of_extension hpart).1⟩

namespace Coherent

/-- No type is defined twice. -/
theorem nodup_definitions (h : document.Coherent) :
    ((document.filterMap Statement.typeDefinition?).map TypeNode.name).Nodup := by
  have hdefinitions : document.filterMap Statement.typeDefinition? =
      (document.filterMap Statement.typeNode?).filter fun node => !node.extending := by
    rw [List.filter_filterMap]
    rfl
  rw [hdefinitions, List.Nodup, List.pairwise_map, List.pairwise_filter]
  refine h.apart.imp fun {one other} hapart hone hother hname => ?_
  rcases hapart.defines hname with hextending | hextending
  · rw [hextending] at hone
    exact Bool.false_ne_true hone
  · rw [hextending] at hother
    exact Bool.false_ne_true hother

/-- The definition of a type and its extensions have no member in common. -/
theorem pairwise_apart (h : document.Coherent)
    (hnode : node ∈ document.filterMap Statement.typeDefinition?) :
    (node :: document.extensionsOf node.name).Pairwise fun one other =>
      one.name = other.name ∧ one.Apart other := by
  obtain ⟨hnode, hextending⟩ := mem_typeNodes_of_definition hnode
  refine List.pairwise_cons.2 ⟨fun other hother => ?_, ?_⟩
  · obtain ⟨hmem, hother, hname⟩ := mem_typeNodes_of_extension hother
    have hne : node ≠ other := by
      rintro rfl
      exact absurd (hextending.symm.trans hother) Bool.false_ne_true
    exact ⟨hname.symm, h.apart.forall hnode hmem hne⟩
  · refine (h.apart.sublist List.filter_sublist).imp_of_mem fun hone hother hapart => ?_
    have hnames := (mem_typeNodes_of_extension hone).2.2.trans
      (mem_typeNodes_of_extension hother).2.2.symm
    exact ⟨hnames, hapart⟩

end Coherent

end Document

/-! ## Parts that go together -/

/-- Parts of a type that go together: their names and type references are sound, and no two
members have one name. -/
structure Fitting (parts : List Content) : Prop where
  sound : ∀ part ∈ parts, part.Sound
  fields : (parts.flatMap Content.fieldNames).Nodup
  values : (parts.flatMap Content.valueNames).Nodup
  args : ∀ part ∈ parts, ∀ field ∈ part.outputFields, (field.args.map InputNode.name).Nodup

section Documents

variable {document : Document} (hsound : ∀ statement ∈ document, statement.Sound)

include hsound

theorem sound_of_mem_typeNodes {node : TypeNode}
    (h : node ∈ document.filterMap Statement.typeNode?) :
    Name.IsProper (some node.name) ∧ node.content.Sound := by
  obtain ⟨statement, hmem, hnode⟩ := List.mem_filterMap.1 h
  obtain rfl := eq_type_of_typeNode? hnode
  exact hsound _ hmem

/-- What a document says of a type goes together. -/
theorem fitting_of_definition (h : document.Coherent) {node : TypeNode}
    (hnode : node ∈ document.filterMap Statement.typeDefinition?) :
    Fitting (document.partsOf node) where
  sound := List.forall_mem_map.2 fun part hpart =>
    (sound_of_mem_typeNodes hsound (Document.mem_typeNodes_of_mem_cons hnode part hpart)).2
  fields := by
    rw [Document.partsOf, List.flatMap_map, List.nodup_flatMap]
    refine ⟨fun part hpart => ?_, (h.pairwise_apart hnode).imp fun hapart =>
      hapart.2.fields hapart.1⟩
    exact (h.distinct part (Document.mem_typeNodes_of_mem_cons hnode part hpart)).fields
  values := by
    rw [Document.partsOf, List.flatMap_map, List.nodup_flatMap]
    refine ⟨fun part hpart => ?_, (h.pairwise_apart hnode).imp fun hapart =>
      hapart.2.values hapart.1⟩
    exact (h.distinct part (Document.mem_typeNodes_of_mem_cons hnode part hpart)).values
  args := List.forall_mem_map.2 fun part hpart =>
    (h.distinct part (Document.mem_typeNodes_of_mem_cons hnode part hpart)).args

end Documents

namespace Fitting

variable {parts : List Content}

theorem sound_outputs (h : Fitting parts) :
    ∀ field ∈ parts.flatMap Content.outputFields, field.Sound :=
  List.forall_mem_flatMap.2 fun part hpart => (h.sound part hpart).fields

theorem sound_inputs (h : Fitting parts) :
    ∀ node ∈ parts.flatMap Content.inputFields, node.Sound :=
  List.forall_mem_flatMap.2 fun part hpart => (h.sound part hpart).inputs

theorem nodup_outputs (h : Fitting parts) :
    ((parts.flatMap Content.outputFields).map FieldNode.name).Nodup := by
  refine h.fields.sublist ?_
  rw [List.map_flatMap]
  refine List.Sublist.flatMap_right parts fun part _ => ?_
  cases part with
  | object | interface => exact List.Sublist.refl _
  | scalar | union | enum | input => exact List.nil_sublist _

theorem nodup_inputs (h : Fitting parts) :
    ((parts.flatMap Content.inputFields).map InputNode.name).Nodup := by
  refine h.fields.sublist ?_
  rw [List.map_flatMap]
  refine List.Sublist.flatMap_right parts fun part _ => ?_
  cases part with
  | input => exact List.Sublist.refl _
  | scalar | object | interface | union | enum => exact List.nil_sublist _

end Fitting

end SchemaDrift.Sdl
