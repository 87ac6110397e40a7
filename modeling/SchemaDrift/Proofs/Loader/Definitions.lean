import Mathlib.Data.List.Forall2
import Mathlib.Data.Option.Basic
import SchemaDrift.Proofs.Compare.Detections
import SchemaDrift.Proofs.Loader.Documents
import SchemaDrift.Proofs.Sdl.Statements

/-!
# What statements say of definitions

A type gets its members from the statement that defines it and from the extensions of the type,
a directive gets its arguments from the statement that defines it.

* `InputNode.Gives`, `FieldNode.Gives` — what a written member says of the member that is loaded.
* `Body.Lists` — a type has the members of its definition and then those of its extensions, each
  in the order in which they are written.
* `Statement.Gives` — what a statement says of the definition that it gives.
* `Body.Lists.wellFormed`, `Body.Lists.legible` — parts that go together make a well-formed type,
  all type references of which can be read off their notation.
* `wellFormed_of_gives` — so it is with the definitions that a document gives.
-/

namespace SchemaDrift.Sdl

/-! ## Members -/

/-- An argument or input field as it is written.  A default is there exactly if one is written. -/
structure InputNode.Gives (node : InputNode) (value : InputValue) : Prop where
  name : value.name = some node.name
  type : value.type = node.type
  noDefault : value.defaultValue = none ↔ node.defaultValue = none

/-- A field as it is written, with its arguments in the order in which they are written. -/
structure FieldNode.Gives (node : FieldNode) (field : Field) : Prop where
  name : field.name = some node.name
  type : field.type = node.type
  args : List.Forall₂ InputNode.Gives node.args field.args

/-! ## Bodies -/

/-- The class of the types of a content. -/
def Content.kind : Content → Kind
  | .scalar => .scalar
  | .object .. => .object
  | .interface .. => .interface
  | .union _ => .union
  | .enum _ => .enum
  | .input _ => .input

/-- A body lists the members of the parts of a type, one part after the other. -/
def Body.Lists (parts : List Content) : Body → Prop
  | .object fields interfaces | .interface fields interfaces =>
      List.Forall₂ FieldNode.Gives (parts.flatMap Content.outputFields) fields ∧
        interfaces = (parts.flatMap Content.interfaceNames).map some
  | .union members => members = (parts.flatMap Content.unionMembers).map some
  | .enum values => values.map EnumValue.name = (parts.flatMap Content.valueNames).map some
  | .input fields => List.Forall₂ InputNode.Gives (parts.flatMap Content.inputFields) fields
  | .scalar _ => True
  | .directive .. => False

/-- What a statement that defines something says of the definition.  A type has the members of
its definition, and after them those of its extensions. -/
def Statement.Gives (document : Document) (definition : Definition) : Statement → Prop
  | .type node =>
      definition.name = some node.name ∧ definition.kind = node.content.kind ∧
        Body.Lists (document.partsOf node) definition.body
  | .directive node =>
      definition.name = some node.name ∧ ∃ args,
        definition.body =
          .directive (node.locations.map fun place => some place.id) args (some node.repeatable) ∧
        List.Forall₂ InputNode.Gives node.args args
  | _ => False

/-! ## Well-formed definitions -/

/-- A list of members that is loaded from nodes with names of their own. -/
theorem membersWellFormed_of_gives {α β : Type} {gives : α → β → Prop} {name : α → String}
    {known : β → Name} {each : β → Prop} {nodes : List α} {members : List β}
    (hgives : List.Forall₂ gives nodes members)
    (hname : ∀ node member, gives node member → known member = some (name node))
    (hnodup : (nodes.map name).Nodup)
    (heach : ∀ node ∈ nodes, ∀ member, gives node member → each member) :
    MembersWellFormed known each members where
  nodup := by
    have hnames : members.map known = (nodes.map name).map some := by
      clear hnodup heach
      induction hgives with
      | nil => rfl
      | cons hfirst _ ih =>
        rw [List.map_cons, List.map_cons, List.map_cons, ih, hname _ _ hfirst]
    rw [hnames]
    exact hnodup.map (Option.some_injective String)
  each member hmember := by
    obtain ⟨node, hnode, hgiven⟩ := exists_of_mem_of_forall₂ hgives.flip hmember
    exact heach node hnode member hgiven

theorem InputNode.Gives.wellFormed {node : InputNode} {value : InputValue} (h : node.Gives value)
    (hsound : node.Sound) : value.WellFormed :=
  ⟨h.name ▸ hsound.name, h.type ▸ hsound.type.proper.complete⟩

/-- Arguments or input fields that are loaded from nodes with names of their own. -/
theorem inputs_wellFormed {nodes : List InputNode} {values : List InputValue}
    (h : List.Forall₂ InputNode.Gives nodes values) (hsound : ∀ node ∈ nodes, node.Sound)
    (hnodup : (nodes.map InputNode.name).Nodup) :
    MembersWellFormed InputValue.name InputValue.WellFormed values :=
  membersWellFormed_of_gives h (fun _ _ hgiven => hgiven.name) hnodup fun node hnode _ hgiven =>
    hgiven.wellFormed (hsound node hnode)

theorem inputs_legible {nodes : List InputNode} {values : List InputValue}
    (h : List.Forall₂ InputNode.Gives nodes values) (hsound : ∀ node ∈ nodes, node.Sound) :
    ∀ ref ∈ values.map InputValue.type, ref.Legible := by
  refine List.forall_mem_map.2 fun value hvalue => ?_
  obtain ⟨node, hnode, hgiven⟩ := exists_of_mem_of_forall₂ h.flip hvalue
  exact hgiven.type ▸ (hsound node hnode).type

theorem FieldNode.Gives.wellFormed {node : FieldNode} {field : Field} (h : node.Gives field)
    (hsound : node.Sound) (hnodup : (node.args.map InputNode.name).Nodup) : field.WellFormed :=
  ⟨h.name ▸ hsound.name, h.type ▸ hsound.type.proper.complete,
    inputs_wellFormed h.args hsound.args hnodup⟩

/-- Names that a body lists are proper if those of its parts are. -/
theorem isProper_of_flatMap {parts : List Content} {found : Content → List String}
    (h : ∀ part ∈ parts, ∀ name ∈ found part, Name.IsProper (some name)) :
    ∀ name ∈ (parts.flatMap found).map some, Name.IsProper name :=
  List.forall_mem_map.2 (List.forall_mem_flatMap.2 h)

/-- Parts that go together make a well-formed body. -/
theorem Body.Lists.wellFormed {parts : List Content} {body : Body} (h : Body.Lists parts body)
    (hparts : Fitting parts) : body.WellFormed := by
  have houtputs {fields : List Field}
      (hfields : List.Forall₂ FieldNode.Gives (parts.flatMap Content.outputFields) fields) :
      MembersWellFormed Field.name Field.WellFormed fields := by
    refine membersWellFormed_of_gives hfields (fun _ _ hgiven => hgiven.name) hparts.nodup_outputs
      fun node hnode _ hgiven => hgiven.wellFormed (hparts.sound_outputs node hnode) ?_
    obtain ⟨part, hpart, hfield⟩ := List.mem_flatMap.1 hnode
    exact hparts.args part hpart node hfield
  have hinterfaces := isProper_of_flatMap fun part hpart => (hparts.sound part hpart).interfaces
  cases body with
  | object fields interfaces | interface fields interfaces =>
    obtain ⟨hfields, rfl⟩ := h
    exact ⟨houtputs hfields, hinterfaces⟩
  | union members =>
    obtain rfl : members = _ := h
    exact isProper_of_flatMap fun part hpart => (hparts.sound part hpart).members
  | enum values =>
    have hnames : values.map EnumValue.name = (parts.flatMap Content.valueNames).map some := h
    refine ⟨?_, List.forall_mem_map.1 ?_⟩
    · rw [hnames]
      exact hparts.values.map (Option.some_injective String)
    · rw [hnames]
      exact isProper_of_flatMap fun part hpart => (hparts.sound part hpart).values
  | input fields => exact inputs_wellFormed h hparts.sound_inputs hparts.nodup_inputs
  | scalar specifiedBy => exact trivial
  | directive => exact h.elim

/-- Its type references can be read off their notation. -/
theorem Body.Lists.legible {parts : List Content} {body : Body} (h : Body.Lists parts body)
    (hparts : Fitting parts) : ∀ ref ∈ body.typeRefs, ref.Legible := by
  cases body with
  | object fields interfaces | interface fields interfaces =>
    refine List.forall_mem_flatMap.2 fun field hfield => ?_
    obtain ⟨node, hnode, hgiven⟩ := exists_of_mem_of_forall₂ h.1.flip hfield
    have hsound := hparts.sound_outputs node hnode
    exact List.forall_mem_cons.2 ⟨hgiven.type ▸ hsound.type, inputs_legible hgiven.args hsound.args⟩
  | input fields => exact inputs_legible h hparts.sound_inputs
  | union members | enum values | scalar specifiedBy =>
    exact fun _ hmem => absurd hmem List.not_mem_nil
  | directive => exact h.elim

/-! ## Definitions -/

section Definitions

variable {document : Document} {definition : Definition}

theorem Content.kind_ne_directive (content : Content) : content.kind ≠ .directive := by
  cases content <;> exact nofun

/-- The key of a definition is what the statement that gives it defines. -/
theorem Statement.Gives.key_eq {statement : Statement} (h : statement.Gives document definition)
    (hextending : ∀ node, statement = .type node → node.extending = false) :
    definition.key = statement.key? := by
  cases statement with
  | type node =>
    have hkind : definition.kind ≠ .directive := h.2.1 ▸ node.content.kind_ne_directive
    rw [Definition.key_eq_name hkind, h.1, key?, hextending node rfl, if_neg Bool.false_ne_true]
  | directive node =>
    obtain ⟨hname, args, hbody, -⟩ := h
    have hkind : definition.kind = .directive := by
      rw [Definition.kind, hbody]
      rfl
    rw [Definition.key_eq_of_directive hkind, hname]
    rfl
  | schema | directiveExtension | operation | fragment => exact h.elim

variable (hsound : ∀ statement ∈ document, statement.Sound) (hcoherent : document.Coherent)

include hsound hcoherent

/-- What a statement of a valid document gives is well-formed. -/
theorem wellFormed_of_gives {statement : Statement} (hmem : statement ∈ document)
    (hextending : ∀ node, statement = .type node → node.extending = false)
    (h : statement.Gives document definition) :
    definition.WellFormed ∧ ∀ ref ∈ definition.body.typeRefs, ref.Legible := by
  cases statement with
  | type node =>
    have hnode : node ∈ document.filterMap Statement.typeDefinition? :=
      List.mem_filterMap.2 ⟨_, hmem, Option.filter_eq_some_iff.2
        ⟨rfl, by rw [hextending node rfl, Bool.not_false]⟩⟩
    have hparts := fitting_of_definition hsound hcoherent hnode
    exact ⟨⟨h.1 ▸ (hsound _ hmem).1, h.2.2.wellFormed hparts⟩, h.2.2.legible hparts⟩
  | directive node =>
    obtain ⟨hname, args, hbody, hargs⟩ := h
    have hplace (place : Place) : Name.IsProper (some place.id) := by
      cases place <;> exact ⟨_, rfl, by decide⟩
    have hnode := hcoherent.directiveArgs node (List.mem_filterMap.2 ⟨_, hmem, rfl⟩)
    refine ⟨⟨hname ▸ (hsound _ hmem).1, ?_⟩, ?_⟩
    · rw [hbody]
      exact ⟨List.forall_mem_map.2 fun place _ => hplace place,
        inputs_wellFormed hargs (hsound _ hmem).2 hnode, nofun⟩
    · rw [hbody]
      exact inputs_legible hargs (hsound _ hmem).2
  | schema | directiveExtension | operation | fragment => exact h.elim

end Definitions

end SchemaDrift.Sdl
