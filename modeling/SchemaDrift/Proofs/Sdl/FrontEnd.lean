import SchemaDrift.Proofs.Sdl.Trees
import SchemaDrift.Proofs.Sdl.Uniqueness
import SchemaDrift.Sdl.Load

/-!
# The front end that is run

It does what front ends are relied on for.

* `TypeNode.follows_builtContent` — a type is built from its definition and its extensions.
* `merges_schema` — the schema of a tree has what the tree defines.
* `schema_moved`, `build_moved` — it knows places from the tree only.
* `lawful_frontEnd` — the front end is lawful.
-/

namespace SchemaDrift.Sdl

/-! ## Members -/

theorem follows_wrapped {ref : TypeRef} (h : ref.Complete) : (wrapped ref).Follows ref := by
  induction ref with
  | absent | unnamed => exact h.elim
  | named name => exact .named name
  | list item ih => exact .list (ih h)
  | nonNull inner ih => exact .nonNull (ih h)

theorem InputNode.Sound.follows_built {node : InputNode} (h : node.Sound) :
    BuiltInput.Follows node node.built :=
  ⟨rfl, follows_wrapped h.type.proper.complete, rfl, id⟩

theorem follows_inputs {nodes : List InputNode} (h : ∀ node ∈ nodes, node.Sound) :
    List.Forall₂ BuiltInput.Follows nodes (nodes.map InputNode.built) :=
  List.forall₂_map_right_iff.2 (List.forall₂_same.2 fun node hnode => (h node hnode).follows_built)

theorem FieldNode.Sound.follows_built {node : FieldNode} (h : node.Sound) :
    BuiltField.Follows node node.built :=
  ⟨rfl, follows_wrapped h.type.proper.complete, follows_inputs h.args⟩

theorem follows_fields {nodes : List FieldNode} (h : ∀ node ∈ nodes, node.Sound) :
    List.Forall₂ BuiltField.Follows nodes (nodes.map FieldNode.built) :=
  List.forall₂_map_right_iff.2 (List.forall₂_same.2 fun node hnode => (h node hnode).follows_built)

theorem Content.map_name_values (content : Content) :
    content.values.map ValueNode.name = content.valueNames := by
  cases content <;> rfl

/-! ## Types -/

/-- A type has the members of its definition, and then those of its extensions. -/
theorem TypeNode.follows_builtContent {node : TypeNode} {extensions : List TypeNode}
    (hsound : ∀ part ∈ node :: extensions, part.content.Sound) :
    (node.builtContent extensions).kind? = some node.content.kind ∧
      (node.builtContent extensions).Follows ((node :: extensions).map TypeNode.content) := by
  have houtputs : ∀ field ∈ ((node :: extensions).map TypeNode.content).flatMap
      Content.outputFields, field.Sound := by
    rw [List.flatMap_map]
    exact List.forall_mem_flatMap.2 fun part hpart => (hsound part hpart).fields
  have hinputs : ∀ field ∈ ((node :: extensions).map TypeNode.content).flatMap
      Content.inputFields, field.Sound := by
    rw [List.flatMap_map]
    exact List.forall_mem_flatMap.2 fun part hpart => (hsound part hpart).inputs
  unfold TypeNode.builtContent
  generalize (node :: extensions).map TypeNode.content = parts at houtputs hinputs
  cases node.content with
  | scalar => exact ⟨rfl, trivial⟩
  | object | interface => exact ⟨rfl, follows_fields houtputs, rfl⟩
  | union => exact ⟨rfl, rfl⟩
  | input => exact ⟨rfl, follows_inputs hinputs⟩
  | enum =>
    refine ⟨rfl, fun found hfound => ?_⟩
    split at hfound
    · exact absurd hfound nofun
    · rw [← Except.ok.inj hfound, List.map_map, List.map_flatMap]
      exact List.flatMap_congr fun part _ => part.map_name_values

/-! ## Schemas -/

theorem isOwnType_frontEnd (name : String) :
    frontEnd.isOwnType name = !standardTypes.contains name := by
  show (!introspectionTypes.contains name && !standardScalars.contains name) = _
  rw [← Bool.not_or, standardTypes, List.contains_append, Bool.or_comm]

/-- What is built of some members, one by one, follows these. -/
theorem forall₂_filterMap {α β : Type} {follows : α → β → Prop} {chosen : α → Bool}
    {build : α → Option β} {members : List α}
    (hbuilt : ∀ member ∈ members, chosen member = true →
      ∃ built, build member = some built ∧ follows member built)
    (hnone : ∀ member ∈ members, chosen member = false → build member = none) :
    List.Forall₂ follows (members.filter chosen) (members.filterMap build) := by
  induction members with
  | nil => exact .nil
  | cons first rest ih =>
    obtain ⟨hfirst, hbuilt⟩ := List.forall_mem_cons.1 hbuilt
    obtain ⟨hnothing, hnone⟩ := List.forall_mem_cons.1 hnone
    cases hchosen : chosen first with
    | false =>
      rw [List.filter_cons_of_neg (Bool.eq_false_iff.1 hchosen),
        List.filterMap_cons_none (hnothing hchosen)]
      exact ih hbuilt hnone
    | true =>
      obtain ⟨built, heq, hfollows⟩ := hfirst hchosen
      rw [List.filter_cons_of_pos hchosen, List.filterMap_cons_some heq]
      exact .cons hfollows (ih hbuilt hnone)

section Merging

variable {tree : Tree} (hsound : ∀ statement ∈ tree.document, statement.Sound)

include hsound

/-- The types that a tree defines follow its statements. -/
theorem follows_ownTypes : List.Forall₂ (BuiltType.Follows tree.document)
    (frontEnd.ownTypes tree) (tree.filterMap (PlacedStatement.builtType? tree.document)) := by
  refine forall₂_filterMap (fun placed hplaced hdefines => ?_) fun placed _ hdefines => ?_
  · obtain ⟨node, hnode, hextending, hown⟩ := FrontEnd.exists_node_of_definesType hdefines
    rw [isOwnType_frontEnd] at hown
    have hbuilt : placed.builtType? tree.document = some
        { name := node.name
          origin := some ⟨some placed.offset⟩
          description := node.description
          content := node.builtContent (tree.document.extensionsOf node.name) } := by
      rw [PlacedStatement.builtType?, hnode]
      exact if_pos (by rw [hextending, hown]; rfl)
    have hmem : node ∈ tree.document.filterMap Statement.typeDefinition? :=
      List.mem_filterMap.2 ⟨_, List.mem_map_of_mem hplaced, by
        rw [hnode]
        exact Option.filter_eq_some_iff.2 ⟨rfl, by rw [hextending, Bool.not_false]⟩⟩
    obtain ⟨hkind, hcontent⟩ := TypeNode.follows_builtContent fun part hpart =>
      (sound_of_mem_typeNodes hsound (Document.mem_typeNodes_of_mem_cons hmem part hpart)).2
    exact ⟨_, hbuilt, node, hnode, rfl, rfl, hkind, hcontent⟩
  · rw [PlacedStatement.builtType?]
    cases hnode : placed.statement with
    | type node =>
      rw [hnode, FrontEnd.definesType, isOwnType_frontEnd] at hdefines
      exact if_neg (Bool.eq_false_iff.1 hdefines)
    | _ => rfl

/-- So do the directives. -/
theorem follows_ownDirectives : List.Forall₂ BuiltDirective.Follows (frontEnd.ownDirectives tree)
    ((tree.filterMap PlacedStatement.builtDirective?).filter fun directive =>
      frontEnd.isOwnDirective directive.name) := by
  rw [List.filter_filterMap]
  refine forall₂_filterMap (fun placed hplaced hdefines => ?_) fun placed _ hdefines => ?_
  · obtain ⟨node, hnode, hown⟩ := FrontEnd.exists_node_of_definesDirective hdefines
    have hstatement := hsound _ (List.mem_map_of_mem hplaced)
    rw [hnode] at hstatement
    rw [PlacedStatement.builtDirective?, hnode]
    exact ⟨_, Option.filter_eq_some_iff.2 ⟨rfl, hown⟩, node, hnode, rfl, rfl, rfl,
      follows_inputs hstatement.2, rfl⟩
  · rw [PlacedStatement.builtDirective?]
    cases hnode : placed.statement with
    | directive node =>
      rw [hnode] at hdefines
      exact Option.filter_eq_none_iff.2 fun directive hdirective => by
        rw [← Option.some.inj hdirective]
        exact Bool.eq_false_iff.1 hdefines
    | _ => rfl

/-- The schema of a tree has what the tree defines. -/
theorem merges_schema : tree.schema.Merges frontEnd tree where
  types := by
    refine ⟨_, _, .refl _, follows_ownTypes hsound, List.forall_mem_map.2 fun name hname => ?_⟩
    show frontEnd.isOwnType name = false
    rw [isOwnType_frontEnd, List.contains_iff_mem.2 hname, Bool.not_true]
  directives := by
    let defined := tree.filterMap PlacedStatement.builtDirective?
    let isOwn (directive : BuiltDirective Literal) := frontEnd.isOwnDirective directive.name
    let added := (standardDirectives.filter fun entry =>
      !(defined.map BuiltDirective.name).contains entry.1).map standardDirective
    refine ⟨defined.filter isOwn, defined.filter (fun directive => !isOwn directive) ++ added,
      ?_, follows_ownDirectives hsound, List.forall_mem_append.2 ⟨?_, ?_⟩⟩
    · rw [← List.append_assoc]
      exact ((List.filter_append_perm isOwn defined).symm.append_right added)
    · intro directive hdirective
      exact Bool.not_eq_true' _ ▸ (List.mem_filter.1 hdirective).2
    · refine List.forall_mem_map.2 fun entry hentry => ?_
      have hhas : standardDirectives.has entry.1 = true :=
        Keyed.has_iff_mem_keys.2 (List.mem_map_of_mem (List.mem_filter.1 hentry).1)
      show (!standardDirectives.has entry.1) = false
      rw [hhas, Bool.not_true]

end Merging

/-! ## Other places -/

theorem builtType?_moved (move : Nat → Nat) (document : Document) (placed : PlacedStatement) :
    PlacedStatement.builtType? document { placed with offset := move placed.offset } =
      (placed.builtType? document).map (BuiltType.moved move) := by
  obtain ⟨statement, offset⟩ := placed
  cases statement with
  | type node =>
    unfold PlacedStatement.builtType?
    dsimp only
    split
    · rfl
    · rfl
  | _ => rfl

theorem builtDirective?_moved (move : Nat → Nat) (placed : PlacedStatement) :
    PlacedStatement.builtDirective? { placed with offset := move placed.offset } =
      placed.builtDirective?.map (BuiltDirective.moved move) := by
  obtain ⟨statement, offset⟩ := placed
  cases statement <;> rfl

/-- A schema knows places from its tree only. -/
theorem schema_moved (move : Nat → Nat) (tree : Tree) :
    (tree.moved move).schema = tree.schema.moved move := by
  have htypes : (tree.moved move).filterMap (PlacedStatement.builtType? tree.document) =
      (tree.filterMap (PlacedStatement.builtType? tree.document)).map (BuiltType.moved move) := by
    rw [Tree.moved, List.filterMap_map, List.map_filterMap]
    exact List.filterMap_congr fun placed _ => builtType?_moved move _ placed
  have hdirectives : (tree.moved move).filterMap PlacedStatement.builtDirective? =
      (tree.filterMap PlacedStatement.builtDirective?).map (BuiltDirective.moved move) := by
    rw [Tree.moved, List.filterMap_map, List.map_filterMap]
    exact List.filterMap_congr fun placed _ => builtDirective?_moved move placed
  have hnames (directives : List (BuiltDirective Literal)) :
      (directives.map (BuiltDirective.moved move)).map BuiltDirective.name =
        directives.map BuiltDirective.name := by
    rw [List.map_map]
    rfl
  unfold Tree.schema BuiltSchema.moved
  dsimp only
  rw [Tree.document_moved, htypes, hdirectives, hnames, List.map_append, List.map_append,
    List.map_map, List.map_map]
  rfl

/-- Whether all remarks are texts does not depend on where they stand. -/
theorem unfit?_eq_none_iff {document : Document} (text : String) :
    document.unfit? text = none ↔
      document.unfitAddress? = none ∧ document.unfitReason? = none ∧
        document.unfitField? = none := by
  simp only [Document.unfit?, Option.or_eq_none_iff, Option.map_eq_none_iff, and_assoc]

theorem build_moved {old new : String} {tree : Tree} {schema : BuiltSchema Literal}
    (move : Nat → Nat) (h : Tree.build old tree = .ok schema) :
    Tree.build new (tree.moved move) = .ok (schema.moved move) := by
  unfold Tree.build at h ⊢
  rw [Tree.document_moved]
  split at h
  case h_1 hfit =>
    obtain rfl := Except.ok.inj h
    rw [(unfit?_eq_none_iff new).2 ((unfit?_eq_none_iff old).1 hfit), schema_moved]
  case h_2 => exact absurd h nofun

/-! ## The front end -/

theorem schema_of_build {text : String} {tree : Tree} {schema : BuiltSchema Literal}
    (h : Tree.build text tree = .ok schema) : schema = tree.schema := by
  unfold Tree.build at h
  split at h
  case h_1 => exact (Except.ok.inj h).symm
  case h_2 => exact absurd h nofun

/-- The front end that is run does what front ends are relied on for. -/
theorem lawful_frontEnd : frontEnd.Lawful where
  grammar := sound_of_treeOfText
  order := offset_lt_of_treeOfText
  places := exists_lexeme_of_treeOfText
  tokens h htokens := ⟨_, takesAlong_relocation _ _, treeOfText_relocated h htokens⟩
  rules := coherent_of_violations
  check_moved move tree := congrArg Document.violations (tree.document_moved move)
  merging hparse _ hbuild := by
    rw [schema_of_build hbuild]
    exact merges_schema (sound_of_treeOfText hparse)
  build_moved move h := build_moved move h

end SchemaDrift.Sdl
