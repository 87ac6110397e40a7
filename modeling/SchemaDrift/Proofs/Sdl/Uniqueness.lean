import Mathlib.Data.List.Induction
import SchemaDrift.Proofs.Loader.Documents

/-!
# Names in valid documents

Where nothing is wrong with a document, no name stands twice where it may stand only once.

* `repeats_eq_nil_iff`, `repeated_eq_nil_iff` — when no name occurs again.
* `typeNode_of_violations`, `directiveNode_of_violations` — what holds of a statement with which
  nothing is wrong where it stands.
* `coherent_of_violations` — the statements of a valid document fit together.
-/

namespace SchemaDrift.Sdl

/-! ## Names that occur again -/

theorem repeats_eq_nil_iff {seen names : List String} :
    repeats seen names = [] ↔ names.Nodup ∧ ∀ name ∈ names, name ∉ seen := by
  induction names generalizing seen with
  | nil => simp [repeats]
  | cons name rest ih =>
    by_cases hseen : name ∈ seen
    · simp [repeats, hseen]
    · rw [repeats, if_neg (by simpa using hseen), ih]
      rw [List.nodup_cons, List.forall_mem_cons]
      simp only [List.mem_cons, not_or]
      constructor
      · rintro ⟨hrest, hfresh⟩
        exact ⟨⟨fun hmem => (hfresh name hmem).1 rfl, hrest⟩, hseen, fun other hother =>
          (hfresh other hother).2⟩
      · rintro ⟨⟨hname, hrest⟩, -, hfresh⟩
        exact ⟨hrest, fun other hother => ⟨fun heq => hname (heq ▸ hother), hfresh other hother⟩⟩

theorem repeated_eq_nil_iff {names : List String} : repeated names = [] ↔ names.Nodup := by
  induction names with
  | nil => simp [repeated]
  | cons name rest ih =>
    rw [List.nodup_cons, ← ih]
    by_cases hmem : name ∈ rest
    · simp [repeated, hmem]
    · simp [repeated, hmem]

/-! ## Statements about types -/

/-- What holds of a statement about a type with which nothing is wrong where it stands. -/
theorem typeNode_of_violations {known : Knowledge} {before : Document} {node : TypeNode}
    (h : node.violations known before = []) :
    node.Distinct ∧ ∀ other ∈ before.filterMap Statement.typeNode?, other.Apart node := by
  simp only [TypeNode.violations, List.append_eq_nil_iff, List.map_eq_nil_iff,
    List.flatMap_eq_nil_iff, repeats_eq_nil_iff, repeated_eq_nil_iff] at h
  obtain ⟨⟨⟨⟨⟨⟨⟨⟨hsecond, hvalues⟩, hfields⟩, hargs⟩, -⟩, -⟩, -⟩, -⟩, -⟩ := h
  refine ⟨⟨hfields.1, hvalues.1, hargs⟩, fun other hother => ?_⟩
  have hearlier (hname : other.name = node.name) :
      other ∈ (before.filterMap Statement.typeNode?).filter fun other =>
        other.name == node.name :=
    List.mem_filter.2 ⟨hother, beq_iff_eq.2 hname⟩
  refine ⟨fun hname => ?_, fun hname => ?_, fun hname => ?_⟩
  · by_contra hboth
    rw [not_or, Bool.not_eq_true, Bool.not_eq_true] at hboth
    rw [if_pos] at hsecond
    · exact absurd hsecond (List.cons_ne_nil _ _)
    · rw [hboth.2, Bool.not_false, Bool.true_and, List.any_eq_true]
      exact ⟨other, hearlier hname, by rw [hboth.1, Bool.not_false]⟩
  · exact fun field hone hnode =>
      hfields.2 field hnode (List.mem_flatMap.2 ⟨other, hearlier hname, hone⟩)
  · exact fun value hone hnode =>
      hvalues.2 value hnode (List.mem_flatMap.2 ⟨other, hearlier hname, hone⟩)

/-- What holds of the definition of a directive with which nothing is wrong where it stands. -/
theorem directiveNode_of_violations {known : Knowledge} {before : Document} {node : DirectiveNode}
    (h : node.violations known before = []) :
    (node.args.map InputNode.name).Nodup ∧
      ∀ other ∈ before.filterMap Statement.directiveNode?, other.name ≠ node.name := by
  simp only [DirectiveNode.violations, List.append_eq_nil_iff, List.map_eq_nil_iff,
    repeated_eq_nil_iff] at h
  obtain ⟨⟨⟨⟨hargs, hsecond⟩, -⟩, -⟩, -⟩ := h
  refine ⟨hargs, fun other hother hname => ?_⟩
  have hearlier := List.mem_map_of_mem (f := DirectiveNode.name) hother
  rw [hname, ← List.contains_iff_mem] at hearlier
  rw [if_pos hearlier] at hsecond
  exact absurd hsecond (List.cons_ne_nil _ _)

/-! ## Whole documents -/

/-- Nothing is wrong with any statement where it stands. -/
theorem violations_of_split {known : Knowledge} {before front back : Document}
    {statement : Statement}
    (h : violationsAfter known before (front ++ statement :: back) = []) :
    statement.violations known (before ++ front) = [] := by
  induction front generalizing before with
  | nil =>
    rw [List.append_nil]
    exact (List.append_eq_nil_iff.1 h).1
  | cons first front ih =>
    have hrest := ih (List.append_eq_nil_iff.1 h).2
    rwa [List.append_assoc, List.singleton_append] at hrest

/-- What holds between each member of a list and those before it holds in pairs. -/
theorem pairwise_of_split {α : Type} {relation : α → α → Prop} {members : List α}
    (h : ∀ front member back, members = front ++ member :: back →
      ∀ earlier ∈ front, relation earlier member) : members.Pairwise relation := by
  induction members using List.reverseRecOn with
  | nil => exact .nil
  | append_singleton front last ih =>
    rw [List.pairwise_append]
    refine ⟨ih fun first member back heq => ?_, List.pairwise_singleton _ _, fun earlier hmem => ?_⟩
    · exact h first member (back ++ [last]) (by rw [heq, List.append_assoc, List.cons_append])
    · exact List.forall_mem_singleton.2 (h front last [] rfl earlier hmem)

/-- Nothing is wrong with any statement of a valid document where it stands. -/
theorem violations_of_append {document front back : Document} {statement : Statement}
    (h : document.violations = []) (heq : document = front ++ statement :: back) :
    statement.violations (Knowledge.ofDocument document) front = [] := by
  rw [Document.violations] at h
  nth_rewrite 2 [heq] at h
  exact violations_of_split h

theorem exists_violations_of_mem {document : Document} {statement : Statement}
    (h : document.violations = []) (hmem : statement ∈ document) :
    ∃ before, statement.violations (Knowledge.ofDocument document) before = [] := by
  obtain ⟨front, back, heq⟩ := List.append_of_mem hmem
  exact ⟨front, violations_of_append h heq⟩

theorem coherent_of_violations {document : Document} (h : document.violations = []) :
    document.Coherent := by
  have htype (node : TypeNode) (hnode : node ∈ document.filterMap Statement.typeNode?) :
      ∃ before, node.violations (Knowledge.ofDocument document) before = [] := by
    obtain ⟨statement, hmem, hstatement⟩ := List.mem_filterMap.1 hnode
    obtain rfl := eq_type_of_typeNode? hstatement
    exact exists_violations_of_mem h hmem
  refine ⟨fun node hnode => ?_, ?_, ?_, fun node hnode => ?_⟩
  · obtain ⟨before, hviolations⟩ := htype node hnode
    exact (typeNode_of_violations hviolations).1
  · rw [List.pairwise_filterMap]
    refine pairwise_of_split fun front statement back heq earlier hearlier one hone node hnode => ?_
    obtain rfl := eq_type_of_typeNode? hnode
    exact (typeNode_of_violations (violations_of_append h heq)).2 one
      (List.mem_filterMap.2 ⟨earlier, hearlier, hone⟩)
  · rw [List.Nodup, List.pairwise_map, List.pairwise_filterMap]
    refine pairwise_of_split fun front statement back heq earlier hearlier one hone node hnode => ?_
    obtain rfl := eq_directive_of_directiveNode? hnode
    exact (directiveNode_of_violations (violations_of_append h heq)).2 one
      (List.mem_filterMap.2 ⟨earlier, hearlier, hone⟩)
  · obtain ⟨statement, hmem, hstatement⟩ := List.mem_filterMap.1 hnode
    obtain rfl := eq_directive_of_directiveNode? hstatement
    obtain ⟨before, hviolations⟩ := exists_violations_of_mem h hmem
    exact (directiveNode_of_violations hviolations).1

end SchemaDrift.Sdl
