import SchemaDrift.Proofs.Schema.WellFormed

/-!
# Intact type maps

An intact type map is one from which nothing is missing, whatever its names look like:

* `Body.names`, `Body.memberNames` — the names in a body, and those of them by which the
  members of a list are told apart.
* `Definition.Intact` — no part of a definition is missing, and no two members of a list
  have one name.
* `TypeMap.Intact` — the same for maps, in which each definition stands under its own key.

Every well-formed map is intact (`TypeMap.WellFormed.intact`); an intact one may have names
that the schema language cannot write.
-/

namespace SchemaDrift

/-! ## Names in a body -/

/-- The names in a body: those of its members and of their arguments, and those it lists. -/
def Body.names : Body → List Name
  | .object fields interfaces | .interface fields interfaces =>
      (fields.flatMap fun field => field.name :: field.args.map InputValue.name) ++ interfaces
  | .union members => members
  | .enum values => values.map EnumValue.name
  | .input fields => fields.map InputValue.name
  | .scalar _ => []
  | .directive locations args _ => locations ++ args.map InputValue.name

/-- The lists of members of a body, by their names. -/
def Body.memberNames : Body → List (List Name)
  | .object fields _ | .interface fields _ =>
      fields.map Field.name :: fields.map fun field => field.args.map InputValue.name
  | .enum values => [values.map EnumValue.name]
  | .input fields => [fields.map InputValue.name]
  | .directive _ args _ => [args.map InputValue.name]
  | .union _ | .scalar _ => []

/-- Is it left open whether a directive is repeatable? -/
def Body.leavesOpen : Body → Bool
  | .directive _ _ none => true
  | _ => false

/-! ## Intact definitions and maps -/

/-- A definition from which no part is missing, and in which the members of each list have
names of their own. -/
structure Definition.Intact (definition : Definition) : Prop where
  names : none ∉ definition.name :: definition.body.names
  typeRefs : ∀ ref ∈ definition.body.typeRefs, ref.Complete
  decided : definition.body.leavesOpen = false
  distinct : ∀ names ∈ definition.body.memberNames, names.Nodup

instance Definition.decidableIntact : DecidablePred Definition.Intact := fun definition =>
  decidable_of_iff (none ∉ definition.name :: definition.body.names ∧
      (∀ ref ∈ definition.body.typeRefs, ref.Complete) ∧ definition.body.leavesOpen = false ∧
      ∀ names ∈ definition.body.memberNames, names.Nodup)
    ⟨fun h => ⟨h.1, h.2.1, h.2.2.1, h.2.2.2⟩, fun h => ⟨h.names, h.typeRefs, h.decided, h.distinct⟩⟩

/-- An intact type map: each key stands once, over the intact definition whose key it is. -/
structure TypeMap.Intact (types : TypeMap) : Prop where
  nodup : (Keyed.keys types).Nodup
  key : ∀ entry ∈ types, entry.1 = entry.2.key
  definition : ∀ entry ∈ types, entry.2.Intact

instance TypeMap.decidableIntact : DecidablePred TypeMap.Intact := fun types =>
  decidable_of_iff ((Keyed.keys types).Nodup ∧ (∀ entry ∈ types, entry.1 = entry.2.key) ∧
      ∀ entry ∈ types, entry.2.Intact)
    ⟨fun h => ⟨h.1, h.2.1, h.2.2⟩, fun h => ⟨h.nodup, h.key, h.definition⟩⟩

theorem Definition.Intact.name_ne_none {definition : Definition} (h : definition.Intact) :
    definition.name ≠ none :=
  fun hn => h.names (hn ▸ List.mem_cons_self)

/-! ## Well-formed maps are intact -/

theorem Name.IsProper.ne_none {name : Name} (h : name.IsProper) : name ≠ none := by
  obtain ⟨word, rfl, -⟩ := h
  exact nofun

theorem none_not_mem {names : List Name} (h : ∀ name ∈ names, Name.IsProper name) : none ∉ names :=
  fun hn => (h none hn).ne_none rfl

theorem MembersWellFormed.isProper {values : List InputValue}
    (h : MembersWellFormed InputValue.name InputValue.WellFormed values) :
    ∀ name ∈ values.map InputValue.name, Name.IsProper name :=
  List.forall_mem_map.2 fun value hv => (h.each value hv).name

theorem MembersWellFormed.complete {values : List InputValue}
    (h : MembersWellFormed InputValue.name InputValue.WellFormed values) :
    ∀ ref ∈ values.map InputValue.type, ref.Complete :=
  List.forall_mem_map.2 fun value hv => (h.each value hv).type

theorem Body.WellFormed.isProper {body : Body} (h : body.WellFormed) :
    ∀ name ∈ body.names, Name.IsProper name := by
  cases body with
  | object fields interfaces | interface fields interfaces =>
    refine List.forall_mem_append.2 ⟨?_, h.2⟩
    rw [List.forall_mem_flatMap]
    intro field hf
    have hfield := h.1.each field hf
    exact List.forall_mem_cons.2 ⟨hfield.name, hfield.args.isProper⟩
  | union members => exact h
  | enum values => exact List.forall_mem_map.2 h.each
  | input fields => exact MembersWellFormed.isProper h
  | scalar specifiedBy => exact fun _ hn => absurd hn List.not_mem_nil
  | directive locations args repeatable => exact List.forall_mem_append.2 ⟨h.1, h.2.1.isProper⟩

theorem Body.WellFormed.complete {body : Body} (h : body.WellFormed) :
    ∀ ref ∈ body.typeRefs, ref.Complete := by
  cases body with
  | object fields interfaces | interface fields interfaces =>
    refine (List.forall_mem_flatMap).2 fun field hf => ?_
    have hfield := h.1.each field hf
    exact List.forall_mem_cons.2 ⟨hfield.type, hfield.args.complete⟩
  | input fields => exact MembersWellFormed.complete h
  | directive locations args repeatable => exact h.2.1.complete
  | union members | enum values | scalar specifiedBy => exact fun _ hr => absurd hr List.not_mem_nil

theorem Body.WellFormed.leavesOpen_eq_false {body : Body} (h : body.WellFormed) :
    body.leavesOpen = false := by
  cases body with
  | directive locations args repeatable =>
    cases repeatable with
    | none => exact absurd rfl h.2.2
    | some flag => rfl
  | _ => rfl

theorem Body.WellFormed.distinct {body : Body} (h : body.WellFormed) :
    ∀ names ∈ body.memberNames, names.Nodup := by
  cases body with
  | object fields interfaces | interface fields interfaces =>
    refine List.forall_mem_cons.2 ⟨h.1.nodup, List.forall_mem_map.2 fun field hf => ?_⟩
    exact (h.1.each field hf).args.nodup
  | enum values => exact List.forall_mem_singleton.2 h.nodup
  | input fields => exact List.forall_mem_singleton.2 h.nodup
  | directive locations args repeatable => exact List.forall_mem_singleton.2 h.2.1.nodup
  | union members | scalar specifiedBy => exact fun _ hn => absurd hn List.not_mem_nil

theorem Definition.WellFormed.intact {definition : Definition} (h : definition.WellFormed) :
    definition.Intact where
  names := none_not_mem (List.forall_mem_cons.2 ⟨h.name, h.body.isProper⟩)
  typeRefs := h.body.complete
  decided := h.body.leavesOpen_eq_false
  distinct := h.body.distinct

/-- Nothing is missing from a well-formed type map. -/
theorem TypeMap.WellFormed.intact {types : TypeMap} (h : types.WellFormed) : types.Intact :=
  ⟨h.nodup, h.key, fun entry he => (h.definition entry he).intact⟩

end SchemaDrift
