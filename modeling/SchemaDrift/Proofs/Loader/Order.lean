import Mathlib.Data.List.Sort
import SchemaDrift.Loader.Conversion

/-!
# Sorting by place

What is built from nodes is sorted by the places of these.  Where no two of them are at one
place, all that counts is which is before which: not the order from which the sorting starts, and
not how far the places are apart.

* `sortedByPlace_eq_insertionSort` — it is an insertion sort, which is stable.
* `sortedByPlace_eq_of_perm` — the order from which it starts is of no account.
* `map_sortedByPlace` — neither are the places, as long as they keep their order.
-/

namespace SchemaDrift

/-! ## Places in order -/

theorem isNoLater_total (one other : Option Nat) :
    isNoLater one other = true ∨ isNoLater other one = true := by
  cases one with
  | none => exact .inr rfl
  | some start =>
    cases other with
    | none => exact .inl rfl
    | some start' => simpa [isNoLater] using Nat.le_total start start'

theorem isNoLater_trans {one other third : Option Nat} (h : isNoLater one other = true)
    (h' : isNoLater other third = true) : isNoLater one third = true := by
  cases third with
  | none => cases one <;> rfl
  | some start'' =>
    cases other with
    | none => exact absurd h' nofun
    | some start' =>
      cases one with
      | none => exact absurd h nofun
      | some start =>
        simp only [isNoLater, decide_eq_true_eq] at h h' ⊢
        exact Nat.le_trans h h'

theorem isNoLater_antisymm {one other : Option Nat} (h : isNoLater one other = true)
    (h' : isNoLater other one = true) : one = other := by
  cases one with
  | none =>
    cases other with
    | none => rfl
    | some start => exact absurd h nofun
  | some start =>
    cases other with
    | none => exact absurd h' nofun
    | some start' =>
      simp only [isNoLater, decide_eq_true_eq] at h h'
      rw [Nat.le_antisymm h h']

/-! ## Sorting -/

section Sorting

variable {α β : Type} (origin : α → Option SourceNode)

/-- One member is declared no later than the other. -/
def DeclaredNoLater (one other : α) : Prop :=
  isNoLater (declarationPlace (origin one)) (declarationPlace (origin other)) = true

instance : DecidableRel (DeclaredNoLater origin) := fun _ _ =>
  inferInstanceAs (Decidable (_ = true))

instance : Std.Total (DeclaredNoLater origin) := ⟨fun _ _ => isNoLater_total _ _⟩

instance : IsTrans α (DeclaredNoLater origin) := ⟨fun _ _ _ => isNoLater_trans⟩

theorem insertByPlace_eq_orderedInsert (member : α) (members : List α) :
    insertByPlace origin member members =
      members.orderedInsert (DeclaredNoLater origin) member := by
  induction members with
  | nil => rfl
  | cons first rest ih =>
    rw [insertByPlace, List.orderedInsert_cons, ih]
    rfl

theorem sortedByPlace_eq_insertionSort (members : List α) :
    sortedByPlace origin members = members.insertionSort (DeclaredNoLater origin) := by
  induction members with
  | nil => rfl
  | cons first rest ih =>
    rw [sortedByPlace, ih, insertByPlace_eq_orderedInsert, List.insertionSort_cons]

/-- Members at places of their own are sorted into the one order of these places, in whichever
order they come. -/
theorem sortedByPlace_eq_of_perm {members inOrder : List α} (hperm : members.Perm inOrder)
    (horder : inOrder.Pairwise fun one other =>
      isNoLater (declarationPlace (origin other)) (declarationPlace (origin one)) = false) :
    sortedByPlace origin members = inOrder := by
  have hsorted : inOrder.Pairwise (DeclaredNoLater origin) :=
    horder.imp fun hlater => (isNoLater_total _ _).resolve_right (Bool.eq_false_iff.1 hlater)
  have hplaces : (inOrder.map fun member => declarationPlace (origin member)).Nodup := by
    rw [List.Nodup, List.pairwise_map]
    refine horder.imp fun {one other} hlater heq => ?_
    rw [heq, or_self_iff.1 (isNoLater_total _ _)] at hlater
    exact absurd hlater nofun
  rw [sortedByPlace_eq_insertionSort]
  have hmem : (members.insertionSort (DeclaredNoLater origin)).Perm inOrder :=
    (List.perm_insertionSort _ _).trans hperm
  refine hmem.eq_of_pairwise (fun one other hone hother h h' => ?_)
    (List.pairwise_insertionSort _ _) hsorted
  exact List.inj_on_of_nodup_map hplaces (hmem.subset hone) hother (isNoLater_antisymm h h')

variable {origin} {origin' : β → Option SourceNode}

/-- Members that are changed without a change of their order are sorted as before. -/
theorem map_sortedByPlace {change : α → β} {members : List α}
    (h : ∀ one ∈ members, ∀ other ∈ members, DeclaredNoLater origin one other ↔
      DeclaredNoLater origin' (change one) (change other)) :
    (sortedByPlace origin members).map change = sortedByPlace origin' (members.map change) := by
  rw [sortedByPlace_eq_insertionSort, sortedByPlace_eq_insertionSort]
  exact List.map_insertionSort _ _ change members h

theorem mem_sortedByPlace {members : List α} {member : α} :
    member ∈ sortedByPlace origin members ↔ member ∈ members := by
  rw [sortedByPlace_eq_insertionSort, List.mem_insertionSort]

end Sorting

end SchemaDrift
