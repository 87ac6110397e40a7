import SchemaDrift.Schema.Name

/-!
# Pairing members by name

Members of two versions of a definition belong together if they have the same
name.

* `Pairing` — the members only on the old side, only on the new side, and the
  pairs on both.
* `pairByName` — the pairing of two lists of named members.
* `namesLeft` — the names of one list that another does not have.
-/

namespace SchemaDrift

variable {α : Type}

/-- Members of two lists, by the side on which their names occur. -/
structure Pairing (α : Type) where
  /-- Members of the old list whose names are gone, in the old order. -/
  removed : List α
  /-- Members of the new list whose names are new, in the new order. -/
  added : List α
  /-- Members of the new list with their old partners, in the new order. -/
  shared : List (α × α)
  deriving DecidableEq, Repr, Inhabited

/-- Does a member of the list have the name? -/
def hasNamed (name : α → Name) (members : List α) (wanted : Name) : Bool :=
  members.any fun member => name member == wanted

/-- The last member of the list that has the name. -/
def lastNamed? (name : α → Name) (members : List α) (wanted : Name) : Option α :=
  members.reverse.find? fun member => name member == wanted

/-- The members of two lists paired by name.  If several old members have one
name, the last of them is the partner. -/
def pairByName (name : α → Name) (old new : List α) : Pairing α where
  removed := old.filter fun member => !hasNamed name new (name member)
  added := new.filter fun member => !hasNamed name old (name member)
  shared := new.filterMap fun member =>
    (lastNamed? name old (name member)).map fun partner => (partner, member)

/-- The names of the first list that are not in the second. -/
def namesLeft (names others : List Name) : List Name :=
  names.filter fun name => !others.contains name

/-! ## Where the members of a pairing come from -/

theorem mem_removed {name : α → Name} {old new : List α} {member : α} :
    member ∈ (pairByName name old new).removed ↔
      member ∈ old ∧ hasNamed name new (name member) = false := by
  simp [pairByName]

theorem mem_added {name : α → Name} {old new : List α} {member : α} :
    member ∈ (pairByName name old new).added ↔
      member ∈ new ∧ hasNamed name old (name member) = false := by
  simp [pairByName]

/-- Both members of a pair have the same name. -/
theorem name_eq_of_mem_shared {name : α → Name} {old new : List α} {pair : α × α}
    (h : pair ∈ (pairByName name old new).shared) : name pair.1 = name pair.2 := by
  simp only [pairByName, List.mem_filterMap, Option.map_eq_some_iff] at h
  obtain ⟨member, -, partner, hp, rfl⟩ := h
  have := List.find?_some hp
  simpa using this

end SchemaDrift
