import SchemaDrift.Schema.TypeRef

/-!
# Changes of a type reference

* `TypeChange` — the ways in which a reference may change.
* `TypeChange.between` — the way in which one reference differs from another.
-/

namespace SchemaDrift

/-- The ways in which a type reference may change. -/
inductive TypeChange where
  /-- Null is ruled out at more levels and allowed at none that ruled it out. -/
  | tightened
  /-- Null is allowed at more levels and ruled out at none that allowed it. -/
  | loosened
  /-- The same core stands inside another number of lists. -/
  | listWrapping
  /-- Another core, or null ruled out at some levels and allowed at others. -/
  | retyped
  deriving DecidableEq, Repr, Inhabited

namespace TypeChange

/-- The word for a change. -/
def word : TypeChange → String
  | tightened => "tightened"
  | loosened => "loosened"
  | listWrapping => "list_wrapping"
  | retyped => "type"

/-- Do the second flags rule out null at a level where the first allow it?
Levels are compared as far as both have them. -/
def rulesOutMore (old new : List Bool) : Bool :=
  (old.zip new).any fun level => level.2 && !level.1

/-- How the new reference differs from the old one; `none` if it does not. -/
def between (old new : TypeRef) : Option TypeChange :=
  if old = new then none
  else if old.namedType ≠ new.namedType then some retyped
  else if old.listDepth ≠ new.listDepth then some listWrapping
  else
    let tighter := rulesOutMore old.nullability new.nullability
    let looser := rulesOutMore new.nullability old.nullability
    if tighter && !looser then some tightened
    else if looser && !tighter then some loosened
    else some retyped

@[simp] theorem between_self (ref : TypeRef) : between ref ref = none := by simp [between]

/-- Only equal references show no change. -/
theorem between_eq_none_iff {old new : TypeRef} : between old new = none ↔ old = new := by
  constructor
  · intro h
    unfold between at h
    split at h
    · assumption
    · split at h
      · cases h
      · split at h
        · cases h
        · dsimp only at h
          split at h
          · cases h
          · split at h <;> cases h
  · rintro rfl
    exact between_self old

end TypeChange

end SchemaDrift
