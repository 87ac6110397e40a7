import Mathlib.Logic.Relation
import SchemaDrift.Proofs.Schema.Loosening

/-!
# The changes of a type reference

What the comparison of two references finds, outcome by outcome, in terms of the marks
against null that are put in or left out on the way from one to the other.

* `TypeRef.InsertsMark` — one mark is put in, at any level; chains of such steps are the
  loosening order read backwards (`reflTransGen_insertsMark_iff`).
* `TypeRef.AddsMark` — some level newly rules out null.
* `TypeChange.between_swap` — the change in the other direction.
* `TypeChange.between_characterised` — for proper references, when each change is found.
-/

namespace SchemaDrift

open Relation

/-! ## Putting in marks -/

/-- The second reference is the first with one more mark against null. -/
inductive TypeRef.InsertsMark : TypeRef → TypeRef → Prop where
  /-- The mark is put in outside. -/
  | here (ref : TypeRef) : InsertsMark ref (.nonNull ref)
  /-- The mark is put in inside a list. -/
  | list {old new : TypeRef} : InsertsMark old new → InsertsMark (.list old) (.list new)
  /-- The mark is put in below the outermost one. -/
  | nonNull {old new : TypeRef} : InsertsMark old new → InsertsMark (.nonNull old) (.nonNull new)

/-- Some level rules out null in the second reference that allows it in the first. -/
def TypeRef.AddsMark (old new : TypeRef) : Prop :=
  ∃ level : Nat, old.nullability[level]? = some false ∧ new.nullability[level]? = some true

namespace TypeRef

variable {old new : TypeRef}

namespace InsertsMark

theorem loosensTo (h : old.InsertsMark new) : new.LoosensTo old := by
  induction h with
  | here ref => exact .drop (.refl ref)
  | list _ ih => exact .list ih
  | nonNull _ ih => exact .nonNull ih

end InsertsMark

/-- Marks put in one after the other can be left out again, and the other way round. -/
theorem reflTransGen_insertsMark_iff :
    ReflTransGen InsertsMark old new ↔ new.LoosensTo old := by
  constructor
  · intro h
    induction h with
    | refl => exact .refl old
    | tail _ hstep ih => exact hstep.loosensTo.trans ih
  · intro h
    induction h with
    | refl => exact .refl
    | list _ ih => exact ih.lift TypeRef.list fun _ _ => .list
    | nonNull _ ih => exact ih.lift TypeRef.nonNull fun _ _ => .nonNull
    | drop _ ih => exact ih.tail (.here _)

/-- There is one flag for each list and one for the core. -/
theorem length_nullability {ref : TypeRef} (h : ref.Proper) :
    ref.nullability.length = ref.listDepth + 1 := by
  induction ref with
  | absent => exact h.elim
  | unnamed => exact h.elim
  | named name => rfl
  | list item ih => exact congrArg (· + 1) (ih h)
  | nonNull inner ih =>
    -- the mark sets a flag that is there anyway
    obtain ⟨rest, hinner, hmarked⟩ := nullability_nonNull h
    have hlength := ih h.2
    rw [hinner] at hlength
    rw [hmarked]
    exact hlength

end TypeRef

/-! ## The comparison of references -/

namespace TypeChange

variable {old new : TypeRef}

/-- The change of a type reference in the other direction. -/
def flip : TypeChange → TypeChange
  | .tightened => .loosened
  | .loosened => .tightened
  | .listWrapping => .listWrapping
  | .retyped => .retyped

theorem between_swap (old new : TypeRef) :
    between new old = (between old new).map flip := by
  unfold between
  by_cases h : old = new
  · simp [h]
  · by_cases hnamed : old.namedType = new.namedType
    · by_cases hdepth : old.listDepth = new.listDepth
      · cases rulesOutMore old.nullability new.nullability <;>
          cases rulesOutMore new.nullability old.nullability <;>
          simp [h, Ne.symm h, hnamed, hdepth, flip]
      · simp [h, Ne.symm h, hnamed, hdepth, Ne.symm hdepth, flip]
    · simp [h, Ne.symm h, hnamed, Ne.symm hnamed, flip]

/-- The flags are compared level by level. -/
theorem rulesOutMore_iff_addsMark :
    rulesOutMore old.nullability new.nullability = true ↔ old.AddsMark new := by
  simp only [rulesOutMore, List.any_eq_true, List.mem_iff_getElem?, TypeRef.AddsMark]
  constructor
  · rintro ⟨⟨before, after⟩, ⟨level, hlevel⟩, hflags⟩
    obtain ⟨hbefore, hafter⟩ := List.getElem?_zip_eq_some.1 hlevel
    obtain ⟨rfl, rfl⟩ : after = true ∧ before = false := by simpa using hflags
    exact ⟨level, hbefore, hafter⟩
  · rintro ⟨level, hbefore, hafter⟩
    exact ⟨(false, true), ⟨level, List.getElem?_zip_eq_some.2 ⟨hbefore, hafter⟩⟩, rfl⟩

/-- A tightening is a loosening in the other direction. -/
theorem between_eq_tightened_iff :
    between old new = some .tightened ↔ between new old = some .loosened := by
  rw [between_swap old new]
  cases between old new with
  | none => simp
  | some change => cases change <;> simp [flip]

theorem between_eq_listWrapping_iff :
    between old new = some .listWrapping ↔
      old.namedType = new.namedType ∧ old.listDepth ≠ new.listDepth := by
  unfold between
  by_cases heq : old = new
  · simp [heq]
  by_cases hname : old.namedType = new.namedType
  · by_cases hdepth : old.listDepth = new.listDepth
    · cases rulesOutMore old.nullability new.nullability <;>
        cases rulesOutMore new.nullability old.nullability <;> simp [heq, hname, hdepth]
    · simp [heq, hname, hdepth]
  · simp [heq, hname]

/-- Where cores and lists agree and no level changes, the proper references are equal, so
what is left for another type is another core, or marks both put in and left out. -/
theorem between_eq_retyped_iff (hold : old.Proper) (hnew : new.Proper) :
    between old new = some .retyped ↔
      old.namedType ≠ new.namedType ∨
        old.namedType = new.namedType ∧ old.listDepth = new.listDepth ∧
          old.AddsMark new ∧ new.AddsMark old := by
  rw [← rulesOutMore_iff_addsMark, ← rulesOutMore_iff_addsMark]
  unfold between
  by_cases heq : old = new
  · simp [heq]
  by_cases hname : old.namedType = new.namedType
  · by_cases hdepth : old.listDepth = new.listDepth
    · cases hmore : rulesOutMore old.nullability new.nullability <;>
        cases hless : rulesOutMore new.nullability old.nullability
      case false.false =>
        have hforth : old.LoosensTo new := (TypeRef.loosensTo_iff hold hnew).2
          ⟨hname, hdepth, hmore⟩
        have hback : new.LoosensTo old := (TypeRef.loosensTo_iff hnew hold).2
          ⟨hname.symm, hdepth.symm, hless⟩
        exact absurd (hforth.antisymm hback) heq
      all_goals simp [heq, hname, hdepth]
    · simp [heq, hname, hdepth]
  · simp [heq, hname]

/-- **The comparison follows the order of the marks.** Two proper references have one flag
for each list and one for the core, and what is found between them is: nothing exactly if
they are equal; another number of lists exactly if it is another number around the same
core; a tightening exactly if they differ and the new one comes from the old one by marks
put in, and a loosening with the two exchanged; and another type exactly in the cases that
are left, another core, or the same core in as many lists with some marks put in and some
left out. -/
theorem between_characterised (hold : old.Proper) (hnew : new.Proper) :
    old.nullability.length = old.listDepth + 1 ∧
    new.nullability.length = new.listDepth + 1 ∧
    (between old new = none ↔ old = new) ∧
    (between old new = some .listWrapping ↔
      old.namedType = new.namedType ∧ old.listDepth ≠ new.listDepth) ∧
    (between old new = some .tightened ↔
      old ≠ new ∧ ReflTransGen TypeRef.InsertsMark old new) ∧
    (between old new = some .loosened ↔
      new ≠ old ∧ ReflTransGen TypeRef.InsertsMark new old) ∧
    (between old new = some .retyped ↔
      old.namedType ≠ new.namedType ∨
        old.namedType = new.namedType ∧ old.listDepth = new.listDepth ∧
          old.AddsMark new ∧ new.AddsMark old) := by
  refine ⟨TypeRef.length_nullability hold, TypeRef.length_nullability hnew,
    between_eq_none_iff, between_eq_listWrapping_iff, ?_, ?_, between_eq_retyped_iff hold hnew⟩
  · rw [between_eq_tightened_iff, between_eq_loosened_iff hnew hold,
      TypeRef.reflTransGen_insertsMark_iff, ne_comm]
  · rw [between_eq_loosened_iff hold hnew, TypeRef.reflTransGen_insertsMark_iff, ne_comm]

/-- From a list of lists of integers, marks are put in at the core and outside. -/
theorem nested_list_tightened :
    between (.list (.list (.named "Int")))
      (.nonNull (.list (.list (.nonNull (.named "Int"))))) = some .tightened := by
  obtain ⟨-, -, -, -, htightened, -⟩ := @between_characterised (.list (.list (.named "Int")))
    (.nonNull (.list (.list (.nonNull (.named "Int")))))
    (by simp [TypeRef.Proper]) (by simp [TypeRef.Proper, TypeRef.isNonNull])
  refine htightened.2 ⟨by simp, ?_⟩
  exact .tail (.single (.list (.list (.here _)))) (.here _)

end TypeChange

end SchemaDrift
