import SchemaDrift.Compare.TypeChange

/-!
# Loosening a type reference

One type reference loosens to another if the second is the first without some of the
marks that rule out null.

* `TypeRef.LoosensTo` — the relation, an order (`LoosensTo.trans`,
  `LoosensTo.antisymm`).
* `loosensTo_iff` — for proper references it holds exactly if core and lists agree and
  no level rules out null that allowed it before.
* `between_eq_loosened_iff` — the comparison of references finds a loosening exactly
  where there is one.
-/

namespace SchemaDrift

/-! ## The order -/

/-- The second reference is the first with some of its marks against null left out,
perhaps with none of them. -/
inductive TypeRef.LoosensTo : TypeRef → TypeRef → Prop where
  /-- No mark is left out. -/
  | refl (ref : TypeRef) : LoosensTo ref ref
  /-- Marks are left out inside a list. -/
  | list {old new : TypeRef} : LoosensTo old new → LoosensTo (.list old) (.list new)
  /-- The outermost mark stays. -/
  | nonNull {old new : TypeRef} : LoosensTo old new → LoosensTo (.nonNull old) (.nonNull new)
  /-- The outermost mark is left out. -/
  | drop {old new : TypeRef} : LoosensTo old new → LoosensTo (.nonNull old) new

/-- The number of marks against null. -/
def TypeRef.markCount : TypeRef → Nat
  | absent => 0
  | unnamed => 0
  | named _ => 0
  | list item => item.markCount
  | nonNull inner => inner.markCount + 1

namespace TypeRef.LoosensTo

variable {old new : TypeRef}

theorem trans {a b c : TypeRef} (hab : a.LoosensTo b) (hbc : b.LoosensTo c) :
    a.LoosensTo c := by
  induction hab generalizing c with
  | refl => exact hbc
  | list h ih =>
    cases hbc with
    | refl => exact .list h
    | list h' => exact .list (ih h')
  | nonNull h ih =>
    cases hbc with
    | refl => exact .nonNull h
    | nonNull h' => exact .nonNull (ih h')
    | drop h' => exact .drop (ih h')
  | drop _ ih => exact .drop (ih hbc)

theorem namedType_eq (h : old.LoosensTo new) : old.namedType = new.namedType := by
  induction h with
  | refl => rfl
  | list _ ih => exact ih
  | nonNull _ ih => exact ih
  | drop _ ih => exact ih

theorem listDepth_eq (h : old.LoosensTo new) : old.listDepth = new.listDepth := by
  induction h with
  | refl => rfl
  | list _ ih => exact congrArg (· + 1) ih
  | nonNull _ ih => exact ih
  | drop _ ih => exact ih

/-- Loosening adds no mark, and if it leaves none out it changes nothing. -/
theorem markCount_le (h : old.LoosensTo new) :
    new.markCount ≤ old.markCount ∧ (new.markCount = old.markCount → old = new) := by
  induction h with
  | refl => exact ⟨Nat.le_refl _, fun _ => rfl⟩
  | list _ ih => exact ⟨ih.1, fun he => congrArg _ (ih.2 he)⟩
  | nonNull _ ih => exact ⟨Nat.succ_le_succ ih.1, fun he => congrArg _ (ih.2 (Nat.succ.inj he))⟩
  | drop _ ih =>
    have hle := ih.1
    simp only [markCount]
    exact ⟨by omega, fun he => by omega⟩

theorem antisymm (h : old.LoosensTo new) (h' : new.LoosensTo old) : old = new :=
  h.markCount_le.2 (Nat.le_antisymm h.markCount_le.1 h'.markCount_le.1)

end TypeRef.LoosensTo

/-! ## Marks level by level -/

namespace TypeChange

@[simp] theorem rulesOutMore_cons (o n : Bool) (os ns : List Bool) :
    rulesOutMore (o :: os) (n :: ns) = ((n && !o) || rulesOutMore os ns) := by
  simp [rulesOutMore]

@[simp] theorem rulesOutMore_self (flags : List Bool) : rulesOutMore flags flags = false := by
  induction flags with
  | nil => rfl
  | cons flag rest ih => rw [rulesOutMore_cons, ih]; cases flag <;> rfl

end TypeChange

open TypeChange

namespace TypeRef

variable {old new : TypeRef}

/-- The mark of a proper reference sets the outermost flag and no other. -/
theorem nullability_nonNull {inner : TypeRef} (h : (nonNull inner).Proper) :
    ∃ rest, inner.nullability = false :: rest ∧ (nonNull inner).nullability = true :: rest := by
  obtain ⟨hbare, hproper⟩ := h
  cases inner with
  | absent => exact hproper.elim
  | unnamed => exact hproper.elim
  | named name => exact ⟨[], rfl, rfl⟩
  | list item => exact ⟨item.nullability, rfl, rfl⟩
  | nonNull _ => cases hbare

/-- A loosening rules out null nowhere that it was allowed. -/
theorem LoosensTo.rulesOutMore_eq_false (h : old.LoosensTo new) (hold : old.Proper)
    (hnew : new.Proper) : rulesOutMore old.nullability new.nullability = false := by
  induction h with
  | refl ref => exact rulesOutMore_self _
  | list _ ih => simpa [nullability] using ih hold hnew
  | nonNull _ ih =>
    obtain ⟨os, ho, ho'⟩ := nullability_nonNull hold
    obtain ⟨ns, hn, hn'⟩ := nullability_nonNull hnew
    have hrest := ih hold.2 hnew.2
    rw [ho, hn] at hrest
    rw [ho', hn']
    simpa using hrest
  | @drop inner new _ ih =>
    obtain ⟨os, ho, ho'⟩ := nullability_nonNull hold
    have hrest := ih hold.2 hnew
    rw [ho] at hrest
    rw [ho']
    cases hn : new.nullability with
    | nil => rfl
    | cons n ns =>
      rw [hn] at hrest
      simp only [rulesOutMore_cons, Bool.or_eq_false_iff] at hrest ⊢
      exact ⟨by simp, hrest.2⟩

/-- If core and lists agree and no level newly rules out null, the reference is
loosened. -/
theorem loosensTo_of_rulesOutMore_eq_false (hold : old.Proper) (hnew : new.Proper)
    (hname : old.namedType = new.namedType) (hdepth : old.listDepth = new.listDepth)
    (hflags : rulesOutMore old.nullability new.nullability = false) : old.LoosensTo new := by
  induction old generalizing new with
  | absent => exact hold.elim
  | unnamed => exact hold.elim
  | named name =>
    cases new with
    | absent => exact hnew.elim
    | unnamed => exact hnew.elim
    | named other => rw [show name = other from hname]; exact .refl _
    | list item => exact absurd hdepth (by simp [listDepth])
    | nonNull inner =>
      obtain ⟨ns, -, hn'⟩ := nullability_nonNull hnew
      rw [hn'] at hflags
      exact absurd hflags (by simp [nullability])
  | list item ih =>
    cases new with
    | absent => exact hnew.elim
    | unnamed => exact hnew.elim
    | named other => exact absurd hdepth (by simp [listDepth])
    | list item' =>
      exact .list (ih hold hnew hname (Nat.succ.inj hdepth) (by simpa [nullability] using hflags))
    | nonNull inner =>
      obtain ⟨ns, -, hn'⟩ := nullability_nonNull hnew
      rw [hn'] at hflags
      exact absurd hflags (by simp [nullability])
  | nonNull inner ih =>
    obtain ⟨os, ho, ho'⟩ := nullability_nonNull hold
    rw [ho'] at hflags
    cases new with
    | absent => exact hnew.elim
    | unnamed => exact hnew.elim
    | named other =>
      exact .drop (ih hold.2 hnew hname hdepth (by simpa [ho, nullability] using hflags))
    | list item =>
      exact .drop (ih hold.2 hnew hname hdepth (by simpa [ho, nullability] using hflags))
    | nonNull inner' =>
      obtain ⟨ns, hn, hn'⟩ := nullability_nonNull hnew
      rw [hn'] at hflags
      exact .nonNull (ih hold.2 hnew.2 hname hdepth (by simpa [ho, hn] using hflags))

/-- The order in terms of the three measures of a reference. -/
theorem loosensTo_iff (hold : old.Proper) (hnew : new.Proper) :
    old.LoosensTo new ↔ old.namedType = new.namedType ∧ old.listDepth = new.listDepth ∧
      rulesOutMore old.nullability new.nullability = false :=
  ⟨fun h => ⟨h.namedType_eq, h.listDepth_eq, h.rulesOutMore_eq_false hold hnew⟩,
    fun ⟨hname, hdepth, hflags⟩ =>
      loosensTo_of_rulesOutMore_eq_false hold hnew hname hdepth hflags⟩

end TypeRef

/-! ## The comparison of references -/

namespace TypeChange

variable {old new : TypeRef}

/-- When references are found to be loosened, in terms of the three measures. -/
theorem between_eq_some_loosened_iff :
    between old new = some .loosened ↔ old.namedType = new.namedType ∧
      old.listDepth = new.listDepth ∧ rulesOutMore old.nullability new.nullability = false ∧
      rulesOutMore new.nullability old.nullability = true := by
  unfold between
  by_cases heq : old = new
  · simp [heq]
  by_cases hname : old.namedType = new.namedType
  · by_cases hdepth : old.listDepth = new.listDepth
    · cases rulesOutMore old.nullability new.nullability <;>
        cases rulesOutMore new.nullability old.nullability <;> simp [heq, hname, hdepth]
    · simp [heq, hname, hdepth]
  · simp [heq, hname]

/-- Proper references are found to be loosened exactly if they are. -/
theorem between_eq_loosened_iff (hold : old.Proper) (hnew : new.Proper) :
    between old new = some .loosened ↔ old ≠ new ∧ old.LoosensTo new := by
  rw [between_eq_some_loosened_iff, TypeRef.loosensTo_iff hold hnew]
  constructor
  · rintro ⟨hname, hdepth, hflags, hmore⟩
    refine ⟨?_, hname, hdepth, hflags⟩
    rintro rfl
    rw [hflags] at hmore
    cases hmore
  · rintro ⟨hne, hname, hdepth, hflags⟩
    refine ⟨hname, hdepth, hflags, ?_⟩
    cases hmore : rulesOutMore new.nullability old.nullability with
    | true => rfl
    | false =>
      -- each loosens to the other, so they are one reference
      have hback : new.LoosensTo old := (TypeRef.loosensTo_iff hnew hold).2
        ⟨hname.symm, hdepth.symm, hmore⟩
      have hforth : old.LoosensTo new := (TypeRef.loosensTo_iff hold hnew).2
        ⟨hname, hdepth, hflags⟩
      exact absurd (hforth.antisymm hback) hne

/-- The only change that is found between proper references is a loosening, if any is,
exactly if the old one loosens to the new one. -/
theorem forall_between_loosened_iff (hold : old.Proper) (hnew : new.Proper) :
    (∀ change, between old new = some change → change = .loosened) ↔ old.LoosensTo new := by
  constructor
  · intro h
    cases hb : between old new with
    | none => rw [between_eq_none_iff.1 hb]; exact .refl _
    | some change =>
      rw [h change hb] at hb
      exact ((between_eq_loosened_iff hold hnew).1 hb).2
  · intro h change hb
    have hne : old ≠ new := by
      rintro rfl
      rw [between_self] at hb
      cases hb
    rw [(between_eq_loosened_iff hold hnew).2 ⟨hne, h⟩] at hb
    exact (Option.some.inj hb).symm

end TypeChange

end SchemaDrift
