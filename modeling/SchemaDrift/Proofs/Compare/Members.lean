import Mathlib.Data.List.Forall2
import Mathlib.Data.List.Nodup
import Mathlib.Data.List.Perm.Basic
import SchemaDrift.Compare.Members

/-!
# Members with names of their own

What a pairing holds if no two members of a list have one name:

* `lastNamed?_eq_some_iff`, `mem_shared_iff` — members are found by name, and the
  shared pairs are all the pairs of members of one name.
* `forall_mem_members` — what it takes that everything reported of two lists of
  members has some property.
* `Kept`, `SameUpToOrder` — every old member is still there, and the two lists hold
  the same members, with `kept_iff` and `sameUpToOrder_iff` for both in terms of the
  pairs of one name.
-/

namespace SchemaDrift

variable {α β : Type} {name : α → Name} {old new : List α}

/-! ## Finding members by name -/

theorem hasNamed_eq_false_iff {members : List α} {wanted : Name} :
    hasNamed name members wanted = false ↔ ∀ member ∈ members, name member ≠ wanted := by
  simp [hasNamed]

theorem eq_of_name_eq {members : List α} (h : (members.map name).Nodup) {a b : α}
    (ha : a ∈ members) (hb : b ∈ members) (he : name a = name b) : a = b :=
  List.inj_on_of_nodup_map h ha hb he

/-- A member with a name of its own is found by it. -/
theorem lastNamed?_eq_some_iff {members : List α} (h : (members.map name).Nodup)
    {wanted : Name} {member : α} :
    lastNamed? name members wanted = some member ↔ member ∈ members ∧ name member = wanted := by
  constructor
  · intro hm
    exact ⟨List.mem_reverse.1 (List.mem_of_find?_eq_some hm), by simpa using List.find?_some hm⟩
  · rintro ⟨hm, rfl⟩
    cases hf : lastNamed? name members (name member) with
    | none =>
      have hne := List.find?_eq_none.1 hf member (List.mem_reverse.2 hm)
      simp at hne
    | some other =>
      have hmem : other ∈ members := List.mem_reverse.1 (List.mem_of_find?_eq_some hf)
      have hname : name other = name member := by simpa using List.find?_some hf
      rw [eq_of_name_eq h hmem hm hname]

theorem mem_of_mem_shared {pair : α × α} (h : pair ∈ (pairByName name old new).shared) :
    pair.1 ∈ old ∧ pair.2 ∈ new := by
  simp only [pairByName, List.mem_filterMap, Option.map_eq_some_iff] at h
  obtain ⟨member, hm, partner, hp, rfl⟩ := h
  exact ⟨List.mem_reverse.1 (List.mem_of_find?_eq_some hp), hm⟩

/-- The shared pairs are the pairs of an old and a new member of one name. -/
theorem mem_shared_iff (h : (old.map name).Nodup) {pair : α × α} :
    pair ∈ (pairByName name old new).shared ↔
      pair.1 ∈ old ∧ pair.2 ∈ new ∧ name pair.1 = name pair.2 := by
  simp only [pairByName, List.mem_filterMap, Option.map_eq_some_iff]
  constructor
  · rintro ⟨member, hm, partner, hp, rfl⟩
    obtain ⟨hmem, hname⟩ := (lastNamed?_eq_some_iff h).1 hp
    exact ⟨hmem, hm, hname⟩
  · rintro ⟨hold, hnew, hname⟩
    exact ⟨pair.2, hnew, pair.1, (lastNamed?_eq_some_iff h).2 ⟨hold, hname⟩, rfl⟩

/-- Everything reported of two lists of members has a property if the reports of the
old members whose names are gone, of the new members whose names are new and of the pairs
of one name have it. -/
theorem forall_mem_members (h : (old.map name).Nodup) {gone come : α → β}
    {both : α × α → List β} {P : β → Prop} :
    (∀ d ∈ (pairByName name old new).removed.map gone
        ++ (pairByName name old new).added.map come
        ++ (pairByName name old new).shared.flatMap both, P d) ↔
      (∀ a ∈ old, (∀ b ∈ new, name b ≠ name a) → P (gone a)) ∧
      (∀ b ∈ new, (∀ a ∈ old, name a ≠ name b) → P (come b)) ∧
      ∀ a ∈ old, ∀ b ∈ new, name a = name b → ∀ d ∈ both (a, b), P d := by
  simp only [List.forall_mem_append, List.forall_mem_map, List.forall_mem_flatMap, mem_removed,
    mem_added, mem_shared_iff h, hasNamed_eq_false_iff, Prod.forall, and_imp, and_assoc]
  exact and_congr_right' (and_congr_right' ⟨fun H a ha b hb => H a b ha hb,
    fun H a b ha hb => H a ha b hb⟩)

/-! ## Members that are kept -/

/-- Every old member is still there under its name, in a form that `keeps` allows. -/
def Kept (name : α → Name) (keeps : α → α → Prop) (old new : List α) : Prop :=
  ∀ a ∈ old, ∃ b ∈ new, name b = name a ∧ keeps a b

/-- If no two new members have one name, to be kept is to lose no name and to treat
every pair of one name well. -/
theorem kept_iff (h : (new.map name).Nodup) {keeps : α → α → Prop} :
    Kept name keeps old new ↔
      (∀ a ∈ old, ¬∀ b ∈ new, name b ≠ name a) ∧
      ∀ a ∈ old, ∀ b ∈ new, name a = name b → keeps a b := by
  constructor
  · intro hk
    constructor
    · intro a ha hne
      obtain ⟨b, hb, hname, -⟩ := hk a ha
      exact hne b hb hname
    · intro a ha b hb hname
      obtain ⟨c, hc, hca, hkeeps⟩ := hk a ha
      rwa [eq_of_name_eq h hb hc (hname.symm.trans hca.symm)]
  · rintro ⟨hgone, hboth⟩ a ha
    have hex := hgone a ha
    push Not at hex
    obtain ⟨b, hb, hname⟩ := hex
    exact ⟨b, hb, hname, hboth a ha b hb hname.symm⟩

theorem Kept.trans {keeps : α → α → Prop} (htrans : ∀ a b c, keeps a b → keeps b c → keeps a c)
    {a b c : List α} (hab : Kept name keeps a b) (hbc : Kept name keeps b c) :
    Kept name keeps a c := by
  intro x hx
  obtain ⟨y, hy, hyx, hxy⟩ := hab x hx
  obtain ⟨z, hz, hzy, hyz⟩ := hbc y hy
  exact ⟨z, hz, hzy.trans hyx, htrans x y z hxy hyz⟩

/-! ## Members that are the same -/

/-- The two lists hold the same members in any order, where two members count as the
same if `same` relates them. -/
def SameUpToOrder (same : α → α → Prop) (old new : List α) : Prop :=
  ∃ reordered, old.Perm reordered ∧ List.Forall₂ same reordered new

theorem sameUpToOrder_eq_iff : SameUpToOrder (· = ·) old new ↔ old.Perm new := by
  simp [SameUpToOrder, List.forall₂_eq_eq_eq]

theorem exists_of_mem_of_forall₂ {same : α → β → Prop} {l₁ : List α} {l₂ : List β}
    (h : List.Forall₂ same l₁ l₂) {a : α} (ha : a ∈ l₁) : ∃ b ∈ l₂, same a b := by
  induction h with
  | nil => exact absurd ha List.not_mem_nil
  | @cons x y _ _ hxy _ ih =>
    rcases List.mem_cons.1 ha with rfl | hrest
    · exact ⟨y, List.mem_cons_self, hxy⟩
    · obtain ⟨b, hb, hab⟩ := ih hrest
      exact ⟨b, List.mem_cons_of_mem _ hb, hab⟩

theorem isSome_lastNamed? {members : List α} {wanted : Name} :
    (lastNamed? name members wanted).isSome = hasNamed name members wanted := by
  rw [Bool.eq_iff_iff, lastNamed?, hasNamed, List.find?_isSome, List.any_eq_true]
  simp only [List.mem_reverse]

/-- The new members of the shared pairs are those whose names the old side has, in
their order. -/
theorem map_snd_shared :
    (pairByName name old new).shared.map Prod.snd =
      new.filter fun member => hasNamed name old (name member) := by
  simp only [pairByName]
  induction new with
  | nil => rfl
  | cons member rest ih =>
    cases hl : lastNamed? name old (name member) with
    | none =>
      have hnot : hasNamed name old (name member) = false := by rw [← isSome_lastNamed?, hl]; rfl
      simp [hl, hnot, ih]
    | some partner =>
      have hyes : hasNamed name old (name member) = true := by rw [← isSome_lastNamed?, hl]; rfl
      simp [hl, hyes, ih]

/-- No old member is in two shared pairs if no two new members have one name. -/
theorem nodup_map_fst_shared (h : (new.map name).Nodup) :
    ((pairByName name old new).shared.map Prod.fst).Nodup := by
  refine List.Nodup.of_map name ?_
  have hnames : ((pairByName name old new).shared.map Prod.fst).map name
      = ((pairByName name old new).shared.map Prod.snd).map name := by
    rw [List.map_map, List.map_map]
    exact List.map_congr_left fun pair hp => name_eq_of_mem_shared hp
  rw [hnames, map_snd_shared]
  exact h.sublist (List.filter_sublist.map name)

/-- If no name is lost, the old members of the shared pairs are all the old members. -/
theorem perm_map_fst_shared (hold : (old.map name).Nodup) (hnew : (new.map name).Nodup)
    (hgone : ∀ a ∈ old, ¬∀ b ∈ new, name b ≠ name a) :
    old.Perm ((pairByName name old new).shared.map Prod.fst) := by
  refine (List.perm_ext_iff_of_nodup (List.Nodup.of_map name hold)
    (nodup_map_fst_shared hnew)).2 fun a => ?_
  rw [List.mem_map]
  constructor
  · intro ha
    have hex := hgone a ha
    push Not at hex
    obtain ⟨b, hb, hname⟩ := hex
    exact ⟨(a, b), (mem_shared_iff hold).2 ⟨ha, hb, hname.symm⟩, rfl⟩
  · rintro ⟨pair, hp, rfl⟩
    exact ((mem_shared_iff hold).1 hp).1

/-- If in neither list two members have one name, the lists hold the same members
exactly if no name is lost, none is new and members of one name are the same. -/
theorem sameUpToOrder_iff (hold : (old.map name).Nodup) (hnew : (new.map name).Nodup)
    {same : α → α → Prop} (hsame : ∀ a b, same a b → name a = name b) :
    SameUpToOrder same old new ↔
      (∀ a ∈ old, ¬∀ b ∈ new, name b ≠ name a) ∧
      (∀ b ∈ new, ¬∀ a ∈ old, name a ≠ name b) ∧
      ∀ a ∈ old, ∀ b ∈ new, name a = name b → same a b := by
  constructor
  · rintro ⟨reordered, hperm, hall⟩
    have hleft : ∀ a ∈ old, ∃ b ∈ new, same a b := fun a ha =>
      exists_of_mem_of_forall₂ hall (hperm.mem_iff.1 ha)
    have hright : ∀ b ∈ new, ∃ a ∈ old, same a b := by
      intro b hb
      obtain ⟨a, ha, hab⟩ := exists_of_mem_of_forall₂ hall.flip hb
      exact ⟨a, hperm.mem_iff.2 ha, hab⟩
    refine ⟨fun a ha hne => ?_, fun b hb hne => ?_, fun a ha b hb hname => ?_⟩
    · obtain ⟨b, hb, hab⟩ := hleft a ha
      exact hne b hb (hsame a b hab).symm
    · obtain ⟨a, ha, hab⟩ := hright b hb
      exact hne a ha (hsame a b hab)
    · obtain ⟨c, hc, hac⟩ := hleft a ha
      rwa [eq_of_name_eq hnew hb hc (hname.symm.trans (hsame a c hac))]
  · rintro ⟨hgone, hcome, hboth⟩
    refine ⟨_, perm_map_fst_shared hold hnew hgone, ?_⟩
    -- nothing is new, so the new members of the shared pairs are the whole new list
    have hsnd : (pairByName name old new).shared.map Prod.snd = new := by
      rw [map_snd_shared, List.filter_eq_self]
      intro b hb
      by_contra hno
      exact hcome b hb (hasNamed_eq_false_iff.1 (by simpa using hno))
    conv => rhs; rw [← hsnd]
    rw [List.forall₂_map_left_iff, List.forall₂_map_right_iff, List.forall₂_same]
    intro pair hp
    obtain ⟨ha, hb, hname⟩ := (mem_shared_iff hold).1 hp
    exact hboth _ ha _ hb hname

end SchemaDrift
