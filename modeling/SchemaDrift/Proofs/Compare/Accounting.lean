import Mathlib.Data.List.Count
import SchemaDrift.Proofs.Compare.Members
import SchemaDrift.Schema.Definition

/-!
# A pairing accounts for every member

Whatever names two lists of members have, and however often, no member is lost in their pairing
and none is made up.

* `IsLastNamed` — a member of a list after which none has its name, with
  `lastNamed?_eq_some_iff_isLastNamed`.
* `Dealt` — the members of a new list dealt out one after the other, each to the added ones or,
  with a partner, to the shared ones.
* `dealt_pairByName` — a pairing deals out the new members.
* `Pairing.AccountsFor`, `pairByName_accounts` — what becomes of the members of both lists.
-/

namespace SchemaDrift

variable {α : Type} {name : α → Name} {old new : List α}

/-! ## The last member of a name -/

/-- The list has the member, and none after it has its name. -/
def IsLastNamed (name : α → Name) (members : List α) (member : α) : Prop :=
  ∃ before after, members = before ++ member :: after ∧
    ∀ other ∈ after, name other ≠ name member

theorem IsLastNamed.mem {members : List α} {member : α} (h : IsLastNamed name members member) :
    member ∈ members := by
  obtain ⟨before, after, rfl, -⟩ := h
  simp

/-- What is found under a name is the last member that has it. -/
theorem lastNamed?_eq_some_iff_isLastNamed {members : List α} {wanted : Name} {member : α} :
    lastNamed? name members wanted = some member ↔
      name member = wanted ∧ IsLastNamed name members member := by
  rw [lastNamed?, List.find?_eq_some_iff_append, beq_iff_eq]
  refine and_congr_right fun hname => ?_
  subst hname
  constructor
  · rintro ⟨after, before, hsplit, hafter⟩
    refine ⟨before.reverse, after.reverse, ?_, ?_⟩
    · rw [← List.reverse_inj, hsplit]
      simp
    · intro other hother
      simpa using hafter other (List.mem_reverse.1 hother)
  · rintro ⟨before, after, rfl, hafter⟩
    refine ⟨after.reverse, before.reverse, by simp, ?_⟩
    intro other hother
    simpa using hafter other (List.mem_reverse.1 hother)

theorem lastNamed?_eq_none_iff {members : List α} {wanted : Name} :
    lastNamed? name members wanted = none ↔ wanted ∉ members.map name := by
  rw [← Option.not_isSome_iff_eq_none, isSome_lastNamed?, Bool.not_eq_true,
    hasNamed_eq_false_iff]
  simp

theorem hasNamed_iff {members : List α} {wanted : Name} :
    hasNamed name members wanted = true ↔ wanted ∈ members.map name := by
  rw [← isSome_lastNamed?, ← Option.ne_none_iff_isSome, Ne, lastNamed?_eq_none_iff, not_not]

/-! ## Dealing out the new members -/

/-- New members dealt out one after the other: a member whose name no old one has is added, and
any other is shared, with the last old member of its name for a partner. -/
inductive Dealt (name : α → Name) (old : List α) : List α → List α → List (α × α) → Prop where
  | nil : Dealt name old [] [] []
  | added {member : α} {rest added : List α} {shared : List (α × α)}
      (fresh : name member ∉ old.map name) (others : Dealt name old rest added shared) :
      Dealt name old (member :: rest) (member :: added) shared
  | shared {partner member : α} {rest added : List α} {shared : List (α × α)}
      (same : name partner = name member) (last : IsLastNamed name old partner)
      (others : Dealt name old rest added shared) :
      Dealt name old (member :: rest) added ((partner, member) :: shared)

theorem pairByName_cons_of_fresh {member : α} (h : name member ∉ old.map name) (rest : List α) :
    (pairByName name old (member :: rest)).added = member :: (pairByName name old rest).added ∧
      (pairByName name old (member :: rest)).shared = (pairByName name old rest).shared := by
  have hnone : lastNamed? name old (name member) = none := lastNamed?_eq_none_iff.2 h
  have hnot : hasNamed name old (name member) = false := by
    rw [← Bool.not_eq_true, hasNamed_iff]
    exact h
  constructor <;> simp [pairByName, hnone, hnot]

theorem pairByName_cons_of_known {partner member : α}
    (h : lastNamed? name old (name member) = some partner) (rest : List α) :
    (pairByName name old (member :: rest)).added = (pairByName name old rest).added ∧
      (pairByName name old (member :: rest)).shared =
        (partner, member) :: (pairByName name old rest).shared := by
  have hyes : hasNamed name old (name member) = true := by
    rw [← isSome_lastNamed?, h]
    rfl
  constructor <;> simp [pairByName, h, hyes]

/-- A pairing deals out the new members. -/
theorem dealt_pairByName (name : α → Name) (old new : List α) :
    Dealt name old new (pairByName name old new).added (pairByName name old new).shared := by
  induction new with
  | nil => exact .nil
  | cons member rest ih =>
    cases hfound : lastNamed? name old (name member) with
    | none =>
      have hfresh := lastNamed?_eq_none_iff.1 hfound
      obtain ⟨hadded, hshared⟩ := pairByName_cons_of_fresh hfresh rest
      rw [hadded, hshared]
      exact .added hfresh ih
    | some partner =>
      obtain ⟨hsame, hlast⟩ := lastNamed?_eq_some_iff_isLastNamed.1 hfound
      obtain ⟨hadded, hshared⟩ := pairByName_cons_of_known hfound rest
      rw [hadded, hshared]
      exact .shared hsame hlast ih

namespace Dealt

variable {added : List α} {shared : List (α × α)}

theorem added_sublist (h : Dealt name old new added shared) : added.Sublist new := by
  induction h with
  | nil => exact .slnil
  | added _ _ ih => exact ih.cons_cons _
  | shared _ _ _ ih => exact ih.cons _

theorem shared_sublist (h : Dealt name old new added shared) :
    (shared.map Prod.snd).Sublist new := by
  induction h with
  | nil => exact .slnil
  | added _ _ ih => exact ih.cons _
  | shared _ _ _ ih => exact ih.cons_cons _

/-- Each new member is dealt out once. -/
theorem perm (h : Dealt name old new added shared) :
    (added ++ shared.map Prod.snd).Perm new := by
  induction h with
  | nil => exact .nil
  | added _ _ ih => exact ih.cons _
  | shared _ _ _ ih => exact List.perm_middle.trans (ih.cons _)

theorem fresh_of_mem_added (h : Dealt name old new added shared) :
    ∀ member ∈ added, name member ∉ old.map name := by
  induction h with
  | nil => exact List.forall_mem_nil _
  | added fresh _ ih => exact List.forall_mem_cons.2 ⟨fresh, ih⟩
  | shared _ _ _ ih => exact ih

theorem partner_of_mem_shared (h : Dealt name old new added shared) :
    ∀ pair ∈ shared, name pair.1 = name pair.2 ∧ IsLastNamed name old pair.1 := by
  induction h with
  | nil => exact List.forall_mem_nil _
  | added _ _ ih => exact ih
  | shared same last _ ih => exact List.forall_mem_cons.2 ⟨⟨same, last⟩, ih⟩

/-- How often a new member is added, and how often it is shared. -/
theorem count [DecidableEq α] (h : Dealt name old new added shared) (member : α) :
    added.count member = (if name member ∈ old.map name then 0 else new.count member) ∧
      (shared.map Prod.snd).count member =
        if name member ∈ old.map name then new.count member else 0 := by
  have htotal : added.count member + (shared.map Prod.snd).count member = new.count member := by
    rw [← List.count_append]
    exact h.perm.count_eq member
  by_cases hname : name member ∈ old.map name
  · have hnone : added.count member = 0 :=
      List.count_eq_zero.2 fun hmem => h.fresh_of_mem_added member hmem hname
    rw [if_pos hname, if_pos hname]
    omega
  · have hnone : (shared.map Prod.snd).count member = 0 := by
      refine List.count_eq_zero.2 fun hmem => hname ?_
      obtain ⟨pair, hpair, rfl⟩ := List.mem_map.1 hmem
      obtain ⟨hsame, hlast⟩ := h.partner_of_mem_shared pair hpair
      exact hsame ▸ List.mem_map_of_mem hlast.mem
    rw [if_neg hname, if_neg hname]
    omega

end Dealt

/-! ## What becomes of the members -/

theorem count_removed [DecidableEq α] (name : α → Name) (old new : List α) (member : α) :
    (pairByName name old new).removed.count member =
      if name member ∈ new.map name then 0 else old.count member := by
  by_cases hname : name member ∈ new.map name
  · rw [if_pos hname]
    refine List.count_eq_zero.2 fun hmem => ?_
    have hgone := (mem_removed.1 hmem).2
    rw [hasNamed_iff.2 hname] at hgone
    exact nomatch hgone
  · rw [if_neg hname]
    have hgone : (!hasNamed name new (name member)) = true := by
      rw [Bool.not_eq_true', ← Bool.not_eq_true, hasNamed_iff]
      exact hname
    exact List.count_filter hgone

/-- If in neither list two members have one name, each old member is removed or the partner of
one new member. -/
theorem perm_removed_append_partners (hold : (old.map name).Nodup) (hnew : (new.map name).Nodup) :
    ((pairByName name old new).removed ++ (pairByName name old new).shared.map Prod.fst).Perm
      old := by
  have hremoved : (pairByName name old new).removed.Nodup :=
    (List.Nodup.of_map name hold).sublist List.filter_sublist
  have hapart : ∀ a ∈ (pairByName name old new).removed,
      a ∉ (pairByName name old new).shared.map Prod.fst := by
    intro a hgone hpartner
    obtain ⟨pair, hpair, rfl⟩ := List.mem_map.1 hpartner
    obtain ⟨-, hmem, hname⟩ := (mem_shared_iff hold).1 hpair
    exact hasNamed_eq_false_iff.1 (mem_removed.1 hgone).2 pair.2 hmem hname.symm
  -- Neither list repeats a member, so it is enough that they have the same ones.
  refine (List.perm_ext_iff_of_nodup ?_ (List.Nodup.of_map name hold)).2 fun a => ?_
  · exact List.nodup_append'.2 ⟨hremoved, nodup_map_fst_shared hnew, hapart⟩
  · rw [List.mem_append]
    constructor
    · rintro (hgone | hpartner)
      · exact (mem_removed.1 hgone).1
      · obtain ⟨pair, hpair, rfl⟩ := List.mem_map.1 hpartner
        exact (mem_of_mem_shared hpair).1
    · intro ha
      by_cases hname : name a ∈ new.map name
      · obtain ⟨b, hb, hsame⟩ := List.mem_map.1 hname
        exact .inr (List.mem_map.2 ⟨(a, b), (mem_shared_iff hold).2 ⟨ha, hb, hsame.symm⟩, rfl⟩)
      · refine .inl (mem_removed.2 ⟨ha, ?_⟩)
        rwa [← Bool.not_eq_true, hasNamed_iff]

/-- What becomes of the members of two lists in a pairing. -/
structure Pairing.AccountsFor [DecidableEq α] (pairing : Pairing α) (name : α → Name)
    (old new : List α) : Prop where
  /-- The removed members stand in the order of the old ones. -/
  removed : pairing.removed.Sublist old
  /-- An old member is removed each time it occurs, if no new one has its name. -/
  countRemoved : ∀ member, pairing.removed.count member =
    if name member ∈ new.map name then 0 else old.count member
  /-- The new members are dealt out one after the other. -/
  dealt : Dealt name old new pairing.added pairing.shared
  /-- The added members stand in the order of the new ones. -/
  added : pairing.added.Sublist new
  /-- A new member is added each time it occurs, if no old one has its name. -/
  countAdded : ∀ member, pairing.added.count member =
    if name member ∈ old.map name then 0 else new.count member
  /-- The shared new members stand in the order of the new ones. -/
  shared : (pairing.shared.map Prod.snd).Sublist new
  /-- A new member is shared each time it occurs, if an old one has its name. -/
  countShared : ∀ member, (pairing.shared.map Prod.snd).count member =
    if name member ∈ old.map name then new.count member else 0
  /-- The partner of a new member is the last old one that has its name. -/
  partner : ∀ pair ∈ pairing.shared, name pair.1 = name pair.2 ∧ IsLastNamed name old pair.1
  /-- Without repeated names every member of either list is there exactly once. -/
  once : (old.map name).Nodup → (new.map name).Nodup →
    (pairing.removed ++ pairing.shared.map Prod.fst).Perm old ∧
      (pairing.added ++ pairing.shared.map Prod.snd).Perm new

/-- **A pairing loses no member and invents none.**  Of two lists of members, in which names may be
repeated, the removed ones are the old ones whose names are gone, in their order and as often as
they occur.  The new members are dealt out in their order, each as often as it occurs: to the added
ones if no old member has its name, and else to the shared ones, with the last old member of its
name.  Without repeated names, every old member is removed or a partner, exactly once, and every
new one is added or shared. -/
theorem pairByName_accounts [DecidableEq α] (name : α → Name) (old new : List α) :
    (pairByName name old new).AccountsFor name old new where
  removed := List.filter_sublist
  countRemoved := count_removed name old new
  dealt := dealt_pairByName name old new
  added := (dealt_pairByName name old new).added_sublist
  countAdded member := ((dealt_pairByName name old new).count member).1
  shared := (dealt_pairByName name old new).shared_sublist
  countShared member := ((dealt_pairByName name old new).count member).2
  partner := (dealt_pairByName name old new).partner_of_mem_shared
  once hold hnew :=
    ⟨perm_removed_append_partners hold hnew, (dealt_pairByName name old new).perm⟩

/-- A new value is shared each time it occurs, with the last old value of its name; an old value
that is not the last of its name is neither removed nor a partner.  Without repeated names each
value is accounted for once. -/
theorem pairByName_accounts_values :
    (let old : List EnumValue := [⟨"A", none, none⟩, ⟨"B", none, none⟩, ⟨"A", none, some "old"⟩]
      let new : List EnumValue := [⟨"C", none, none⟩, ⟨"A", none, none⟩, ⟨"A", none, none⟩]
      let pairing := pairByName EnumValue.name old new
      pairing.AccountsFor EnumValue.name old new ∧
        pairing.removed = [⟨"B", none, none⟩] ∧ pairing.added = [⟨"C", none, none⟩] ∧
        pairing.shared = List.replicate 2 (⟨"A", none, some "old"⟩, ⟨"A", none, none⟩)) ∧
    (let old : List EnumValue := [⟨"A", none, none⟩, ⟨"B", none, none⟩]
      let new : List EnumValue := [⟨"B", none, some "old"⟩, ⟨"C", none, none⟩]
      let pairing := pairByName EnumValue.name old new
      (pairing.removed ++ pairing.shared.map Prod.fst).Perm old ∧
        (pairing.added ++ pairing.shared.map Prod.snd).Perm new) :=
  ⟨⟨pairByName_accounts _ _ _, by decide, by decide, by decide⟩,
    (pairByName_accounts _ _ _).once (by decide) (by decide)⟩

end SchemaDrift
