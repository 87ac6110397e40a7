import Mathlib.Data.Prod.Basic
import SchemaDrift.Proofs.Compare.Detections

/-!
# What is reported of a pairing

Members of two lists are reported one by one or in pairs.  The definitions of two type maps
are members in this sense too, told apart by their keys.

* `Pairing.report` — what is reported of the members on one side and of the pairs.
* `shared_swap` — the pairs with the sides exchanged.
* `SameUpToOrder.perm_report` — the report does not depend on the order of the members.
* `Snapshot.detections_perm_report` — up to their order, the detections are what is reported
  of the definitions paired by key.
-/

namespace SchemaDrift

variable {α : Type}

/-- What is reported of a pairing: one detection for each member on one side only, and any
number for each pair. -/
def Pairing.report (pairing : Pairing α) (gone come : α → Detection)
    (both : α × α → List Detection) : List Detection :=
  pairing.removed.map gone ++ pairing.added.map come ++ pairing.shared.flatMap both

/-! ## Exchanging the sides -/

variable {name : α → Name} {old new : List α}

theorem nodup_shared (h : (new.map name).Nodup) : (pairByName name old new).shared.Nodup :=
  List.Nodup.of_map Prod.fst (nodup_map_fst_shared h)

/-- With the sides exchanged, the shared pairs are the same ones turned round. -/
theorem shared_swap (hold : (old.map name).Nodup) (hnew : (new.map name).Nodup) :
    (pairByName name new old).shared.Perm ((pairByName name old new).shared.map Prod.swap) := by
  refine (List.perm_ext_iff_of_nodup (nodup_shared hold)
    ((nodup_shared hnew).map Prod.swap_injective)).2 fun pair => ?_
  rw [mem_shared_iff hnew, List.mem_map]
  constructor
  · rintro ⟨hb, ha, hname⟩
    exact ⟨pair.swap, (mem_shared_iff hold).2 ⟨ha, hb, hname.symm⟩, Prod.swap_swap pair⟩
  · rintro ⟨other, ho, rfl⟩
    obtain ⟨ha, hb, hname⟩ := (mem_shared_iff hold).1 ho
    exact ⟨hb, ha, hname.symm⟩

/-! ## Lists that are the same up to order -/

section Reordering

variable {β : Type} {same : α → α → Prop} {old' new' : List α}

theorem SameUpToOrder.filter {p q : α → Bool} (h : SameUpToOrder same old new)
    (hpq : ∀ a b, same a b → p a = q b) : SameUpToOrder same (old.filter p) (new.filter q) := by
  obtain ⟨reordered, hperm, hsame⟩ := h
  refine ⟨_, hperm.filter p, List.rel_filter (fun a b hab => ?_) hsame⟩
  show p a = true ↔ q b = true
  rw [hpq a b hab]

theorem SameUpToOrder.filterMap {r : β → β → Prop} {f g : α → Option β}
    (h : SameUpToOrder same old new) (hfg : ∀ a b, same a b → Option.Rel r (f a) (g b)) :
    SameUpToOrder r (old.filterMap f) (new.filterMap g) := by
  obtain ⟨reordered, hperm, hsame⟩ := h
  exact ⟨_, hperm.filterMap f, List.rel_filterMap (fun a b hab => hfg a b hab) hsame⟩

theorem SameUpToOrder.perm_flatMap {f g : α → List β} (h : SameUpToOrder same old new)
    (hfg : ∀ a b, same a b → (f a).Perm (g b)) : (old.flatMap f).Perm (new.flatMap g) := by
  obtain ⟨reordered, hperm, hsame⟩ := h
  refine (hperm.flatMap_right f).trans ?_
  clear hperm
  induction hsame with
  | nil => exact .nil
  | cons hab _ ih => exact (hfg _ _ hab).append ih

theorem SameUpToOrder.perm_map {f g : α → β} (h : SameUpToOrder same old new)
    (hfg : ∀ a b, same a b → f a = g b) : (old.map f).Perm (new.map g) := by
  rw [List.map_eq_flatMap, List.map_eq_flatMap]
  refine h.perm_flatMap fun a b hab => ?_
  rw [hfg a b hab]

/-- What holds of all members of the first list may be added to the sameness. -/
theorem SameUpToOrder.and_left (h : SameUpToOrder same old new) {p : α → Prop}
    (hp : ∀ a ∈ old, p a) : SameUpToOrder (fun a b => p a ∧ same a b) old new := by
  obtain ⟨reordered, hperm, hsame⟩ := h
  exact ⟨reordered, hperm, (List.forall₂_and_left _ _).2
    ⟨fun a ha => hp a (hperm.mem_iff.2 ha), hsame⟩⟩

theorem SameUpToOrder.exists_of_mem_new (h : SameUpToOrder same old new) {b : α} (hb : b ∈ new) :
    ∃ a ∈ old, same a b := by
  obtain ⟨reordered, hperm, hsame⟩ := h
  obtain ⟨a, ha, hab⟩ := exists_of_mem_of_forall₂ hsame.flip hb
  exact ⟨a, hperm.mem_iff.2 ha, hab⟩

variable (hname : ∀ a b, same a b → name a = name b)
include hname

theorem SameUpToOrder.hasNamed_eq (h : SameUpToOrder same old new) (wanted : Name) :
    hasNamed name old wanted = hasNamed name new wanted := by
  have hany : ∀ members : List α,
      hasNamed name members wanted = (members.map name).any (· == wanted) := fun members => by
    rw [hasNamed, List.any_map]
    rfl
  rw [hany, hany, (h.perm_map hname).any_eq]

/-- The member of a name is the same in two lists that are the same up to order. -/
theorem SameUpToOrder.rel_lastNamed? (h : SameUpToOrder same old new) (hold : (old.map name).Nodup)
    (wanted : Name) :
    Option.Rel same (lastNamed? name old wanted) (lastNamed? name new wanted) := by
  have hnew : (new.map name).Nodup := (h.perm_map hname).nodup_iff.1 hold
  cases hl : lastNamed? name old wanted with
  | none =>
    have hnone : lastNamed? name new wanted = none := by
      rw [← Option.not_isSome_iff_eq_none, isSome_lastNamed?, ← h.hasNamed_eq hname,
        ← isSome_lastNamed?, hl]
      exact Bool.false_ne_true
    rw [hnone]
    exact .none
  | some a =>
    obtain ⟨ha, rfl⟩ := (lastNamed?_eq_some_iff hold).1 hl
    obtain ⟨reordered, hperm, hsame⟩ := h
    obtain ⟨b, hb, hab⟩ := exists_of_mem_of_forall₂ hsame (hperm.mem_iff.1 ha)
    rw [(lastNamed?_eq_some_iff hnew).2 ⟨hb, (hname a b hab).symm⟩]
    exact .some hab

/-- What is reported of two lists of members does not depend on their order, if it does not
depend on the order within them. -/
theorem SameUpToOrder.perm_report (hold : (old.map name).Nodup) (ho : SameUpToOrder same old old')
    (hn : SameUpToOrder same new new') {gone come : α → Detection} {both : α × α → List Detection}
    (hgone : ∀ a b, same a b → gone a = gone b) (hcome : ∀ a b, same a b → come a = come b)
    (hboth : ∀ a a' b b', same a a' → same b b' → (both (a, b)).Perm (both (a', b'))) :
    ((pairByName name old new).report gone come both).Perm
      ((pairByName name old' new').report gone come both) := by
  have hremoved : SameUpToOrder same (pairByName name old new).removed
      (pairByName name old' new').removed := ho.filter fun a b hab => by
    rw [hname a b hab, hn.hasNamed_eq hname]
  have hadded : SameUpToOrder same (pairByName name old new).added
      (pairByName name old' new').added := hn.filter fun a b hab => by
    rw [hname a b hab, ho.hasNamed_eq hname]
  have hshared : SameUpToOrder (fun p q => same p.1 q.1 ∧ same p.2 q.2)
      (pairByName name old new).shared (pairByName name old' new').shared :=
    hn.filterMap fun a b hab => by
      have hpartner := ho.rel_lastNamed? hname hold (name b)
      rw [hname a b hab]
      generalize lastNamed? name old (name b) = oldPartner at hpartner ⊢
      generalize lastNamed? name old' (name b) = newPartner at hpartner ⊢
      cases hpartner with
      | none => exact .none
      | some hsame => exact .some ⟨hsame, hab⟩
  exact ((hremoved.perm_map hgone).append (hadded.perm_map hcome)).append
    (hshared.perm_flatMap fun p q hpq => hboth _ _ _ _ hpq.1 hpq.2)

omit hname

/-- What is reported of two lists of members does not depend on their order. -/
theorem perm_report_of_perm (hold : (old.map name).Nodup) (ho : old.Perm old')
    (hn : new.Perm new') (gone come : α → Detection) (both : α × α → List Detection) :
    ((pairByName name old new).report gone come both).Perm
      ((pairByName name old' new').report gone come both) := by
  refine SameUpToOrder.perm_report (fun a b hab => ?_) hold (sameUpToOrder_eq_iff.2 ho)
    (sameUpToOrder_eq_iff.2 hn) (fun a b hab => ?_) (fun a b hab => ?_) fun a a' b b' ha hb => ?_
  · rw [hab]
  · rw [hab]
  · rw [hab]
  · rw [ha, hb]

end Reordering

/-! ## Definitions as members -/

theorem hasNamed_fst (types : TypeMap) (key : Name) :
    hasNamed Prod.fst types key = Keyed.has types key := by
  rw [Bool.eq_iff_iff, Keyed.has_iff_mem_keys]
  simp [hasNamed, Keyed.keys]

/-- The last definition under a key is the one that is found there. -/
theorem map_snd_lastNamed? {types : TypeMap} (h : (Keyed.keys types).Nodup) (key : Name) :
    (lastNamed? Prod.fst types key).map Prod.snd = Keyed.get? types key := by
  cases hl : lastNamed? Prod.fst types key with
  | none =>
    have hnot : Keyed.has types key = false := by
      rw [← hasNamed_fst, ← isSome_lastNamed?, hl]
      rfl
    refine (Keyed.get?_eq_none_iff.2 fun hmem => ?_).symm
    exact Bool.false_ne_true (hnot.symm.trans (Keyed.has_iff_mem_keys.2 hmem))
  | some entry =>
    obtain ⟨hmem, rfl⟩ := (lastNamed?_eq_some_iff h).1 hl
    exact ((Keyed.get?_eq_some_iff h).2 hmem).symm

/-- Up to order, what is reported of members one after the other is what is reported of those
without a partner, and then of the pairs. -/
theorem flatMap_perm_of_partner {β γ : Type} {partner? : β → Option α} {report : β → List γ}
    {come : β → γ} {both : α × β → List γ} {members : List β}
    (hcome : ∀ b ∈ members, partner? b = none → report b = [come b])
    (hboth : ∀ b ∈ members, ∀ a, partner? b = some a → report b = both (a, b)) :
    (members.flatMap report).Perm
      ((members.filter fun b => (partner? b).isNone).map come
        ++ (members.filterMap fun b => (partner? b).map fun a => (a, b)).flatMap both) := by
  induction members with
  | nil => exact .nil
  | cons b rest ih =>
    obtain ⟨hcomeb, hcomerest⟩ := List.forall_mem_cons.1 hcome
    obtain ⟨hbothb, hbothrest⟩ := List.forall_mem_cons.1 hboth
    have hrest := ih hcomerest hbothrest
    rw [List.flatMap_cons, List.filter_cons, List.filterMap_cons]
    cases hp : partner? b with
    | none =>
      rw [hcomeb hp]
      exact hrest.cons (come b)
    | some a =>
      rw [hbothb a hp]
      exact (hrest.append_left _).trans (List.perm_append_comm_assoc ..)

/-- What is reported of the definitions of two type maps, paired by key. -/
def TypeMap.report (old new : TypeMap) : List Detection :=
  (pairByName Prod.fst old new).report (fun entry => definitionRemoved entry.2.kind entry.2.name)
    (fun entry => definitionAdded entry.2.kind entry.2.name) fun pair => pair.1.2.report pair.2.2

/-- Up to order, the detections are what is reported of the definitions paired by key. -/
theorem Snapshot.detections_perm_report {old new : TypeMap} (hold : old.Intact)
    (hnew : new.Intact) : (Snapshot.ofTypeMaps old new).detections.Perm (old.report new) := by
  have hremoved : (pairByName Prod.fst old new).removed =
      old.filter fun entry => !Keyed.has new entry.1 :=
    List.filter_congr fun entry _ => congrArg _ (hasNamed_fst new entry.1)
  have hadded : (pairByName Prod.fst old new).added =
      new.filter fun entry => (lastNamed? Prod.fst old entry.1).isNone := by
    refine List.filter_congr fun entry _ => ?_
    rw [← isSome_lastNamed?, Option.not_isSome]
  rw [Snapshot.detections_of_intact hold hnew, TypeMap.report, Pairing.report, hremoved, hadded,
    List.append_assoc]
  refine (flatMap_perm_of_partner (fun entry _ hnone => ?_)
    fun entry _ before hsome => ?_).append_left _
  · rw [reportUnder, ← map_snd_lastNamed? hold.nodup, hnone]
    rfl
  · rw [reportUnder, ← map_snd_lastNamed? hold.nodup, hsome]
    rfl

end SchemaDrift
