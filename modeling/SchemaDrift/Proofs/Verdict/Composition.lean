import Mathlib.Data.List.Chain
import SchemaDrift.Proofs.Verdict.Compatibility

/-!
# Compatibility composes over releases

If each release is compatible with the one before it, then the last is compatible with
the first.

* `InputsKept.trans`, `Body.CompatibleWith.trans`, `TypeMap.Compatible.trans` — what is
  kept in two steps is kept.
* `TypeMap.Compatible.of_chain` — what is kept in each step of a chain is kept from its
  first version to its last.
* `passes_composes` — the same of comparisons that succeed, whether or not dangerous
  changes may pass.
-/

namespace SchemaDrift

variable {strict : Bool}

/-! ## Nothing is lost where nothing changes -/

theorem InputsKept.refl {fixed guarded : Bool} (inputs : List InputValue) :
    InputsKept fixed guarded inputs inputs where
  kept a ha := ⟨a, ha, rfl, .refl _, fun _ => rfl⟩
  required _ b hb hrequired := ⟨b, hb, rfl, hrequired⟩

theorem Field.KeptAs.refl (field : Field) : field.KeptAs strict field := ⟨rfl, .refl _⟩

theorem Body.CompatibleWith.refl (body : Body) : body.CompatibleWith strict body := by
  cases body with
  | object fields interfaces | interface fields interfaces =>
    exact ⟨fun a ha => ⟨a, ha, rfl, Field.KeptAs.refl a⟩, List.Subset.refl _⟩
  | union members => exact List.Subset.refl members
  | enum values => exact List.Subset.refl _
  | input fields => exact InputsKept.refl fields
  | scalar specifiedBy => exact trivial
  | directive locations args repeatable =>
    exact ⟨List.Subset.refl locations, InputsKept.refl args, id⟩

theorem TypeMap.Compatible.refl (types : TypeMap) : types.Compatible strict types :=
  fun _ a ha => ⟨a, ha, Body.CompatibleWith.refl _⟩

/-! ## What is kept in two steps -/

/-- A value that is required in the end was required in between, and so from the start. -/
theorem InputsKept.trans {fixed guarded : Bool} {a b c : List InputValue}
    (hab : InputsKept fixed guarded a b) (hbc : InputsKept fixed guarded b c) :
    InputsKept fixed guarded a c where
  kept := by
    refine Kept.trans (fun x y z => ?_) hab.kept hbc.kept
    rintro ⟨htype, hdefault⟩ ⟨htype', hdefault'⟩
    exact ⟨htype.trans htype', fun hfixed => (hdefault hfixed).trans (hdefault' hfixed)⟩
  required hguarded z hz hrequired := by
    obtain ⟨y, hy, hyz, hrequired'⟩ := hbc.required hguarded z hz hrequired
    obtain ⟨x, hx, hxy, hrequired''⟩ := hab.required hguarded y hy hrequired'
    exact ⟨x, hx, hxy.trans hyz, hrequired''⟩

theorem Field.KeptAs.trans {a b c : Field} (hab : a.KeptAs strict b) (hbc : b.KeptAs strict c) :
    a.KeptAs strict c :=
  ⟨hab.type.trans hbc.type, hab.args.trans hbc.args⟩

theorem Body.CompatibleWith.trans {a b c : Body} (hab : a.CompatibleWith strict b)
    (hbc : b.CompatibleWith strict c) : a.CompatibleWith strict c := by
  -- all three are of one class
  cases Body.sameClass_of_kind_eq hab.kind_eq with
  | object | interface =>
    cases Body.sameClass_of_kind_eq hbc.kind_eq
    obtain ⟨hfields, hinterfaces⟩ := hab
    obtain ⟨hfields', hinterfaces'⟩ := hbc
    refine ⟨Kept.trans ?_ hfields hfields', List.Subset.trans hinterfaces hinterfaces'⟩
    exact fun _ _ _ => Field.KeptAs.trans
  | union =>
    cases Body.sameClass_of_kind_eq hbc.kind_eq
    exact List.Subset.trans hab hbc
  | enum =>
    cases Body.sameClass_of_kind_eq hbc.kind_eq
    exact List.Subset.trans hab hbc
  | input =>
    cases Body.sameClass_of_kind_eq hbc.kind_eq
    exact InputsKept.trans hab hbc
  | scalar =>
    cases Body.sameClass_of_kind_eq hbc.kind_eq
    exact trivial
  | directive =>
    cases Body.sameClass_of_kind_eq hbc.kind_eq
    obtain ⟨hlocations, hargs, hrepeatable⟩ := hab
    obtain ⟨hlocations', hargs', hrepeatable'⟩ := hbc
    exact ⟨List.Subset.trans hlocations hlocations', hargs.trans hargs', hrepeatable' ∘ hrepeatable⟩

theorem TypeMap.Compatible.trans {a b c : TypeMap} (hab : a.Compatible strict b)
    (hbc : b.Compatible strict c) : a.Compatible strict c := by
  intro key x hx
  obtain ⟨y, hy, hxy⟩ := hab key x hx
  obtain ⟨z, hz, hyz⟩ := hbc key y hy
  exact ⟨z, hz, hxy.trans hyz⟩

/-- What is kept in each step of a chain of versions is kept from the first to the last. -/
theorem TypeMap.Compatible.of_chain {first : TypeMap} {rest : List TypeMap}
    (h : List.IsChain (TypeMap.Compatible strict) (first :: rest)) :
    first.Compatible strict ((first :: rest).getLast (List.cons_ne_nil first rest)) := by
  induction rest generalizing first with
  | nil => exact TypeMap.Compatible.refl first
  | cons next rest ih =>
    obtain ⟨hstep, hrest⟩ := List.isChain_cons_cons.1 h
    rw [List.getLast_cons (List.cons_ne_nil next rest)]
    exact hstep.trans (ih hrest)

/-! ## Comparisons that succeed -/

/-- The comparison of two versions comes to a result, and its verdict is success. -/
def Policy.Passes (policy : Policy) (sources : Sources) (label : Datum) (old new : TypeMap) :
    Prop :=
  ∃ comparison, policy.diff sources (Snapshot.ofTypeMaps old new) label = some comparison ∧
    comparison.result.conclusion = .success

/-- Some comparison of two versions that asks no interceptor passes. -/
def PassesUnasked (strict : Bool) (old new : TypeMap) : Prop :=
  ∃ seconds sources label, (⟨strict, none, seconds⟩ : Policy).Passes sources label old new

/-- Without an interceptor a comparison passes exactly if the versions are compatible. -/
theorem passes_iff_compatible {old new : TypeMap} (hold : old.Regular) (hnew : new.Regular)
    {seconds : Double} {sources : Sources} {label : Datum} :
    (⟨strict, none, seconds⟩ : Policy).Passes sources label old new ↔
      old.Compatible strict new := by
  obtain ⟨comparison, hdiff, hconclusion⟩ := Policy.diff_of_no_interceptor strict seconds
    sources (Snapshot.ofTypeMaps old new) label
  rw [← noneFails_detections_iff hold hnew, ← conclude_changes_eq_success_iff, ← hconclusion]
  constructor
  · rintro ⟨other, hother, hsuccess⟩
    rw [hdiff] at hother
    rwa [Option.some.inj hother]
  · intro hsuccess
    exact ⟨comparison, hdiff, hsuccess⟩

theorem PassesUnasked.compatible {old new : TypeMap} (hold : old.Regular) (hnew : new.Regular)
    (h : PassesUnasked strict old new) : old.Compatible strict new := by
  obtain ⟨seconds, sources, label, hpasses⟩ := h
  exact (passes_iff_compatible hold hnew).1 hpasses

/-- **Compatibility composes over releases.**  If the comparisons of a first version with
a second and of the second with a third pass, then that of the first with the third
passes.  So in a chain of versions of any length, if each passes against the one before it,
then the last passes against the first. -/
theorem passes_composes (strict : Bool) (seconds : Double) (sources : Sources) (label : Datum) :
    (∀ a b c : TypeMap, a.Regular → b.Regular → c.Regular →
      PassesUnasked strict a b → PassesUnasked strict b c →
        (⟨strict, none, seconds⟩ : Policy).Passes sources label a c) ∧
    ∀ (first : TypeMap) (rest : List TypeMap), (∀ version ∈ first :: rest, version.Regular) →
      List.IsChain (PassesUnasked strict) (first :: rest) →
        (⟨strict, none, seconds⟩ : Policy).Passes sources label first
          ((first :: rest).getLast (List.cons_ne_nil first rest)) := by
  constructor
  · intro a b c ha hb hc hab hbc
    exact (passes_iff_compatible ha hc).2 ((hab.compatible ha hb).trans (hbc.compatible hb hc))
  · intro first rest hregular hchain
    refine (passes_iff_compatible (hregular _ List.mem_cons_self)
      (hregular _ (List.getLast_mem _))).2 ?_
    refine TypeMap.Compatible.of_chain (hchain.imp_of_mem_imp fun a b ha hb hab => ?_)
    exact hab.compatible (hregular a ha) (hregular b hb)

/-- The version after the next: another value in the input type, a default is gone. -/
def ordersLast : TypeMap := .ofDefinitions
  [⟨some "Filter", none, .input [⟨some "total", .named "Int", none, none⟩,
      ⟨some "state", .named "State", none, none⟩]⟩,
    ⟨some "Query", none, .object
      [⟨some "orders", .list (.named "Order"),
        [⟨some "after", .named "ID", none, none⟩,
          ⟨some "first", .named "Int", none, none⟩], none, none⟩]
      [some "Node", some "Root"]⟩,
    ⟨some "cached", none, .directive [some "QUERY", some "FIELD"] [] (some true)⟩]

theorem orders_passes_last :
    (∀ version ∈ [orders, ordersNext, ordersLast], version.Regular) ∧
      List.IsChain (PassesUnasked false) [orders, ordersNext, ordersLast] ∧
      (⟨false, none, .ofInt 10⟩ : Policy).Passes ⟨none, none⟩ .nothing orders ordersLast := by
  have hregular : ∀ version ∈ [orders, ordersNext, ordersLast], version.Regular := by decide
  have hchain : List.IsChain (PassesUnasked false) [orders, ordersNext, ordersLast] := by
    refine List.isChain_cons_cons.2 ⟨?_, List.isChain_cons_cons.2 ⟨?_, .singleton _⟩⟩
    · exact ⟨.ofInt 10, ⟨none, none⟩, .nothing, _, rfl, by decide⟩
    · exact ⟨.ofInt 10, ⟨none, none⟩, .nothing, _, rfl, by decide⟩
  exact ⟨hregular, hchain, (passes_composes false (.ofInt 10) ⟨none, none⟩ .nothing).2
    orders [ordersNext, ordersLast] hregular hchain⟩

end SchemaDrift
