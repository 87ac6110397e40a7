import SchemaDrift.Proofs.Compare.Evaluation

/-!
# A malformed definition is contained

Whatever is missing from a definition, nothing but its own block is lost.

* `ruleUnder` — the rule for what the two versions hold under one key.
* `Snapshot.evaluate` — all rules evaluated one key after the other, each under the guard that
  skips the key of a rule that breaks off.
* `Snapshot.evaluate_eq` — this never fails, and comes to the detections and skipped keys.
* `Snapshot.blocks_eq` — one block for each key, which depends on nothing but what is held
  under the key.
* `malformed_contained` — the whole of it: blocks in order, all or nothing in each, and no
  block touched by what happens under another key.
-/

namespace SchemaDrift

open Emission

/-! ## Rules under the guard -/

/-- The rule for a definition that is gone. -/
def emitRemoval : Option Draft → Emission
  | none => broken .missingPart
  | some draft => reading (readPart draft.name?) fun name =>
      reports [definitionRemoved draft.kind name]

/-- The rule for a definition that is new. -/
def emitAddition : Option Draft → Emission
  | none => broken .missingPart
  | some draft => reading (readPart draft.name?) fun name =>
      reports [definitionAdded draft.kind name]

/-- The rules for a definition that both versions have. -/
def emitComparison (before : Draft) : Option Draft → Emission
  | none => broken .missingPart
  | some after => before.emission after

/-- The rule for what the two versions hold under one key: nothing, a draft that is missing,
or a draft.  An old draft that is missing counts as nothing at all if there is a new one. -/
def ruleUnder : Option (Option Draft) → Option (Option Draft) → Emission
  | none, none => done
  | some old, none => emitRemoval old
  | some (some before), some new => emitComparison before new
  | some none, some new | none, some new => emitAddition new

/-- What rules have reported, and the keys that were skipped. -/
structure Record where
  detections : List Detection
  skipped : List Name
  deriving DecidableEq, Repr

/-- The record of one rule.  A fault that is contained costs the reports of the rule and is
recorded with its key; any other goes on. -/
def Emission.guard (key : Name) (rule : Emission) : Except Fault Record :=
  match rule.collect with
  | .ok reported => .ok ⟨reported, []⟩
  | .error fault => if fault.isContained then .ok ⟨[], [key]⟩ else .error fault

/-- The record of rules that are evaluated one after the other. -/
def evaluateAll : List (Name × Emission) → Except Fault Record
  | [] => .ok ⟨[], []⟩
  | (key, rule) :: rest => do
    let first ← rule.guard key
    let later ← evaluateAll rest
    return ⟨first.detections ++ later.detections, first.skipped ++ later.skipped⟩

namespace Snapshot

variable (snapshot : Snapshot)

/-- The rules in the order of their evaluation, each with the key it is for. -/
def rules : List (Name × Emission) :=
  ((snapshot.old.filter fun entry => !snapshot.new.has entry.1).map fun entry =>
      (entry.1, emitRemoval entry.2))
    ++ snapshot.new.map fun entry =>
      (entry.1, match (snapshot.old.get? entry.1).join with
        | none => emitAddition entry.2
        | some before => emitComparison before entry.2)

/-- All rules, evaluated one key after the other. -/
def evaluate : Except Fault Record := evaluateAll snapshot.rules

/-- The keys in the order of their blocks: first those that only the old version has, then
those of the new version. -/
def order : List Name :=
  ((Keyed.keys snapshot.old).filter fun key => !snapshot.new.has key) ++ Keyed.keys snapshot.new

/-- The rule for a key. -/
def ruleAt (key : Name) : Emission := ruleUnder (snapshot.old.get? key) (snapshot.new.get? key)

/-- What is reported under a key. -/
def blockAt (key : Name) : List Detection :=
  ((snapshot.blocks.find? fun block => block.key == key).bind Block.detections).getD []

/-- In neither version a key stands twice, as it cannot in a map. -/
structure Unambiguous (snapshot : Snapshot) : Prop where
  old : (Keyed.keys snapshot.old).Nodup
  new : (Keyed.keys snapshot.new).Nodup

end Snapshot

/-! ## No fault goes beyond its rule -/

theorem Draft.toOption_collect_emission (old new : Draft) :
    (old.emission new).collect.toOption = old.compare? new := by
  obtain ⟨out, hanswers, hcompare⟩ := Draft.exists_answers_emission old new
  rw [hcompare]
  cases hl : old.legible new with
  | true =>
    rw [hanswers.complete hl]
    rfl
  | false =>
    obtain ⟨fault, he, -⟩ := hanswers.broken hl
    rw [he]
    rfl

theorem toOption_collect_emitRemoval (draft : Option Draft) :
    (emitRemoval draft).collect.toOption = removalOf draft := by
  cases draft with
  | none => rfl
  | some gone =>
    show (reading (readPart gone.name?) _).collect.toOption = gone.name?.bind _
    cases gone.name? <;> rfl

theorem toOption_collect_emitAddition (draft : Option Draft) :
    (emitAddition draft).collect.toOption = additionOf draft := by
  cases draft with
  | none => rfl
  | some come =>
    show (reading (readPart come.name?) _).collect.toOption = come.name?.bind _
    cases come.name? <;> rfl

theorem toOption_collect_emitComparison (before : Draft) (draft : Option Draft) :
    (emitComparison before draft).collect.toOption = draft.bind before.compare? := by
  cases draft with
  | none => rfl
  | some after => exact before.toOption_collect_emission after

/-- Whatever breaks a rule off is contained. -/
def Emission.Contained (rule : Emission) : Prop := ∃ legible out, rule.Answers legible out

theorem contained_emitRemoval (draft : Option Draft) : (emitRemoval draft).Contained := by
  cases draft with
  | none => exact ⟨false, [], settles_error rfl _⟩
  | some draft =>
    exact ⟨_, _, answers_reading (settles_readPart draft.name?) fun _ => answers_reports _⟩

theorem contained_emitAddition (draft : Option Draft) : (emitAddition draft).Contained := by
  cases draft with
  | none => exact ⟨false, [], settles_error rfl _⟩
  | some draft =>
    exact ⟨_, _, answers_reading (settles_readPart draft.name?) fun _ => answers_reports _⟩

theorem contained_emitComparison (before : Draft) (draft : Option Draft) :
    (emitComparison before draft).Contained := by
  cases draft with
  | none => exact ⟨false, [], settles_error rfl _⟩
  | some after =>
    obtain ⟨out, hanswers, -⟩ := before.exists_answers_emission after
    exact ⟨_, out, hanswers⟩

/-- The guard never lets a contained fault through. -/
theorem Emission.Contained.guard_eq {rule : Emission} (h : rule.Contained) (key : Name) :
    rule.guard key = .ok ⟨rule.collect.toOption.getD [],
      if rule.collect.toOption.isNone then [key] else []⟩ := by
  obtain ⟨legible, out, hanswers⟩ := h
  unfold Emission.guard
  cases legible with
  | true =>
    rw [hanswers.complete rfl]
    rfl
  | false =>
    obtain ⟨fault, he, hcontained⟩ := hanswers.broken rfl
    rw [he]
    simp [hcontained, Except.toOption]

theorem evaluateAll_eq {rules : List (Name × Emission)} (h : ∀ rule ∈ rules, rule.2.Contained) :
    evaluateAll rules = .ok ⟨rules.flatMap fun rule => rule.2.collect.toOption.getD [],
      (rules.filter fun rule => rule.2.collect.toOption.isNone).map Prod.fst⟩ := by
  induction rules with
  | nil => rfl
  | cons rule rest ih =>
    have hfirst := (h rule List.mem_cons_self).guard_eq rule.1
    have hrest := ih fun other ho => h other (List.mem_cons_of_mem rule ho)
    rw [evaluateAll, hfirst, hrest]
    cases hbreaks : rule.2.collect.toOption <;> simp [hbreaks, bind, Except.bind, pure, Except.pure]

namespace Snapshot

variable {snapshot : Snapshot}

theorem contained_rules (snapshot : Snapshot) : ∀ rule ∈ snapshot.rules, rule.2.Contained := by
  intro rule hr
  rw [rules, List.mem_append, List.mem_map, List.mem_map] at hr
  obtain ⟨entry, -, rfl⟩ | ⟨entry, -, rfl⟩ := hr
  · exact contained_emitRemoval entry.2
  · dsimp only
    cases (snapshot.old.get? entry.1).join with
    | none => exact contained_emitAddition entry.2
    | some before => exact contained_emitComparison before entry.2

/-- The blocks are what the rules come to. -/
theorem blocks_eq_map_rules (snapshot : Snapshot) :
    snapshot.blocks = snapshot.rules.map fun rule => ⟨rule.1, rule.2.collect.toOption⟩ := by
  rw [blocks, removalBlocks, rules, List.map_append, List.map_map, List.map_map]
  refine congrArg₂ (· ++ ·) (List.map_congr_left fun entry _ => ?_)
    (List.map_congr_left fun entry _ => ?_)
  · rw [Function.comp_apply, toOption_collect_emitRemoval]
  · rw [Function.comp_apply, newBlock]
    cases (snapshot.old.get? entry.1).join with
    | none => rw [toOption_collect_emitAddition]
    | some before => rw [toOption_collect_emitComparison]

/-- Evaluated one key after the other, the rules never fail, and what they record is what is
detected and what is skipped. -/
theorem evaluate_eq (snapshot : Snapshot) :
    snapshot.evaluate = .ok ⟨snapshot.detections, snapshot.skipped⟩ := by
  rw [evaluate, evaluateAll_eq snapshot.contained_rules, detections, skipped, blocks_eq_map_rules,
    List.flatMap_map, List.filter_map, List.map_map]
  rfl

/-! ## One block for each key -/

/-- The rules are those for the keys, in their order. -/
theorem rules_eq (h : snapshot.Unambiguous) :
    snapshot.rules = snapshot.order.map fun key => (key, snapshot.ruleAt key) := by
  rw [rules, order, List.map_append, Keyed.keys, Keyed.keys, List.filter_map, List.map_map,
    List.map_map]
  refine congrArg₂ (· ++ ·) (List.map_congr_left fun entry he => ?_)
    (List.map_congr_left fun entry he => ?_)
  · obtain ⟨hmem, hnew⟩ := List.mem_filter.1 he
    have hold : snapshot.old.get? entry.1 = some entry.2 :=
      (Keyed.get?_eq_some_iff h.old).2 hmem
    have hnone : snapshot.new.get? entry.1 = none := by
      rw [Keyed.get?_eq_none_iff, ← Keyed.has_iff_mem_keys]
      simpa using hnew
    rw [Function.comp_apply, ruleAt, hold, hnone, ruleUnder]
  · have hnew : snapshot.new.get? entry.1 = some entry.2 :=
      (Keyed.get?_eq_some_iff h.new).2 he
    rw [Function.comp_apply, ruleAt, hnew]
    rcases snapshot.old.get? entry.1 with - | - | before <;> rfl

theorem blocks_eq (h : snapshot.Unambiguous) :
    snapshot.blocks =
      snapshot.order.map fun key => ⟨key, (snapshot.ruleAt key).collect.toOption⟩ := by
  rw [blocks_eq_map_rules, rules_eq h, List.map_map]
  rfl

theorem nodup_order (h : snapshot.Unambiguous) : snapshot.order.Nodup := by
  rw [order, List.nodup_append]
  refine ⟨h.old.filter _, h.new, fun a ha b hb => ?_⟩
  rintro rfl
  have hnot : a ∉ Keyed.keys snapshot.new := by
    rw [← Keyed.has_iff_mem_keys]
    simpa using (List.mem_filter.1 ha).2
  exact hnot hb

theorem mem_order_iff {key : Name} :
    key ∈ snapshot.order ↔ key ∈ Keyed.keys snapshot.old ∨ key ∈ Keyed.keys snapshot.new := by
  rw [order, List.mem_append, List.mem_filter, Bool.not_eq_true', ← Bool.not_eq_true,
    Keyed.has_iff_mem_keys]
  tauto

/-- There is no rule for a key that neither version has. -/
theorem ruleAt_eq_done {key : Name} (h : key ∉ snapshot.order) : snapshot.ruleAt key = done := by
  rw [mem_order_iff, not_or] at h
  rw [ruleAt, Keyed.get?_eq_none_iff.2 h.1, Keyed.get?_eq_none_iff.2 h.2, ruleUnder]

theorem find?_key (keys : List Name) (key : Name) :
    keys.find? (· == key) = if key ∈ keys then some key else none := by
  cases hf : keys.find? (· == key) with
  | none =>
    have hnot : key ∉ keys := fun hk => by simpa using List.find?_eq_none.1 hf key hk
    rw [if_neg hnot]
  | some found =>
    obtain rfl : found = key := by simpa using List.find?_some hf
    rw [if_pos (List.mem_of_find?_eq_some hf)]

/-- What is reported under a key is what its rule comes to. -/
theorem blockAt_eq (h : snapshot.Unambiguous) (key : Name) :
    snapshot.blockAt key = (snapshot.ruleAt key).collect.toOption.getD [] := by
  have hfind := find?_key snapshot.order key
  rw [blockAt, blocks_eq h, List.find?_map]
  by_cases hk : key ∈ snapshot.order
  · rw [if_pos hk] at hfind
    exact congrArg (fun found : Option Name =>
      ((found.map fun key => (⟨key, (snapshot.ruleAt key).collect.toOption⟩ : Block)).bind
        Block.detections).getD []) hfind
  · rw [if_neg hk] at hfind
    rw [ruleAt_eq_done hk]
    exact congrArg (fun found : Option Name =>
      ((found.map fun key => (⟨key, (snapshot.ruleAt key).collect.toOption⟩ : Block)).bind
        Block.detections).getD []) hfind

theorem detections_eq (h : snapshot.Unambiguous) :
    snapshot.detections = snapshot.order.flatMap snapshot.blockAt := by
  rw [detections, blocks_eq h, List.flatMap_map]
  exact List.flatMap_congr fun key _ => (blockAt_eq h key).symm

theorem skipped_eq (h : snapshot.Unambiguous) :
    snapshot.skipped =
      snapshot.order.filter fun key => (snapshot.ruleAt key).collect.toOption.isNone := by
  rw [skipped, blocks_eq h, List.filter_map, List.map_map]
  exact List.map_id _

/-- A key is recorded as skipped once if its rule breaks off, and else not at all. -/
theorem count_skipped (h : snapshot.Unambiguous) (key : Name) :
    snapshot.skipped.count key =
      if (snapshot.ruleAt key).collect.toOption.isNone then 1 else 0 := by
  rw [skipped_eq h]
  by_cases hb : (snapshot.ruleAt key).collect.toOption.isNone = true
  · have hk : key ∈ snapshot.order := by
      by_contra hk
      rw [ruleAt_eq_done hk] at hb
      exact nomatch hb
    rw [if_pos hb]
    exact List.count_eq_one_of_mem ((nodup_order h).filter _) (List.mem_filter.2 ⟨hk, hb⟩)
  · rw [if_neg hb]
    exact List.count_eq_zero.2 fun hm => hb (List.mem_filter.1 hm).2

/-! ## Containment -/

/-- What is reported under each key, and which keys are skipped, is settled key by key. -/
structure Contained (snapshot : Snapshot) : Prop where
  /-- Evaluated one key after the other, the rules never fail, and what they record is what is
  detected and skipped. -/
  evaluates : snapshot.evaluate = .ok ⟨snapshot.detections, snapshot.skipped⟩
  /-- No key has two blocks. -/
  order : snapshot.order.Nodup
  /-- The detections are the blocks of the keys in their order. -/
  detections : snapshot.detections = snapshot.order.flatMap snapshot.blockAt
  /-- The skipped keys stand in the same order. -/
  skipped : snapshot.skipped.Sublist snapshot.order
  /-- A rule that breaks off, whatever it has reported by then, leaves an empty block and
  one record of its key. -/
  broken : ∀ key fault, (snapshot.ruleAt key).collect = .error fault →
    snapshot.blockAt key = [] ∧ snapshot.skipped.count key = 1
  /-- A rule that comes to its end leaves all its reports and no record. -/
  complete : ∀ key reported, (snapshot.ruleAt key).collect = .ok reported →
    snapshot.blockAt key = reported ∧ snapshot.skipped.count key = 0

theorem Unambiguous.contained (h : snapshot.Unambiguous) : snapshot.Contained where
  evaluates := snapshot.evaluate_eq
  order := nodup_order h
  detections := detections_eq h
  skipped := by
    rw [skipped_eq h]
    exact List.filter_sublist
  broken key fault he := by
    rw [blockAt_eq h, count_skipped h, he]
    exact ⟨rfl, rfl⟩
  complete key reported he := by
    rw [blockAt_eq h, count_skipped h, he]
    exact ⟨rfl, rfl⟩

/-- Two snapshots report the same under a key and skip it as often. -/
def AgreeAt (first second : Snapshot) (key : Name) : Prop :=
  first.blockAt key = second.blockAt key ∧ first.skipped.count key = second.skipped.count key

/-- What happens under a key depends only on what is held under it. -/
theorem agreeAt_of_get?_eq {first second : Snapshot} (hfirst : first.Unambiguous)
    (hsecond : second.Unambiguous) {key : Name} (hold : first.old.get? key = second.old.get? key)
    (hnew : first.new.get? key = second.new.get? key) : first.AgreeAt second key := by
  have hrule : first.ruleAt key = second.ruleAt key := by rw [ruleAt, ruleAt, hold, hnew]
  constructor
  · rw [blockAt_eq hfirst, blockAt_eq hsecond, hrule]
  · rw [count_skipped hfirst, count_skipped hsecond, hrule]

/-- The snapshot with another old draft under a key, which may be one that it did not have. -/
def putOld (snapshot : Snapshot) (key : Name) (draft : Option Draft) : Snapshot :=
  { snapshot with old := snapshot.old.put key draft }

/-- The snapshot with another new draft under a key. -/
def putNew (snapshot : Snapshot) (key : Name) (draft : Option Draft) : Snapshot :=
  { snapshot with new := snapshot.new.put key draft }

theorem Unambiguous.putOld (h : snapshot.Unambiguous) (key : Name) (draft : Option Draft) :
    (snapshot.putOld key draft).Unambiguous :=
  ⟨Keyed.nodup_keys_put h.old key draft, h.new⟩

theorem Unambiguous.putNew (h : snapshot.Unambiguous) (key : Name) (draft : Option Draft) :
    (snapshot.putNew key draft).Unambiguous :=
  ⟨h.old, Keyed.nodup_keys_put h.new key draft⟩

theorem agreeAt_putOld (h : snapshot.Unambiguous) {key other : Name} (hne : key ≠ other)
    (draft : Option Draft) : (snapshot.putOld key draft).AgreeAt snapshot other :=
  agreeAt_of_get?_eq (h.putOld key draft) h (Keyed.get?_put_of_ne _ _ hne) rfl

theorem agreeAt_putNew (h : snapshot.Unambiguous) {key other : Name} (hne : key ≠ other)
    (draft : Option Draft) : (snapshot.putNew key draft).AgreeAt snapshot other :=
  agreeAt_of_get?_eq (h.putNew key draft) h rfl (Keyed.get?_put_of_ne _ _ hne)

theorem AgreeAt.trans {first second third : Snapshot} {key : Name}
    (h : first.AgreeAt second key) (h' : second.AgreeAt third key) : first.AgreeAt third key :=
  ⟨h.1.trans h'.1, h.2.trans h'.2⟩

end Snapshot

/-- **A malformed definition is contained.**  Whatever is missing in two versions, each key has
a block of its own, all of it or nothing, and in the second case one record; what happens under
a key depends on nothing but what is held there, and so survives whatever is put under another
key in either version or in both. -/
theorem malformed_contained {snapshot : Snapshot} (h : snapshot.Unambiguous) :
    snapshot.Contained ∧
      (∀ other : Snapshot, other.Unambiguous → ∀ key,
        other.old.get? key = snapshot.old.get? key → other.new.get? key = snapshot.new.get? key →
          other.AgreeAt snapshot key) ∧
      ∀ key other, key ≠ other → ∀ before after : Option Draft,
        (snapshot.putOld key before).AgreeAt snapshot other ∧
          (snapshot.putNew key after).AgreeAt snapshot other ∧
          ((snapshot.putOld key before).putNew key after).AgreeAt snapshot other := by
  refine ⟨h.contained, fun other ho key hold hnew => ?_, fun key other hne before after => ?_⟩
  · exact Snapshot.agreeAt_of_get?_eq ho h hold hnew
  · have hold := Snapshot.agreeAt_putOld h hne before
    have hboth := Snapshot.agreeAt_putNew (h.putOld key before) hne after
    exact ⟨hold, Snapshot.agreeAt_putNew h hne after, hboth.trans hold⟩

/-- Two versions in which parts are missing: a whole definition, the arguments of a field, and
a type under the key of a directive.  Some of what they hold is of none of the known classes:
things with nothing to be read of them, things of one class with a name, and one with a name and
words for its class where there was a scalar. -/
def torn : Snapshot where
  old :=
    [(some "Lost", none),
      (some "Film", some ⟨some "Film", none, .object
        (some [some ⟨some "title", .absent, some [], none, none⟩,
          some ⟨some "year", .named "Int", some [], none, none⟩]) (some [])⟩),
      (some "Back", none),
      (some "@auth", some ⟨some "@auth", none, .scalar none⟩),
      (some "Case", some ⟨some "Case", none, .enum (some [some ⟨some "UPPER", none, none⟩])⟩),
      (some "Gone", some ⟨none, none, .unsupported ⟨"object", false, none⟩⟩),
      (some "Twin", some ⟨some "Twin", none, .unsupported ⟨"Page", true, some "page"⟩⟩),
      (some "Date", some ⟨some "Date", none, .scalar none⟩),
      (some "Time", some ⟨some "Time", none, .scalar none⟩)]
  new :=
    [(some "Film", some ⟨some "Film", some "A film", .object
        (some [some ⟨some "title", .absent, some [], some "In full", none⟩,
          some ⟨some "year", .named "Int", none, none, none⟩]) (some [])⟩),
      (some "Back", some ⟨some "Back", none, .scalar none⟩),
      (some "@auth", some ⟨some "auth", none, .directive (some []) (some []) (some false)⟩),
      (some "Case", some ⟨some "Case", none, .enum (some [some ⟨some "UPPER", none, none⟩,
        some ⟨some "LOWER", none, none⟩])⟩),
      (some "Come", some ⟨none, none, .unsupported ⟨"object", false, none⟩⟩),
      (some "Twin", some ⟨some "Twin", none, .unsupported ⟨"Page", true, some "page"⟩⟩),
      (some "Date", some ⟨none, none, .unsupported ⟨"object", false, none⟩⟩),
      (some "Time", some ⟨some "Time", none, .unsupported ⟨"Page", true, some "page"⟩⟩)]

/-- The rule on the film reports two descriptions before it breaks off. -/
theorem torn_contained :
    torn.Unambiguous ∧
      torn.ruleAt (some "Film") =
        .report ⟨.typeDescriptionAdded, some "Film",
            "Description 'A film' was added to object type 'Film'"⟩
          (.report ⟨.fieldDescriptionAdded, some "Film.title",
            "Field 'Film.title' has description 'In full'"⟩ (.broken .misfit)) ∧
      torn.detections.map (fun d => (d.rule, d.path)) =
        [(.typeAdded, some "Back"), (.enumValueAdded, some "Case.LOWER"),
          (.typeKindChanged, some "Time")] ∧
      torn.skipped = [some "Lost", some "Gone", some "Film", some "@auth", some "Come",
        some "Twin", some "Date"] ∧
      torn.Contained ∧ torn.blockAt (some "Film") = [] ∧
      (torn.putNew (some "Film") none).AgreeAt torn (some "Case") := by
  have h : torn.Unambiguous := ⟨by decide, by decide⟩
  obtain ⟨hcontained, -, hother⟩ := malformed_contained h
  refine ⟨h, rfl, by decide, by decide, hcontained, ?_, ?_⟩
  · exact (hcontained.broken (some "Film") .misfit rfl).1
  · exact (hother (some "Film") (some "Case") (by decide) none none).2.1

end SchemaDrift
