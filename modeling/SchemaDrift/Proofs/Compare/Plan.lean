import SchemaDrift.Proofs.Compare.Meaning
import SchemaDrift.Proofs.Compare.Members

/-!
# Plans of reports

A plan says which detections belong at which positions.  A position is a list of
numbers: that of a part in the whole, that of a smaller part in this one, and so on.
Positions are ordered like the words of a dictionary, so what belongs to one part stands
together.

* `Plan.entry`, `Plan.quoting`, `Plan.given`, `Plan.whenever`, `Plan.parts`, `Plan.each` —
  plans, and how they are put together.
* `Plan.FilledBy` — a list of detections fills a plan: one at each position to which
  any belongs, in the order of the positions.
* `Plan.filledBy_parts_cons`, `Plan.filledBy_each` — lists that fill the parts, one after
  the other, fill the whole.
* `Plan.FilledBy.part` — what belongs to one part of a plan stands together in every
  list that fills it, and fills that part.
-/

namespace SchemaDrift

/-- Where a detection stands: the number of the part it is in, then the number of the part
of this part, and so on. -/
abbrev Position := List Nat

/-- Which detections belong at which positions. -/
abbrev Plan := Position → Detection → Prop

namespace Plan

variable {α : Type}

/-! ## Putting plans together -/

/-- One detection, under the rule and with the path. -/
def entry (rule : Rule) (path : Option String) : Plan := fun position d =>
  position = [] ∧ d.rule = rule ∧ d.path = path

/-- One detection, under the rule and with the path, whose message quotes the name. -/
def quoting (rule : Rule) (path : Option String) (name : Name) : Plan := fun position d =>
  entry rule path position d ∧ Quotes d.message name

/-- The plan, if the condition holds. -/
def given (condition : Prop) (plan : Plan) : Plan := fun position d =>
  condition ∧ plan position d

/-- The plan of a value with the property. -/
def whenever (p : α → Prop) (plan : α → Plan) : Plan := fun position d =>
  ∃ value, p value ∧ plan value position d

/-- One plan after the other. -/
def parts (plans : List Plan) : Plan
  | [], _ => False
  | number :: below, d => ∃ plan, plans[number]? = some plan ∧ plan below d

/-- The plans of the members of a list, one after the other. -/
def each (members : List α) (plan : α → Plan) : Plan := parts (members.map plan)

/-- What belongs to one part of a plan, by its positions in that part. -/
def below (plan : Plan) (part : Position) : Plan := fun position d => plan (part ++ position) d

/-- The detections stand in the order of their positions, one at each position to which any
belongs. -/
def FilledBy (plan : Plan) (detections : List Detection) : Prop :=
  ∃ positions : List Position, positions.Pairwise (· < ·) ∧
    List.Forall₂ plan positions detections ∧
    ∀ position d, plan position d → position ∈ positions

variable {plan : Plan} {detections : List Detection}

/-! ## Single detections -/

theorem filledBy_nil (h : ∀ position d, ¬plan position d) : plan.FilledBy [] :=
  ⟨[], .nil, .nil, fun position d hd => absurd hd (h position d)⟩

theorem filledBy_singleton {d : Detection} (hd : plan [] d)
    (honly : ∀ position e, plan position e → position = []) : plan.FilledBy [d] :=
  ⟨[[]], List.pairwise_singleton .., .cons hd .nil,
    fun position e he => List.mem_singleton.2 (honly position e he)⟩

theorem filledBy_entry {rule : Rule} {path : Option String} {d : Detection} (hrule : d.rule = rule)
    (hpath : d.path = path) : (entry rule path).FilledBy [d] :=
  filledBy_singleton ⟨rfl, hrule, hpath⟩ fun _ _ he => he.1

theorem filledBy_quoting {rule : Rule} {path : Option String} {name : Name} {d : Detection}
    (hrule : d.rule = rule) (hpath : d.path = path) (hname : Quotes d.message name) :
    (quoting rule path name).FilledBy [d] :=
  filledBy_singleton ⟨⟨rfl, hrule, hpath⟩, hname⟩ fun _ _ he => he.1.1

/-! ## Conditions -/

theorem filledBy_given_of_true {condition : Prop} (hc : condition) (h : plan.FilledBy detections) :
    (given condition plan).FilledBy detections := by
  obtain ⟨positions, hsorted, hfits, hall⟩ := h
  exact ⟨positions, hsorted, hfits.imp fun _ _ hd => ⟨hc, hd⟩,
    fun position d hd => hall position d hd.2⟩

theorem filledBy_given_of_false {condition : Prop} (hc : ¬condition) :
    (given condition plan).FilledBy [] :=
  filledBy_nil fun _ _ hd => hc hd.1

theorem filledBy_given {condition : Prop} [Decidable condition]
    (h : condition → plan.FilledBy detections) :
    (given condition plan).FilledBy (if condition then detections else []) := by
  by_cases hc : condition
  · rw [if_pos hc]
    exact filledBy_given_of_true hc (h hc)
  · rw [if_neg hc]
    exact filledBy_given_of_false hc

/-- If a single value has the property, its plan is the one to fill. -/
theorem filledBy_whenever {p : α → Prop} {plan : α → Plan} {value : α} (hp : p value)
    (honly : ∀ other, p other → other = value) (h : (plan value).FilledBy detections) :
    (whenever p plan).FilledBy detections := by
  obtain ⟨positions, hsorted, hfits, hall⟩ := h
  refine ⟨positions, hsorted, hfits.imp fun _ _ hd => ⟨value, hp, hd⟩, ?_⟩
  rintro position d ⟨other, ho, hd⟩
  rw [honly other ho] at hd
  exact hall position d hd

theorem filledBy_whenever_some {plan : α → Plan} {value : α}
    (h : (plan value).FilledBy detections) :
    (whenever (some value = some ·) plan).FilledBy detections :=
  filledBy_whenever rfl (fun _ ho => (Option.some.inj ho).symm) h

theorem filledBy_whenever_none {plan : α → Plan} :
    (whenever ((none : Option α) = some ·) plan).FilledBy [] :=
  filledBy_nil fun _ _ ⟨_, hv, _⟩ => nomatch hv

/-! ## Parts -/

/-- The same position when one part is put before all others. -/
def shift : Position → Position
  | [] => []
  | number :: below => (number + 1) :: below

theorem shift_lt_shift {a b : Position} (h : a < b) : shift a < shift b := by
  cases b with
  | nil => exact absurd h (List.not_lt_nil a)
  | cons j b =>
    cases a with
    | nil => exact List.nil_lt_cons ..
    | cons i a =>
      refine List.cons_lt_cons_iff.2 ?_
      rcases List.cons_lt_cons_iff.1 h with hlt | ⟨rfl, hlt⟩
      · exact .inl (Nat.succ_lt_succ hlt)
      · exact .inr ⟨rfl, hlt⟩

section Cons

variable {first : Plan} {rest : List Plan} {position : Position} {d : Detection}

theorem parts_cons_shift : parts (first :: rest) (shift position) d ↔ parts rest position d := by
  cases position <;> rfl

theorem parts_cons_iff :
    parts (first :: rest) position d ↔
      (∃ below, position = 0 :: below ∧ first below d) ∨
        ∃ other, position = shift other ∧ parts rest other d := by
  constructor
  · intro h
    cases position with
    | nil => exact h.elim
    | cons number below =>
      cases number with
      | zero =>
        obtain ⟨plan, hfirst, hd⟩ := h
        exact .inl ⟨below, rfl, Option.some.inj hfirst ▸ hd⟩
      | succ number => exact .inr ⟨number :: below, rfl, h⟩
  · rintro (⟨below, rfl, hd⟩ | ⟨other, rfl, hd⟩)
    · exact ⟨first, rfl, hd⟩
    · exact parts_cons_shift.2 hd

/-- What fills the first part and what fills the others fill the whole together. -/
theorem filledBy_parts_cons {front back : List Detection} (hfront : first.FilledBy front)
    (hback : (parts rest).FilledBy back) : (parts (first :: rest)).FilledBy (front ++ back) := by
  obtain ⟨fronts, hfsorted, hffits, hfall⟩ := hfront
  obtain ⟨backs, hbsorted, hbfits, hball⟩ := hback
  have hcross : ∀ a ∈ fronts.map (0 :: ·), ∀ b ∈ backs.map shift, a < b := by
    refine List.forall_mem_map.2 fun a _ => List.forall_mem_map.2 fun b hb => ?_
    obtain ⟨d, -, hd⟩ := exists_of_mem_of_forall₂ hbfits hb
    cases b with
    | nil => exact hd.elim
    | cons number below => exact List.cons_lt_cons_iff.2 (.inl (Nat.succ_pos number))
  refine ⟨fronts.map (0 :: ·) ++ backs.map shift, ?_, ?_, ?_⟩
  · refine List.pairwise_append.2 ⟨?_, hbsorted.map _ fun _ _ => shift_lt_shift, hcross⟩
    exact hfsorted.map _ fun _ _ h => List.cons_lt_cons_iff.2 (.inr ⟨rfl, h⟩)
  · refine List.rel_append (List.forall₂_map_left_iff.2 ?_) (List.forall₂_map_left_iff.2 ?_)
    · exact hffits.imp fun position d hd => ⟨first, rfl, hd⟩
    · exact hbfits.imp fun position d hd => parts_cons_shift.2 hd
  · intro position d hd
    rcases parts_cons_iff.1 hd with ⟨below, rfl, hf⟩ | ⟨other, rfl, hr⟩
    · exact List.mem_append_left _ (List.mem_map_of_mem (hfall below d hf))
    · exact List.mem_append_right _ (List.mem_map_of_mem (hball other d hr))

end Cons

theorem filledBy_parts_nil : (parts []).FilledBy [] :=
  filledBy_nil fun position _ hd => by cases position <;> simp [parts] at hd

theorem filledBy_parts_singleton (h : plan.FilledBy detections) :
    (parts [plan]).FilledBy detections := by
  simpa using filledBy_parts_cons h filledBy_parts_nil

/-- What fills the plans of the members, one after the other, fills the whole. -/
theorem filledBy_each {members : List α} {plan : α → Plan} {report : α → List Detection}
    (h : ∀ member ∈ members, (plan member).FilledBy (report member)) :
    (each members plan).FilledBy (members.flatMap report) := by
  induction members with
  | nil => exact filledBy_parts_nil
  | cons member rest ih =>
    obtain ⟨hmember, hrest⟩ := List.forall_mem_cons.1 h
    exact filledBy_parts_cons hmember (ih hrest)

/-! ## One part of a plan -/

/-- What is between two positions in a part is in that part. -/
theorem prefix_of_between {part a b c : Position} (ha : part <+: a) (hc : part <+: c) (hab : a < b)
    (hbc : b < c) : part <+: b := by
  obtain ⟨a, rfl⟩ := ha
  obtain ⟨c, rfl⟩ := hc
  induction part generalizing b with
  | nil => exact List.nil_prefix
  | cons number part ih =>
    cases b with
    | nil => exact absurd hab (List.not_lt_nil _)
    | cons other b =>
      rw [List.cons_append, List.cons_lt_cons_iff] at hab hbc
      obtain rfl : number = other := by omega
      have hab' : part ++ a < b := by simpa using hab
      have hbc' : b < part ++ c := by simpa using hbc
      exact (List.prefix_cons_inj number).2 (ih hab' hbc')

theorem lt_of_append_lt_append {part a b : Position} (h : part ++ a < part ++ b) : a < b := by
  induction part with
  | nil => exact h
  | cons number part ih => exact ih (by simpa using h)

/-- In a sorted list, the positions in a part stand together. -/
theorem exists_positions_eq_append (part : Position) {positions : List Position}
    (hsorted : positions.Pairwise (· < ·)) :
    ∃ before block after : List Position,
      positions = before ++ block.map (part ++ ·) ++ after ∧
      ∀ position ∈ before ++ after, ¬part <+: position := by
  induction positions with
  | nil => exact ⟨[], [], [], rfl, fun _ hp => absurd hp List.not_mem_nil⟩
  | cons position rest ih =>
    obtain ⟨hfirst, hrest⟩ := List.pairwise_cons.1 hsorted
    obtain ⟨before, block, after, rfl, hout⟩ := ih hrest
    by_cases hin : part <+: position
    · obtain ⟨below, rfl⟩ := hin
      cases block with
      | nil => exact ⟨[], [below], before ++ after, by simp, hout⟩
      | cons next block =>
        -- a position before the next one of the part is between two positions in the part
        have hbefore : before = [] := by
          cases before with
          | nil => rfl
          | cons other before =>
            have hlt : other < part ++ next := by
              simp only [List.cons_append, List.append_assoc, List.pairwise_cons] at hrest
              exact hrest.1 _ (by simp)
            have hother := hfirst other (by simp)
            exact absurd (prefix_of_between (List.prefix_append ..) (List.prefix_append ..)
              hother hlt) (hout other (by simp))
        exact ⟨[], below :: next :: block, after, by simp [hbefore], hbefore ▸ hout⟩
    · refine ⟨position :: before, block, after, rfl, ?_⟩
      exact List.forall_mem_cons.2 ⟨hin, hout⟩

theorem exists_append_of_forall₂ {β : Type} {fits : α → β → Prop} {front back : List α}
    {whole : List β} (h : List.Forall₂ fits (front ++ back) whole) :
    ∃ first last, whole = first ++ last ∧ List.Forall₂ fits front first ∧
      List.Forall₂ fits back last := by
  refine ⟨_, _, (List.take_append_drop front.length whole).symm, ?_, ?_⟩
  · simpa using List.forall₂_take front.length h
  · simpa using List.forall₂_drop front.length h

/-- What belongs to one part stands together, and fills that part. -/
theorem FilledBy.part (h : plan.FilledBy detections) (part : Position) :
    ∃ before block after, detections = before ++ block ++ after ∧
      (plan.below part).FilledBy block := by
  obtain ⟨positions, hsorted, hfits, hall⟩ := h
  obtain ⟨before, block, after, rfl, hout⟩ := exists_positions_eq_append part hsorted
  obtain ⟨front, last, rfl, hfront, -⟩ := exists_append_of_forall₂ hfits
  obtain ⟨first, middle, rfl, -, hmiddle⟩ := exists_append_of_forall₂ hfront
  rw [List.forall₂_map_left_iff] at hmiddle
  refine ⟨first, middle, last, rfl, block, ?_, hmiddle, ?_⟩
  · have hblock := (List.pairwise_append.1 (List.pairwise_append.1 hsorted).1).2.1
    exact (List.pairwise_map.1 hblock).imp lt_of_append_lt_append
  · intro position d hd
    have hmem := hall _ d hd
    rw [List.append_assoc, List.mem_append, List.mem_append] at hmem
    rcases hmem with hb | hm | ha
    · exact absurd (List.prefix_append ..) (hout _ (List.mem_append_left _ hb))
    · obtain ⟨below, hbelow, he⟩ := List.mem_map.1 hm
      exact List.append_cancel_left he ▸ hbelow
    · exact absurd (List.prefix_append ..) (hout _ (List.mem_append_right _ ha))

end Plan

end SchemaDrift
