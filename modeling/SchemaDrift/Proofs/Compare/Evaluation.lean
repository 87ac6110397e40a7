import SchemaDrift.Compare.Detect
import SchemaDrift.Proofs.Compare.Members

/-!
# Rules step by step

A rule reads two drafts part by part and reports what it finds on the way.  Where it reads
a part that is missing it breaks off, and by then it may have reported something.

* `Fault` — what breaks a rule off; `Fault.isContained` tells the faults that are made up for.
* `Emission` — a rule as it is evaluated, one report after the other.
* `Emission.collect` — all its reports, or the fault that broke it off.
* `Draft.emission` — the rules on two drafts, each part read where the rule gets to it.
* `Emission.Answers` — what an evaluation comes to, put together from its steps.
* `Draft.collect_emission` — evaluated step by step, the rules on two drafts come to what
  `Draft.compare?` says at once.
-/

namespace SchemaDrift

/-! ## Evaluation -/

/-- What breaks a rule off. -/
inductive Fault where
  /-- A part was read of something that is missing. -/
  | missingPart
  /-- A key was read that is not there. -/
  | missingKey
  /-- A missing list was gone through, or definitions were compared for which there is no
  rule. -/
  | misfit
  /-- A value was out of range. -/
  | badValue
  /-- Anything else. -/
  | other
  deriving DecidableEq, Repr

/-- Is the fault one that costs no more than the definition in which it arises? -/
def Fault.isContained : Fault → Bool
  | missingPart | missingKey | misfit | badValue => true
  | other => false

/-- A rule as it is evaluated: it comes to its end, breaks off, or reports something and
goes on. -/
inductive Emission where
  | done
  | broken (fault : Fault)
  | report (detection : Detection) (rest : Emission)
  deriving Repr

namespace Emission

/-- One evaluation, and then another if the first comes to its end. -/
def append : Emission → Emission → Emission
  | done, next => next
  | broken fault, _ => broken fault
  | report detection rest, next => report detection (rest.append next)

instance : Append Emission := ⟨append⟩

/-- Reports of which none can fail. -/
def reports : List Detection → Emission
  | [] => done
  | detection :: rest => report detection (reports rest)

/-- What is done with a part once it is read. -/
def reading {α : Type} (part : Except Fault α) (next : α → Emission) : Emission :=
  match part with
  | .ok value => next value
  | .error fault => broken fault

/-- The evaluations for the members of a list, one after the other. -/
def each {α : Type} (members : List α) (rule : α → Emission) : Emission :=
  match members with
  | [] => done
  | member :: rest => rule member ++ each rest rule

/-- All reports, if the evaluation comes to its end; else what broke it off, and none of the
reports made by then. -/
def collect : Emission → Except Fault (List Detection)
  | done => .ok []
  | broken fault => .error fault
  | report detection rest => rest.collect.map (detection :: ·)

end Emission

/-! ## Reading parts -/

/-- The members of a list that are all read. -/
def readMembers {α : Type} : List (Option α) → Except Fault (List α)
  | [] => .ok []
  | none :: _ => .error .missingPart
  | some member :: rest => (readMembers rest).map (member :: ·)

/-- The members of a list, which must be there to go through it. -/
def Holey.read {α : Type} : Holey α → Except Fault (List α)
  | none => .error .misfit
  | some members => readMembers members

/-- A part that may be missing. -/
def readPart {α : Type} : Option α → Except Fault α
  | none => .error .missingPart
  | some part => .ok part

/-- A list of names, any of which may be missing. -/
def readNames : Option (List Name) → Except Fault (List Name)
  | none => .error .misfit
  | some names => .ok names

/-- How a reference changes.  Only of two that differ is any part read. -/
def readChange (old new : TypeRef) : Except Fault (Option TypeChange) :=
  if old = new then .ok none
  else if old = .absent then .error .missingPart
  else if new = .absent then .error .missingPart
  else .ok (TypeChange.between old new)

/-- Must the value be given?  This depends on its type. -/
def InputValue.readRequired (value : InputValue) : Except Fault Bool :=
  if value.type = .absent then .error .missingPart else .ok value.isRequired

/-- Does a value turn required?  The new value is read only if the old one was not. -/
def readBecomesRequired (old new : InputValue) (change : Option TypeChange) :
    Except Fault Bool :=
  match old.readRequired with
  | .error fault => .error fault
  | .ok true => .ok false
  | .ok false =>
      match new.readRequired with
      | .error fault => .error fault
      | .ok required => .ok (required && (change == none || change == some .loosened))

/-! ## The rules -/

section Rules

open Emission

/-- The rules on two values of one name.  The change of type is reported before it is read
whether the value is required. -/
def emitInput (both : InputValue → InputValue → List Detection) (old new : InputValue) :
    Emission :=
  reading (readChange old.type new.type) fun change =>
    reports ((both old new).take change.toList.length)
      ++ reading (readBecomesRequired old new change) fun _ =>
        reports ((both old new).drop change.toList.length)

/-- The rules on two lists of arguments or of input fields. -/
def emitInputs (gone come : InputValue → Detection)
    (both : InputValue → InputValue → List Detection) (old new : Holey InputValue) : Emission :=
  reading old.read fun olds => reading new.read fun news =>
    let pairing := pairByName InputValue.name olds news
    reports (pairing.removed.map gone)
      ++ each pairing.added (fun value => reading value.readRequired fun _ => reports [come value])
      ++ each pairing.shared fun pair => emitInput both pair.1 pair.2

/-- The rules on the arguments of an owner. -/
def Owner.emission (owner : Owner) (old new : Holey InputValue) : Emission :=
  emitInputs owner.argumentRemoved owner.argumentAdded owner.compareArgument old new

/-- A field without its arguments. -/
def DraftField.own (field : DraftField) : Field := { field.settle with args := [] }

/-- The rules on two fields of one name: those on the fields themselves, then those on
their arguments. -/
def DraftField.emission (typeName : Name) (old new : DraftField) : Emission :=
  let path := new.name.within typeName.text
  reading (readChange old.type new.type) fun _ =>
    reports (compareField typeName old.own new.own)
      ++ Owner.emission ⟨"field '" ++ path ++ "'", path⟩ old.args new.args

/-- A field that is gone. -/
def fieldRemoved (typeName : Name) (label : String) (name : Name) : Detection where
  rule := .fieldRemoved
  path := name.within typeName.text
  message := "Field '" ++ name.text ++ "' was removed from " ++ label

/-- A field that is new. -/
def fieldAdded (typeName : Name) (label : String) (name : Name) : Detection where
  rule := .fieldAdded
  path := name.within typeName.text
  message := "Field '" ++ name.text ++ "' was added to " ++ label

/-- The rules on two lists of fields. -/
def emitFields (typeName : Name) (label : String) (old new : Holey DraftField) : Emission :=
  reading old.read fun olds => reading new.read fun news =>
    let pairing := pairByName DraftField.name olds news
    reports (pairing.removed.map fun field => fieldRemoved typeName label field.name)
      ++ reports (pairing.added.map fun field => fieldAdded typeName label field.name)
      ++ each pairing.shared fun pair => pair.1.emission typeName pair.2

/-- An input field that is gone. -/
def inputFieldRemoved (typeName : Name) (label : String) (value : InputValue) : Detection where
  rule := .inputFieldRemoved
  path := value.name.within typeName.text
  message := "Input field '" ++ value.name.text ++ "' was removed from " ++ label

/-- The rules on two lists of names, of which the new one is read first. -/
def emitNames (both : List Name → List Name → List Detection) (old new : Option (List Name)) :
    Emission :=
  reading (readNames new) fun news => reading (readNames old) fun olds => reports (both olds news)

namespace Draft

/-- The words for the class of a draft, which are there if it is a known class. -/
def words (draft : Draft) : String := draft.label?.getD ""

/-- The words for a draft of a known class in messages. -/
def label (draft : Draft) : String := draft.words ++ " '" ++ draft.name.text ++ "'"

/-- The rule on the description of a type. -/
def emitDescription (old new : Draft) : Emission :=
  reports ((textChange old.description new.description).toList.map
    (typeDescription new.name new.label))

/-- The rule on two drafts of different classes.  The name is read also for the complaint about
a directive and a type under one key. -/
def emitKindChange (old new : Draft) : Emission :=
  reading (readPart new.name?) fun name =>
    if old.kind = .directive ∨ new.kind = .directive then broken .misfit
    else reading (readPart old.label?) fun before => reading (readPart new.label?) fun after =>
      reports [kindChanged name before after]

/-- The rules on two drafts under one key. -/
def emission (old new : Draft) : Emission :=
  if !old.isAkin new then old.emitKindChange new
  else
    match old.body, new.body with
    | .object oldFields oldInterfaces, .object newFields newInterfaces
    | .interface oldFields oldInterfaces, .interface newFields newInterfaces =>
        emitDescription old new
          ++ emitFields new.name new.label oldFields newFields
          ++ emitNames (compareInterfaces new.name new.words) oldInterfaces newInterfaces
    | .union oldMembers, .union newMembers =>
        emitDescription old new ++ emitNames (compareUnionMembers new.name) oldMembers newMembers
    | .enum oldValues, .enum newValues =>
        emitDescription old new
          ++ reading oldValues.read fun olds => reading newValues.read fun news =>
            reports (compareEnumValues new.name olds news)
    | .input oldFields, .input newFields =>
        emitDescription old new
          ++ emitInputs (inputFieldRemoved new.name ("input object type '" ++ new.name.text ++ "'"))
            (inputFieldAdded new.name ("input object type '" ++ new.name.text ++ "'"))
            (compareInputField new.name) oldFields newFields
    | .scalar oldUrl, .scalar newUrl =>
        emitDescription old new ++ reports (compareSpecifiedBy new.name oldUrl newUrl)
    | .directive oldLocations oldArgs oldRepeatable,
        .directive newLocations newArgs newRepeatable =>
        reports (compareDirectiveDescription new.label new.key old.description new.description)
          ++ Owner.emission ⟨new.label, new.key.text⟩ oldArgs newArgs
          ++ emitNames (compareLocations new.label new.key) oldLocations newLocations
          ++ reports (compareRepeatable new.name new.key oldRepeatable newRepeatable)
    | _, _ => broken .misfit

end Draft

end Rules

/-! ## What an evaluation comes to -/

/-- What an attempt comes to: to the given value if everything is there that it reads, and
otherwise to a fault that is made up for. -/
structure Settles {α : Type} (attempt : Except Fault α) (legible : Bool) (value : α) : Prop where
  complete : legible = true → attempt = .ok value
  broken : legible = false → ∃ fault, attempt = .error fault ∧ fault.isContained = true

theorem settles_ok {α : Type} (value : α) : Settles (.ok value) true value where
  complete _ := rfl
  broken h := nomatch h

theorem settles_error {α : Type} {fault : Fault} (h : fault.isContained = true) (value : α) :
    Settles (.error fault) false value where
  complete h := nomatch h
  broken _ := ⟨fault, rfl, h⟩

theorem Settles.map {α β : Type} {attempt : Except Fault α} {p : Bool} {value : α}
    (h : Settles attempt p value) (f : α → β) : Settles (attempt.map f) p (f value) where
  complete hp := by rw [h.complete hp]; rfl
  broken hp := by
    obtain ⟨fault, he, hcontained⟩ := h.broken hp
    exact ⟨fault, by rw [he]; rfl, hcontained⟩

theorem Settles.congr {α : Type} {attempt : Except Fault α} {p q : Bool} {value : α}
    (h : Settles attempt p value) (hpq : p = q) : Settles attempt q value :=
  hpq ▸ h

namespace Emission

/-- What an evaluation comes to. -/
def Answers (emission : Emission) (legible : Bool) (out : List Detection) : Prop :=
  Settles emission.collect legible out

theorem collect_append (first next : Emission) :
    (first ++ next).collect =
      match first.collect with
      | .ok reported => next.collect.map (reported ++ ·)
      | .error fault => .error fault := by
  induction first with
  | done =>
    show next.collect = next.collect.map ([] ++ ·)
    cases next.collect <;> rfl
  | broken fault => rfl
  | report detection rest ih =>
    show ((rest ++ next).collect).map (detection :: ·) = _
    rw [ih, collect]
    cases rest.collect with
    | error fault => rfl
    | ok reported => cases next.collect <;> rfl

theorem answers_reports (out : List Detection) : (reports out).Answers true out := by
  induction out with
  | nil => exact settles_ok []
  | cons detection rest ih => exact ih.map (detection :: ·)

theorem Answers.append {first next : Emission} {p q : Bool} {l m : List Detection}
    (hfirst : first.Answers p l) (hnext : next.Answers q m) :
    (first ++ next).Answers (p && q) (l ++ m) := by
  rw [Answers, collect_append]
  cases p with
  | true =>
    rw [hfirst.complete rfl]
    exact hnext.map (l ++ ·)
  | false =>
    obtain ⟨fault, he, hcontained⟩ := hfirst.broken rfl
    rw [he]
    exact settles_error hcontained _

/-- A part is read before the rest is done with it. -/
theorem answers_reading {α : Type} {part : Except Fault α} {next : α → Emission} {value : α}
    {p q : Bool} {out : List Detection} (hpart : Settles part p value)
    (hnext : p = true → (next value).Answers q out) :
    (reading part next).Answers (p && q) out := by
  cases p with
  | true =>
    rw [hpart.complete rfl]
    exact hnext rfl
  | false =>
    obtain ⟨fault, he, hcontained⟩ := hpart.broken rfl
    rw [he]
    exact settles_error hcontained out

/-- Some of the reports are made before a further part is read, the rest after it. -/
theorem answers_reports_reading {α : Type} (out : List Detection) (count : Nat)
    {part : Except Fault α} {value : α} {p : Bool} (hpart : Settles part p value) :
    (reports (out.take count) ++ reading part fun _ => reports (out.drop count)).Answers
      (true && (p && true)) out := by
  have hrest : (reading part fun _ => reports (out.drop count)).Answers (p && true)
      (out.drop count) :=
    answers_reading hpart fun _ => answers_reports (out.drop count)
  have hparts := (answers_reports (out.take count)).append hrest
  rwa [List.take_append_drop] at hparts

theorem answers_each {α : Type} {members : List α} {rule : α → Emission} {p : α → Bool}
    {report : α → List Detection}
    (h : ∀ member ∈ members, (rule member).Answers (p member) (report member)) :
    (each members rule).Answers (members.all p) (members.flatMap report) := by
  induction members with
  | nil => exact settles_ok []
  | cons member rest ih =>
    have hrest := ih fun other ho => h other (List.mem_cons_of_mem member ho)
    exact (h member List.mem_cons_self).append hrest

end Emission

/-! ## What the parts come to -/

theorem settles_readMembers {α : Type} (members : List (Option α)) :
    Settles (readMembers members) (members.all Option.isSome) (members.filterMap id) := by
  induction members with
  | nil => exact settles_ok []
  | cons first rest ih =>
    cases first with
    | none => exact settles_error rfl _
    | some member => exact ih.map (member :: ·)

theorem Holey.settles_read {α : Type} (members : Holey α) :
    Settles members.read members.isWhole members.present := by
  cases members with
  | none => exact settles_error rfl []
  | some list => exact settles_readMembers list

theorem settles_readPart {α : Type} [Inhabited α] (part : Option α) :
    Settles (readPart part) part.isSome (part.getD default) := by
  cases part with
  | none => exact settles_error rfl default
  | some value => exact settles_ok value

theorem settles_readNames (names : Option (List Name)) :
    Settles (readNames names) names.isSome (names.getD []) := by
  cases names with
  | none => exact settles_error rfl []
  | some list => exact settles_ok list

theorem settles_readChange (old new : TypeRef) :
    Settles (readChange old new) (old == new || (old != .absent && new != .absent))
      (TypeChange.between old new) := by
  unfold readChange
  by_cases he : old = new
  · rw [if_pos he, he, TypeChange.between_self, beq_self_eq_true, Bool.true_or]
    exact settles_ok none
  · rw [if_neg he, beq_eq_false_iff_ne.2 he, Bool.false_or]
    by_cases ho : old = .absent
    · rw [if_pos ho, ho]
      exact settles_error rfl _
    · by_cases hn : new = .absent
      · rw [if_neg ho, if_pos hn, hn, bne_self_eq_false, Bool.and_false]
        exact settles_error rfl _
      · rw [if_neg ho, if_neg hn, bne_iff_ne.2 ho, bne_iff_ne.2 hn]
        exact settles_ok _

theorem InputValue.settles_readRequired (value : InputValue) :
    Settles value.readRequired (value.type != .absent) value.isRequired := by
  unfold InputValue.readRequired
  by_cases h : value.type = .absent
  · rw [if_pos h, h]
    exact settles_error rfl _
  · rw [if_neg h, bne_iff_ne.2 h]
    exact settles_ok _

/-- Where a type is missing on the old side if it is on the new one, it is enough to look at
the old one. -/
theorem settles_readBecomesRequired {old new : InputValue} (change : Option TypeChange)
    (h : old.type ≠ .absent → new.type ≠ .absent) :
    Settles (readBecomesRequired old new change) (old.type != .absent)
      (becomesRequired old new change) := by
  have hold := old.settles_readRequired
  have hnew := new.settles_readRequired
  unfold readBecomesRequired becomesRequired
  cases hp : old.type != .absent with
  | false =>
    obtain ⟨fault, he, hcontained⟩ := hold.broken hp
    rw [he]
    exact settles_error hcontained _
  | true =>
    rw [hold.complete hp]
    cases old.isRequired with
    | true => exact settles_ok _
    | false =>
      have hthere : (new.type != .absent) = true := bne_iff_ne.2 (h (bne_iff_ne.1 hp))
      rw [hnew.complete hthere]
      exact settles_ok _

/-! ## What the rules come to -/

open Emission

theorem answers_emitInput (both : InputValue → InputValue → List Detection)
    (old new : InputValue) :
    (emitInput both old new).Answers (old.type != .absent && new.type != .absent)
      (both old new) := by
  have hboth : (old.type != .absent && new.type != .absent) =
      ((old.type == new.type || (old.type != .absent && new.type != .absent)) &&
        (true && ((old.type != .absent) && true))) := by
    by_cases he : old.type = new.type
    · simp [he]
    · cases ho : old.type != .absent <;> simp [he]
  rw [hboth]
  refine answers_reading (settles_readChange old.type new.type) fun hp => ?_
  have hread : old.type ≠ .absent → new.type ≠ .absent := by
    intro ho hn
    exact ho (by simpa [hn] using hp)
  exact answers_reports_reading (both old new) _ (settles_readBecomesRequired _ hread)

theorem answers_emitInputs (gone come : InputValue → Detection)
    (both : InputValue → InputValue → List Detection) (old new : Holey InputValue) :
    (emitInputs gone come both old new).Answers (inputsLegible old new)
      ((pairByName InputValue.name old.present new.present).removed.map gone
        ++ (pairByName InputValue.name old.present new.present).added.map come
        ++ (pairByName InputValue.name old.present new.present).shared.flatMap
          fun pair => both pair.1 pair.2) := by
  rw [inputsLegible, Bool.and_assoc, Bool.and_assoc]
  refine answers_reading old.settles_read fun _ => answers_reading new.settles_read fun _ => ?_
  rw [← Bool.true_and (List.all _ _), List.map_eq_flatMap (f := come)]
  refine ((answers_reports _).append (answers_each fun value _ => ?_)).append
    (answers_each fun pair _ => answers_emitInput both pair.1 pair.2)
  rw [← Bool.and_true (value.type != .absent)]
  exact answers_reading value.settles_readRequired fun _ => answers_reports [come value]

/-! ## Settled drafts -/

theorem hasNamed_map {α β : Type} {name : α → Name} {rename : β → Name} {f : α → β}
    (h : ∀ member, rename (f member) = name member) (members : List α) (wanted : Name) :
    hasNamed rename (members.map f) wanted = hasNamed name members wanted := by
  simp only [hasNamed, List.any_map, Function.comp_def, h]

theorem lastNamed?_map {α β : Type} {name : α → Name} {rename : β → Name} {f : α → β}
    (h : ∀ member, rename (f member) = name member) (members : List α) (wanted : Name) :
    lastNamed? rename (members.map f) wanted = (lastNamed? name members wanted).map f := by
  have hname : ((fun member => rename member == wanted) ∘ f) = fun member => name member == wanted :=
    funext fun member => congrArg (· == wanted) (h member)
  rw [lastNamed?, lastNamed?, ← List.map_reverse, List.find?_map, hname]

/-- Members are paired as before where names are all that counts. -/
theorem pairByName_map {α β : Type} (name : α → Name) (rename : β → Name) (f : α → β)
    (h : ∀ member, rename (f member) = name member) (old new : List α) :
    pairByName rename (old.map f) (new.map f) =
      ⟨(pairByName name old new).removed.map f, (pairByName name old new).added.map f,
        (pairByName name old new).shared.map fun pair => (f pair.1, f pair.2)⟩ := by
  simp only [pairByName, List.filter_map, List.filterMap_map, List.map_filterMap,
    Function.comp_def, hasNamed_map h, lastNamed?_map h, h, Option.map_map]

theorem Owner.answers_emission (owner : Owner) (old new : Holey InputValue) :
    (owner.emission old new).Answers (inputsLegible old new)
      (owner.compareArguments old.present new.present) :=
  answers_emitInputs _ _ _ old new

theorem answers_emitInputFields (typeName : Name) (old new : Holey InputValue) :
    (emitInputs (inputFieldRemoved typeName ("input object type '" ++ typeName.text ++ "'"))
      (inputFieldAdded typeName ("input object type '" ++ typeName.text ++ "'"))
      (compareInputField typeName) old new).Answers (inputsLegible old new)
      (compareInputFields typeName old.present new.present) :=
  answers_emitInputs _ _ _ old new

/-- The differences of two fields are their own and those of their arguments. -/
theorem compareField_settle (typeName : Name) (old new : DraftField) :
    compareField typeName old.settle new.settle =
      compareField typeName old.own new.own
        ++ Owner.compareArguments ⟨"field '" ++ new.name.within typeName.text ++ "'",
          new.name.within typeName.text⟩ old.args.present new.args.present := by
  simp [compareField, DraftField.own, DraftField.settle, Owner.compareArguments, pairByName]

theorem DraftField.answers_emission (typeName : Name) (old new : DraftField) :
    (old.emission typeName new).Answers (old.legible new)
      (compareField typeName old.settle new.settle) := by
  rw [compareField_settle, DraftField.legible]
  refine answers_reading (settles_readChange old.type new.type) fun _ => ?_
  rw [← Bool.true_and (inputsLegible old.args new.args)]
  exact (answers_reports _).append (Owner.answers_emission _ old.args new.args)

theorem answers_emitFields (typeName : Name) (label : String) (old new : Holey DraftField) :
    (emitFields typeName label old new).Answers (fieldsLegible old new)
      (compareFields typeName label (old.present.map DraftField.settle)
        (new.present.map DraftField.settle)) := by
  rw [fieldsLegible, Bool.and_assoc, compareFields]
  refine answers_reading old.settles_read fun _ => answers_reading new.settles_read fun _ => ?_
  rw [pairByName_map DraftField.name Field.name DraftField.settle fun _ => rfl, List.map_map,
    List.map_map, List.flatMap_map, ← Bool.true_and (List.all _ _), ← Bool.true_and true]
  exact ((answers_reports _).append (answers_reports _)).append
    (answers_each fun pair _ => pair.1.answers_emission typeName pair.2)

theorem answers_emitNames (both : List Name → List Name → List Detection)
    (old new : Option (List Name)) :
    (emitNames both old new).Answers (old.isSome && new.isSome)
      (both (old.getD []) (new.getD [])) := by
  rw [Bool.and_comm, ← Bool.and_true old.isSome]
  exact answers_reading (settles_readNames new) fun _ =>
    answers_reading (settles_readNames old) fun _ => answers_reports _

/-- What the rules on objects and those on interfaces have in common. -/
theorem answers_emitTypeParts (first : List Detection) {typeName : Name} {label : String}
    {words : String} (oldFields newFields : Holey DraftField)
    (oldInterfaces newInterfaces : Option (List Name)) :
    (reports first ++ emitFields typeName label oldFields newFields
      ++ emitNames (compareInterfaces typeName words) oldInterfaces newInterfaces).Answers
      (fieldsLegible oldFields newFields && oldInterfaces.isSome && newInterfaces.isSome)
      (first ++ compareFields typeName label (oldFields.present.map DraftField.settle)
          (newFields.present.map DraftField.settle)
        ++ compareInterfaces typeName words (oldInterfaces.getD []) (newInterfaces.getD [])) :=
  (((answers_reports first).append (answers_emitFields _ _ oldFields newFields)).append
    (answers_emitNames _ oldInterfaces newInterfaces)).congr (by simp [Bool.and_assoc])

namespace Draft

variable {old new : Draft}

/-- The rules on two drafts of one class come to what is reported of their settled forms. -/
theorem answers_emission_of_isAkin {before after : Definition} (hakin : old.isAkin new = true)
    (hold : old.settle? = some before) (hnew : new.settle? = some after) :
    (old.emission new).Answers (old.body.legible new.body) (before.compare after) := by
  rw [emission, if_neg (by simp [hakin])]
  obtain ⟨oldName, oldDescription, oldBody⟩ := old
  obtain ⟨newName, newDescription, newBody⟩ := new
  cases oldBody with
  | object oldFields oldInterfaces =>
    cases newBody with
    | object newFields newInterfaces =>
      cases hold
      cases hnew
      exact answers_emitTypeParts _ oldFields newFields oldInterfaces newInterfaces
    | _ => cases hakin
  | interface oldFields oldInterfaces =>
    cases newBody with
    | interface newFields newInterfaces =>
      cases hold
      cases hnew
      exact answers_emitTypeParts _ oldFields newFields oldInterfaces newInterfaces
    | _ => cases hakin
  | union oldMembers =>
    cases newBody with
    | union newMembers =>
      cases hold
      cases hnew
      exact (answers_reports _).append (answers_emitNames _ oldMembers newMembers)
    | _ => cases hakin
  | enum oldValues =>
    cases newBody with
    | enum newValues =>
      cases hold
      cases hnew
      exact ((answers_reports _).append (answers_reading oldValues.settles_read fun _ =>
        answers_reading newValues.settles_read fun _ => answers_reports _)).congr
          (by simp [DraftBody.legible])
    | _ => cases hakin
  | input oldFields =>
    cases newBody with
    | input newFields =>
      cases hold
      cases hnew
      exact (answers_reports _).append (answers_emitInputFields _ oldFields newFields)
    | _ => cases hakin
  | scalar oldUrl =>
    cases newBody with
    | scalar newUrl =>
      cases hold
      cases hnew
      exact (answers_reports _).append (answers_reports _)
    | _ => cases hakin
  | directive oldLocations oldArgs oldRepeatable =>
    cases newBody with
    | directive newLocations newArgs newRepeatable =>
      cases hold
      cases hnew
      exact ((((answers_reports _).append (Owner.answers_emission _ oldArgs newArgs)).append
        (answers_emitNames _ oldLocations newLocations)).append (answers_reports _)).congr
          (by simp [DraftBody.legible, Bool.and_assoc])
    | _ => cases hakin
  | unsupported => cases hold

/-- Of two drafts of one class either both have a settled form or none of the rules is for
them. -/
theorem settle?_of_isAkin (hakin : old.isAkin new = true) :
    (∃ before after, old.settle? = some before ∧ new.settle? = some after) ∨
      ∃ one other, old.body = .unsupported one ∧ new.body = .unsupported other := by
  obtain ⟨oldName, oldDescription, oldBody⟩ := old
  obtain ⟨newName, newDescription, newBody⟩ := new
  cases oldBody <;> cases newBody <;>
    first
    | exact .inl ⟨_, _, rfl, rfl⟩
    | exact .inr ⟨_, _, rfl, rfl⟩
    | cases hakin

/-- The rule on two drafts of different classes breaks off if a directive is among them, or the
name or the words for one of the classes cannot be read. -/
theorem exists_answers_emitKindChange (old new : Draft) :
    ∃ out, (old.emitKindChange new).Answers
        (old.kind != .directive && new.kind != .directive && (old.kindChange? new).isSome) out ∧
      ∀ change, old.kindChange? new = some change → out = [change] := by
  refine ⟨[kindChanged (new.name?.getD default) (old.label?.getD default)
    (new.label?.getD default)], ?_, fun change hchange => ?_⟩
  · by_cases hd : old.kind = .directive ∨ new.kind = .directive
    · have hlegible : (old.kind != .directive && new.kind != .directive) = false := by
        rcases hd with h | h <;> simp [h]
      rw [hlegible, Bool.false_and, ← Bool.and_false new.name?.isSome]
      refine answers_reading (settles_readPart new.name?) fun _ => ?_
      rw [if_pos hd]
      exact settles_error rfl _
    · have hlegible : (old.kind != .directive && new.kind != .directive) = true := by
        simpa [not_or] using hd
      have hsome : (old.kindChange? new).isSome =
          (new.name?.isSome && (old.label?.isSome && (new.label?.isSome && true))) := by
        unfold kindChange?
        cases new.name? <;> cases old.label? <;> cases new.label? <;> rfl
      rw [hlegible, Bool.true_and, hsome]
      refine answers_reading (settles_readPart new.name?) fun _ => ?_
      rw [if_neg hd]
      exact answers_reading (settles_readPart old.label?) fun _ =>
        answers_reading (settles_readPart new.label?) fun _ => answers_reports _
  · revert hchange
    unfold kindChange?
    cases new.name? <;> cases old.label? <;> cases new.label? <;> rintro ⟨⟩
    rfl

/-- Evaluated step by step, the rules on two drafts break off exactly if a part is missing
that they read, and otherwise come to what the comparison says at once. -/
theorem exists_answers_emission (old new : Draft) :
    ∃ out, (old.emission new).Answers (old.legible new) out ∧
      old.compare? new = if old.legible new then some out else none := by
  cases hakin : old.isAkin new with
  | true =>
    have hlegible : old.legible new = old.body.legible new.body := if_pos hakin
    obtain ⟨before, after, hold, hnew⟩ | ⟨one, other, hold, hnew⟩ := settle?_of_isAkin hakin
    · refine ⟨before.compare after, ?_, ?_⟩
      · rw [hlegible]
        exact answers_emission_of_isAkin hakin hold hnew
      · rw [compare?, hold, hnew]
        cases old.legible new <;> simp [hakin]
    · refine ⟨[], ?_, ?_⟩
      · rw [hlegible, emission, if_neg (by simp [hakin]), hold, hnew]
        exact settles_error rfl _
      · rw [compare?, hlegible, hold, hnew]
        rfl
  | false =>
    obtain ⟨out, hanswers, hout⟩ := exists_answers_emitKindChange old new
    have hlegible : old.legible new =
        (old.kind != .directive && new.kind != .directive && (old.kindChange? new).isSome) :=
      if_neg (by simp [hakin])
    refine ⟨out, ?_, ?_⟩
    · rw [hlegible, emission, if_pos (by simp [hakin])]
      exact hanswers
    · rw [compare?]
      cases hl : old.legible new with
      | false => rfl
      | true =>
        rw [hlegible, Bool.and_eq_true] at hl
        obtain ⟨change, hchange⟩ := Option.isSome_iff_exists.1 hl.2
        simp [hakin, hchange, hout change hchange]

end Draft

end SchemaDrift
