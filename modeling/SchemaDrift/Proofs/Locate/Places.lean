import Mathlib.Data.List.TakeWhile
import SchemaDrift.Locate.Locator
import SchemaDrift.Proofs.Compare.Detections

/-!
# What a path names

A path names a place: a definition, a member of it or an argument.  In a type map there
may be an element at a place.

* `Element`, `TypeMap.owner?`, `TypeMap.element?` — the elements, and the definition and
  the element at a place.
* `ofText?_key`, `ofText?_member`, `ofText?_argument`, `ofText?_directiveArgument` — the
  paths of detections are taken apart into the names they were put together from.
* `owner?_definitionPlace`, `element?_memberPlace` and the like — what stands at the
  places of a definition and of what belongs to it.
-/

namespace SchemaDrift

open Text

/-! ## Elements -/

/-- What may stand at a place. -/
inductive Element where
  | type (definition : Definition)
  | directive (definition : Definition)
  | field (field : Field)
  | enumValue (value : EnumValue)
  | inputField (value : InputValue)
  | argument (value : InputValue)
  deriving DecidableEq, Repr

/-- A definition as an element. -/
def Definition.element (definition : Definition) : Element :=
  if definition.kind = .directive then .directive definition else .type definition

/-- The member of a type of the given name. -/
def Body.member? (body : Body) (name : Name) : Option Element :=
  match body with
  | .object fields _ | .interface fields _ => (lastNamed? Field.name fields name).map .field
  | .enum values => (lastNamed? EnumValue.name values name).map .enumValue
  | .input fields => (lastNamed? InputValue.name fields name).map .inputField
  | .union _ | .scalar _ | .directive .. => none

/-- The argument of a field. -/
def Field.argument? (field : Field) (name : Name) : Option Element :=
  (lastNamed? InputValue.name field.args name).map .argument

/-- The argument of the given name of a field of a type. -/
def Body.fieldArgument? (body : Body) (fieldName name : Name) : Option Element :=
  match body with
  | .object fields _ | .interface fields _ =>
      (lastNamed? Field.name fields fieldName).bind (·.argument? name)
  | .union _ | .enum _ | .input _ | .scalar _ | .directive .. => none

/-- The argument of a directive. -/
def Body.directiveArgument? (body : Body) (name : Name) : Option Element :=
  match body with
  | .directive _ args _ => (lastNamed? InputValue.name args name).map .argument
  | .object .. | .interface .. | .union _ | .enum _ | .input _ | .scalar _ => none

/-- What of a definition stands at a place that it owns. -/
def Definition.element? (definition : Definition) : ChangePath → Option Element
  | .directive _ argument =>
      if argument.isEmpty then some definition.element
      else definition.body.directiveArgument? (some (String.ofList argument))
  | .type _ member argument =>
      if argument.isEmpty then
        if member.isEmpty then some definition.element
        else definition.body.member? (some (String.ofList member))
      else
        definition.body.fieldArgument? (some (String.ofList member))
          (some (String.ofList argument))

/-- The definition at a place, or to which the place belongs. -/
def TypeMap.owner? (types : TypeMap) : ChangePath → Option Definition
  | .directive name _ => Keyed.get? types (some ("@" ++ String.ofList name))
  | .type name _ _ => Keyed.get? types (some (String.ofList name))

/-- The element at a place. -/
def TypeMap.element? (types : TypeMap) (place : ChangePath) : Option Element :=
  (types.owner? place).bind (·.element? place)

/-! ## Names in paths -/

theorem ne_dot_of_isNameChar {c : Char} (h : isNameChar c = true) : c ≠ '.' := by
  rintro rfl
  exact absurd h (by decide)

theorem ne_dot_of_isName {word : List Char} (h : isName word = true) : ∀ c ∈ word, c ≠ '.' := by
  cases word with
  | nil => exact fun c hc => absurd hc List.not_mem_nil
  | cons first rest =>
    simp only [isName, Bool.and_eq_true, List.all_eq_true] at h
    intro c hc
    rcases List.mem_cons.1 hc with rfl | hrest
    · exact ne_dot_of_isNameChar (isNameChar_of_isNameStart h.1)
    · exact ne_dot_of_isNameChar (h.2 c hrest)

theorem isEmpty_eq_false_of_isName {word : List Char} (h : isName word = true) :
    word.isEmpty = false := by
  cases word with
  | nil => exact absurd h (by decide)
  | cons => rfl

/-- A name is not split. -/
theorem splitAtDot_name {word : List Char} (h : isName word = true) :
    splitAtDot word = (word, []) := by
  have htake : word.takeWhile (· != '.') = word :=
    List.takeWhile_eq_self_iff.2 fun c hc => bne_iff_ne.2 (ne_dot_of_isName h c hc)
  have hdrop : word.dropWhile (· != '.') = [] :=
    List.dropWhile_eq_nil_iff.2 fun c hc => bne_iff_ne.2 (ne_dot_of_isName h c hc)
  rw [splitAtDot, htake, hdrop]
  rfl

/-- A name and what follows it are split at the dot between them. -/
theorem splitAtDot_append {word : List Char} (h : isName word = true) (rest : List Char) :
    splitAtDot (word ++ '.' :: rest) = (word, rest) := by
  have hall : ∀ c ∈ word, (c != '.') = true := fun c hc => bne_iff_ne.2 (ne_dot_of_isName h c hc)
  rw [splitAtDot, List.takeWhile_append_of_pos hall, List.dropWhile_append_of_pos hall]
  simp

/-- A path that starts with a name is that of a type. -/
theorem ofText?_of_isName {word : List Char} (h : isName word = true) (rest : List Char) :
    ChangePath.ofText? (word ++ rest) =
      some (.type (splitAtDot (word ++ rest)).1
        (splitAtDot (splitAtDot (word ++ rest)).2).1
        (splitAtDot (splitAtDot (word ++ rest)).2).2) := by
  cases word with
  | nil => exact absurd h (by decide)
  | cons first tail =>
    have hat : first ≠ '@' := by
      rintro rfl
      exact absurd h (by simp [isName, isNameStart, isLetter])
    rw [List.cons_append, ChangePath.ofText?]
    · exact List.cons_ne_nil _ _
    · intro other hother
      exact hat (List.cons.inj hother).1

theorem toList_within (name : Name) (path : String) :
    (name.within path).toList = path.toList ++ '.' :: name.text.toList := by
  rw [Name.within, String.toList_append, String.toList_append, List.append_assoc]
  rfl

theorem isName_text {name : Name} (h : name.IsProper) : isName name.text.toList = true := by
  obtain ⟨word, rfl, hword⟩ := h
  exact hword

section Paths

variable {typeName member argument : List Char}

/-- The path of a type. -/
theorem ofText?_type (ht : isName typeName = true) :
    ChangePath.ofText? typeName = some (.type typeName [] []) := by
  have hpath := ofText?_of_isName ht []
  rwa [List.append_nil, splitAtDot_name ht] at hpath

/-- The path of a member of a type. -/
theorem ofText?_member (ht : isName typeName = true) (hm : isName member = true) :
    ChangePath.ofText? (typeName ++ '.' :: member) = some (.type typeName member []) := by
  rw [ofText?_of_isName ht, splitAtDot_append ht, splitAtDot_name hm]

/-- The path of an argument of a field. -/
theorem ofText?_argument (ht : isName typeName = true) (hm : isName member = true) :
    ChangePath.ofText? (typeName ++ '.' :: (member ++ '.' :: argument)) =
      some (.type typeName member argument) := by
  rw [ofText?_of_isName ht, splitAtDot_append ht, splitAtDot_append hm]

/-- The path of a directive. -/
theorem ofText?_directive (ht : isName typeName = true) :
    ChangePath.ofText? ('@' :: typeName) = some (.directive typeName []) := by
  rw [ChangePath.ofText?, splitAtDot_name ht]

/-- The path of an argument of a directive. -/
theorem ofText?_directiveArgument (ht : isName typeName = true) :
    ChangePath.ofText? ('@' :: (typeName ++ '.' :: argument)) =
      some (.directive typeName argument) := by
  rw [ChangePath.ofText?, splitAtDot_append ht]

end Paths

/-! ## The places of a definition -/

/-- A path names a place. -/
def NamesPlace (path : Option String) (place : ChangePath) : Prop :=
  ∃ text, path = some text ∧ ChangePath.ofText? text.toList = some place

theorem some_text {name : Name} (h : name.IsProper) : some name.text = name := by
  obtain ⟨word, rfl, -⟩ := h
  rfl

theorem some_ofList_text {name : Name} (h : name.IsProper) :
    some (String.ofList name.text.toList) = name := by
  rw [String.ofList_toList, some_text h]

namespace Definition

/-- The place of a definition. -/
def place (definition : Definition) : ChangePath :=
  if definition.kind = .directive then .directive definition.name.text.toList []
  else .type definition.name.text.toList [] []

/-- The place of a member of a type. -/
def memberPlace (definition : Definition) (name : Name) : ChangePath :=
  .type definition.name.text.toList name.text.toList []

/-- The place of an argument of a field of a type. -/
def argumentPlace (definition : Definition) (field name : Name) : ChangePath :=
  .type definition.name.text.toList field.text.toList name.text.toList

/-- The place of an argument of a directive. -/
def directiveArgumentPlace (definition : Definition) (name : Name) : ChangePath :=
  .directive definition.name.text.toList name.text.toList

end Definition

section Definitions

variable {definition : Definition} {name field : Name}

theorem namesPlace_key (h : definition.WellFormed) :
    NamesPlace definition.key definition.place := by
  have hname := isName_text h.name
  by_cases hk : definition.kind = .directive
  · refine ⟨_, definition.key_eq_of_directive hk, ?_⟩
    rw [Definition.place, if_pos hk, String.toList_append]
    exact ofText?_directive hname
  · refine ⟨_, (definition.key_eq_name hk).trans (some_text h.name).symm, ?_⟩
    rw [Definition.place, if_neg hk]
    exact ofText?_type hname

theorem namesPlace_member (h : definition.WellFormed) (hn : name.IsProper) :
    NamesPlace (some (name.within definition.name.text)) (definition.memberPlace name) := by
  refine ⟨_, rfl, ?_⟩
  rw [toList_within]
  exact ofText?_member (isName_text h.name) (isName_text hn)

theorem namesPlace_argument (h : definition.WellFormed) (hf : field.IsProper) :
    NamesPlace (some (name.within (field.within definition.name.text)))
      (definition.argumentPlace field name) := by
  refine ⟨_, rfl, ?_⟩
  rw [toList_within, toList_within, List.append_assoc, List.cons_append]
  exact ofText?_argument (isName_text h.name) (isName_text hf)

theorem namesPlace_directiveArgument (h : definition.WellFormed)
    (hk : definition.kind = .directive) :
    NamesPlace (some (name.within definition.key.text))
      (definition.directiveArgumentPlace name) := by
  refine ⟨_, rfl, ?_⟩
  rw [toList_within, definition.key_eq_of_directive hk, Name.text_some, String.toList_append,
    List.append_assoc]
  exact ofText?_directiveArgument (isName_text h.name)

variable {types : TypeMap}

theorem owner?_place (h : definition.WellFormed) :
    types.owner? definition.place = Keyed.get? types definition.key := by
  by_cases hk : definition.kind = .directive
  · rw [Definition.place, if_pos hk, TypeMap.owner?, definition.key_eq_of_directive hk,
      String.ofList_toList]
  · rw [Definition.place, if_neg hk, TypeMap.owner?, definition.key_eq_name hk,
      some_ofList_text h.name]

theorem owner?_memberPlace (h : definition.WellFormed) (hk : definition.kind ≠ .directive) :
    types.owner? (definition.memberPlace name) = Keyed.get? types definition.key := by
  rw [Definition.memberPlace, TypeMap.owner?, definition.key_eq_name hk, some_ofList_text h.name]

theorem owner?_argumentPlace (h : definition.WellFormed) (hk : definition.kind ≠ .directive) :
    types.owner? (definition.argumentPlace field name) = Keyed.get? types definition.key := by
  rw [Definition.argumentPlace, TypeMap.owner?, definition.key_eq_name hk,
    some_ofList_text h.name]

theorem owner?_directiveArgumentPlace (hk : definition.kind = .directive) :
    types.owner? (definition.directiveArgumentPlace name) =
      Keyed.get? types definition.key := by
  rw [Definition.directiveArgumentPlace, TypeMap.owner?, definition.key_eq_of_directive hk,
    String.ofList_toList]

variable {other : Definition}

theorem element?_place : other.element? definition.place = some other.element := by
  unfold Definition.place
  split <;> rfl

theorem element?_memberPlace (hn : name.IsProper) :
    other.element? (definition.memberPlace name) = other.body.member? name := by
  simp only [Definition.memberPlace, Definition.element?, List.isEmpty_nil, if_true,
    isEmpty_eq_false_of_isName (isName_text hn), some_ofList_text hn]
  rfl

theorem element?_argumentPlace (hf : field.IsProper) (hn : name.IsProper) :
    other.element? (definition.argumentPlace field name) =
      other.body.fieldArgument? field name := by
  simp only [Definition.argumentPlace, Definition.element?,
    isEmpty_eq_false_of_isName (isName_text hn), some_ofList_text hn, some_ofList_text hf]
  rfl

theorem element?_directiveArgumentPlace (hn : name.IsProper) :
    other.element? (definition.directiveArgumentPlace name) =
      other.body.directiveArgument? name := by
  simp only [Definition.directiveArgumentPlace, Definition.element?,
    isEmpty_eq_false_of_isName (isName_text hn), some_ofList_text hn]
  rfl

end Definitions

end SchemaDrift
