import SchemaDrift.Proofs.Compare.Meaning

/-!
# Every detection is justified

The path of a detection names a place, and what the rule says of the element there is
true.

* `Detection.Justified` — the rule of a detection holds at the place that its path names,
  and the definition there is of one class in both versions unless the rule says
  otherwise.
* `Paired.justified` — what a rule says of a place in two definitions under one key
  justifies a detection.
* `Paired.justified_compare` — what is reported of two definitions under one key is
  justified, family by family.
* `forall_detections_justified` — so is every detection between well-formed versions.
-/

namespace SchemaDrift

/-! ## Justification -/

/-- The rule of the detection holds at the place that its path names, and except for
changes of class the definition there is of one class in both versions. -/
def Detection.Justified (old new : TypeMap) (d : Detection) : Prop :=
  ∃ place, NamesPlace d.path place ∧
    d.rule.Holds d.message (old.element? place) (new.element? place) ∧
    (d.rule ≠ .typeKindChanged → ∀ a b,
      old.owner? place = some a → new.owner? place = some b → a.kind = b.kind)

/-! ## Definitions under one key -/

/-- Two well-formed definitions that stand under one key in the two versions. -/
structure Paired (old new : TypeMap) (a b : Definition) : Prop where
  key : a.key = b.key
  oldAt : Keyed.get? old b.key = some a
  newAt : Keyed.get? new b.key = some b
  oldWellFormed : a.WellFormed
  newWellFormed : b.WellFormed

variable {old new : TypeMap} {a b : Definition}

/-- What holds of a place in two definitions under one key is a justification, if they are
of one class or the rule says that they are not. -/
theorem Paired.justified (h : Paired old new a b) {rule : Rule} {path : Option String}
    {message : String} {place : ChangePath} (hpath : NamesPlace path place)
    (howner : ∀ types : TypeMap, types.owner? place = Keyed.get? types b.key)
    (hholds : rule.Holds message (a.element? place) (b.element? place))
    (hkind : rule ≠ .typeKindChanged → a.kind = b.kind) :
    Detection.Justified old new ⟨rule, path, message⟩ := by
  have hoa : old.owner? place = some a := (howner old).trans h.oldAt
  have hob : new.owner? place = some b := (howner new).trans h.newAt
  refine ⟨place, hpath, ?_, ?_⟩
  · rwa [TypeMap.element?, TypeMap.element?, hoa, hob]
  · intro hrule x y hx hy
    rw [hoa] at hx
    rw [hob] at hy
    obtain rfl := Option.some.inj hx
    obtain rfl := Option.some.inj hy
    exact hkind hrule

theorem Paired.justified_definition (h : Paired old new a b) {rule : Rule} {message : String}
    (hholds : rule.Holds message (some a.element) (some b.element))
    (hkind : rule ≠ .typeKindChanged → a.kind = b.kind) :
    Detection.Justified old new ⟨rule, b.key, message⟩ := by
  refine h.justified (namesPlace_key h.newWellFormed)
    (fun _ => owner?_place h.newWellFormed) ?_ hkind
  rwa [element?_place, element?_place]

theorem Paired.justified_member (h : Paired old new a b) (hkind : a.kind = b.kind)
    (hk : b.kind ≠ .directive) {rule : Rule} {message : String} {name : Name}
    (hn : name.IsProper)
    (hholds : rule.Holds message (a.body.member? name) (b.body.member? name)) :
    Detection.Justified old new ⟨rule, name.within b.name.text, message⟩ := by
  refine h.justified (namesPlace_member h.newWellFormed hn)
    (fun _ => owner?_memberPlace h.newWellFormed hk) ?_ fun _ => hkind
  rwa [element?_memberPlace hn, element?_memberPlace hn]

theorem Paired.justified_argument (h : Paired old new a b) (hkind : a.kind = b.kind)
    (hk : b.kind ≠ .directive) {rule : Rule} {message : String} {field name : Name}
    (hf : field.IsProper) (hn : name.IsProper)
    (hholds : rule.Holds message (a.body.fieldArgument? field name)
      (b.body.fieldArgument? field name)) :
    Detection.Justified old new ⟨rule, name.within (field.within b.name.text), message⟩ := by
  refine h.justified (namesPlace_argument h.newWellFormed hf)
    (fun _ => owner?_argumentPlace h.newWellFormed hk) ?_ fun _ => hkind
  rwa [element?_argumentPlace hf hn, element?_argumentPlace hf hn]

theorem Paired.justified_directiveArgument (h : Paired old new a b) (hkind : a.kind = b.kind)
    (hk : b.kind = .directive) {rule : Rule} {message : String} {name : Name}
    (hn : name.IsProper)
    (hholds : rule.Holds message (a.body.directiveArgument? name)
      (b.body.directiveArgument? name)) :
    Detection.Justified old new ⟨rule, name.within b.key.text, message⟩ := by
  refine h.justified (namesPlace_directiveArgument h.newWellFormed hk)
    (fun _ => owner?_directiveArgumentPlace hk) ?_ fun _ => hkind
  rwa [element?_directiveArgumentPlace hn, element?_directiveArgumentPlace hn]

/-! ## The families between definitions -/

theorem Definition.element_eq_type {definition : Definition} (h : definition.kind ≠ .directive) :
    definition.element = .type definition :=
  if_neg h

theorem Definition.element_eq_directive {definition : Definition}
    (h : definition.kind = .directive) : definition.element = .directive definition :=
  if_pos h

theorem quotes_of_parts {name : Name} {opening closing : String} (before after : String)
    (hopening : opening = before ++ "'") (hclosing : closing = "'" ++ after) :
    Quotes (opening ++ name.text ++ closing) name :=
  ⟨before, after, by simp only [hopening, hclosing, String.append_assoc]⟩

theorem Quotes.append {message : String} {name : Name} (h : Quotes message name)
    (tail : String) : Quotes (message ++ tail) name := by
  obtain ⟨before, after, rfl⟩ := h
  exact ⟨before, after ++ tail, String.append_assoc ..⟩

theorem Quotes.prepend {name : Name} {opening closing : String}
    (h : Quotes (opening ++ name.text ++ closing) name) (head : String) :
    Quotes (head ++ opening ++ name.text ++ closing) name := by
  obtain ⟨before, after, he⟩ := h
  refine ⟨head ++ before, after, ?_⟩
  simp only [String.append_assoc] at he ⊢
  rw [he]

theorem quotes_interfaceRemoved (subject : String) (name : Name) :
    Quotes (subject ++ " no longer implements '" ++ name.text ++ "' interface") name :=
  (quotes_of_parts " no longer implements " " interface" (by decide) (by decide)).prepend subject

theorem quotes_interfaceAdded (subject : String) (name : Name) :
    Quotes (subject ++ " implements '" ++ name.text ++ "' interface") name :=
  (quotes_of_parts " implements " " interface" (by decide) (by decide)).prepend subject

theorem quotes_memberRemoved (label : String) (name : Name) :
    Quotes ("Member '" ++ name.text ++ "' was removed from " ++ label) name :=
  (quotes_of_parts "Member " " was removed from " (by decide) (by decide)).append label

theorem quotes_memberAdded (label : String) (name : Name) :
    Quotes ("Member '" ++ name.text ++ "' was added to " ++ label) name :=
  (quotes_of_parts "Member " " was added to " (by decide) (by decide)).append label

theorem quotes_locationRemoved (label : String) (name : Name) :
    Quotes ("Location '" ++ name.text ++ "' was removed from " ++ label) name :=
  (quotes_of_parts "Location " " was removed from " (by decide) (by decide)).append label

theorem quotes_locationAdded (label : String) (name : Name) :
    Quotes ("Location '" ++ name.text ++ "' was added to " ++ label) name :=
  (quotes_of_parts "Location " " was added to " (by decide) (by decide)).append label

/-- For the rules on types it is enough what they say of the two definitions. -/
theorem Paired.justified_type (h : Paired old new a b) (hkind : a.kind = b.kind)
    (hk : b.kind ≠ .directive) {rule : Rule} {message : String}
    (hholds : rule.Holds message (some (.type a)) (some (.type b))) :
    Detection.Justified old new ⟨rule, b.name, message⟩ := by
  rw [← Definition.key_eq_name hk]
  refine h.justified_definition ?_ fun _ => hkind
  rwa [Definition.element_eq_type hk, Definition.element_eq_type (hkind.trans_ne hk)]

/-- For the rules on directives it is enough what they say of the two definitions. -/
theorem Paired.justified_directive (h : Paired old new a b) (hkind : a.kind = b.kind)
    (hk : b.kind = .directive) {rule : Rule} {message : String}
    (hholds : rule.Holds message (some (.directive a)) (some (.directive b))) :
    Detection.Justified old new ⟨rule, b.key, message⟩ := by
  refine h.justified_definition ?_ fun _ => hkind
  rwa [Definition.element_eq_directive hk, Definition.element_eq_directive (hkind.trans hk)]

/-- A detection under the rule and with the path is justified, whatever it says. -/
def JustifiedUnder (old new : TypeMap) (rule : Rule) (path : Option String) : Prop :=
  ∀ message, Detection.Justified old new ⟨rule, path, message⟩

theorem forall_justified {reports : List Detection}
    (h : ∀ d ∈ reports, JustifiedUnder old new d.rule d.path) :
    ∀ d ∈ reports, d.Justified old new :=
  fun d hd => h d hd d.message

theorem Paired.justified_compareDescription (h : Paired old new a b) (hkind : a.kind = b.kind)
    (hk : b.kind ≠ .directive) : ∀ d ∈ a.compareDescription b, d.Justified old new := by
  refine forall_justified (Definition.forall_mem_compareDescription.2 fun change hc message => ?_)
  exact h.justified_type hkind hk (TextRules.type_holds (fun _ hd => ⟨a, b, rfl, rfl, hd⟩) hc _)

theorem Paired.justified_compareFields (h : Paired old new a b) (hkind : a.kind = b.kind)
    (hk : b.kind ≠ .directive) {oldFields newFields : List Field} {label : String}
    (hold : MembersWellFormed Field.name Field.WellFormed oldFields)
    (hnew : MembersWellFormed Field.name Field.WellFormed newFields)
    (ham : ∀ name, a.body.member? name = (lastNamed? Field.name oldFields name).map .field)
    (hbm : ∀ name, b.body.member? name = (lastNamed? Field.name newFields name).map .field)
    (haa : ∀ field name, a.body.fieldArgument? field name =
      (lastNamed? Field.name oldFields field).bind (·.argument? name))
    (hba : ∀ field name, b.body.fieldArgument? field name =
      (lastNamed? Field.name newFields field).bind (·.argument? name)) :
    ∀ d ∈ compareFields b.name label oldFields newFields, d.Justified old new := by
  refine forall_justified ((forall_mem_compareFields hold.nodup
    fun field hf => (hold.each field hf).args.nodup).2 (Field.onLists_of_holds hold hnew ?_ ?_))
  · intro rule name hn hholds message
    refine h.justified_member hkind hk hn ?_
    rw [ham, hbm]
    exact hholds message
  · intro rule field name hf hn hholds message
    refine h.justified_argument hkind hk hf hn ?_
    rw [haa, hba]
    exact hholds message

theorem Paired.justified_compareEnumValues (h : Paired old new a b) (hkind : a.kind = b.kind)
    (hk : b.kind ≠ .directive) {oldValues newValues : List EnumValue}
    (hold : MembersWellFormed EnumValue.name (fun value => value.name.IsProper) oldValues)
    (hnew : MembersWellFormed EnumValue.name (fun value => value.name.IsProper) newValues)
    (ham : ∀ name, a.body.member? name =
      (lastNamed? EnumValue.name oldValues name).map .enumValue)
    (hbm : ∀ name, b.body.member? name =
      (lastNamed? EnumValue.name newValues name).map .enumValue) :
    ∀ d ∈ compareEnumValues b.name oldValues newValues, d.Justified old new := by
  refine forall_justified ((forall_mem_compareEnumValues hold.nodup).2
    (EnumValue.onLists_of_holds hold hnew ?_))
  intro rule name hn hholds message
  refine h.justified_member hkind hk hn ?_
  rw [ham, hbm]
  exact hholds message

theorem Paired.justified_compareInputFields (h : Paired old new a b) (hkind : a.kind = b.kind)
    (hk : b.kind ≠ .directive) {oldFields newFields : List InputValue}
    (hold : MembersWellFormed InputValue.name InputValue.WellFormed oldFields)
    (hnew : MembersWellFormed InputValue.name InputValue.WellFormed newFields)
    (ham : ∀ name, a.body.member? name =
      (lastNamed? InputValue.name oldFields name).map .inputField)
    (hbm : ∀ name, b.body.member? name =
      (lastNamed? InputValue.name newFields name).map .inputField) :
    ∀ d ∈ compareInputFields b.name oldFields newFields, d.Justified old new := by
  refine forall_justified ((forall_mem_compareInputFields hold.nodup).2
    (InputRules.inputField_speaks.onLists hold hnew ?_))
  intro rule name hn hholds message
  refine h.justified_member hkind hk hn ?_
  rw [ham, hbm]
  exact hholds message

theorem Paired.justified_compareArguments (h : Paired old new a b) (hkind : a.kind = b.kind)
    (hk : b.kind = .directive) {label : String} {oldArgs newArgs : List InputValue}
    (hold : MembersWellFormed InputValue.name InputValue.WellFormed oldArgs)
    (hnew : MembersWellFormed InputValue.name InputValue.WellFormed newArgs)
    (haa : ∀ name, a.body.directiveArgument? name =
      (lastNamed? InputValue.name oldArgs name).map .argument)
    (hba : ∀ name, b.body.directiveArgument? name =
      (lastNamed? InputValue.name newArgs name).map .argument) :
    ∀ d ∈ Owner.compareArguments ⟨label, b.key.text⟩ oldArgs newArgs, d.Justified old new := by
  refine forall_justified ((Owner.forall_mem_compareArguments hold.nodup).2
    (InputRules.argument_speaks.onLists hold hnew ?_))
  intro rule name hn hholds message
  refine h.justified_directiveArgument hkind hk hn ?_
  rw [haa, hba]
  exact hholds message

theorem Paired.justified_compareInterfaces (h : Paired old new a b) (hkind : a.kind = b.kind)
    (hk : b.kind ≠ .directive) :
    ∀ d ∈ compareInterfaces b.name b.body.label a.body.interfaces b.body.interfaces,
      d.Justified old new := by
  unfold compareInterfaces
  refine forall_mem_compareNames.2 ⟨fun name hn hnot => ?_, fun name hn hnot => ?_⟩
  · exact h.justified_type hkind hk ⟨a, b, rfl, rfl, name, hn, hnot, quotes_interfaceRemoved _ _⟩
  · exact h.justified_type hkind hk ⟨a, b, rfl, rfl, name, hn, hnot, quotes_interfaceAdded _ _⟩

theorem Paired.justified_compareUnionMembers (h : Paired old new a b) (hkind : a.kind = b.kind)
    (hk : b.kind ≠ .directive) :
    ∀ d ∈ compareUnionMembers b.name a.body.unionMembers b.body.unionMembers,
      d.Justified old new := by
  unfold compareUnionMembers
  refine forall_mem_compareNames.2 ⟨fun name hn hnot => ?_, fun name hn hnot => ?_⟩
  · exact h.justified_type hkind hk ⟨a, b, rfl, rfl, name, hn, hnot, quotes_memberRemoved _ _⟩
  · exact h.justified_type hkind hk ⟨a, b, rfl, rfl, name, hn, hnot, quotes_memberAdded _ _⟩

theorem Paired.justified_compareLocations (h : Paired old new a b) (hkind : a.kind = b.kind)
    (hk : b.kind = .directive) (label : String) :
    ∀ d ∈ compareLocations label b.key a.body.locations b.body.locations,
      d.Justified old new := by
  refine forall_mem_compareNames.2 ⟨fun name hn hnot => ?_, fun name hn hnot => ?_⟩
  · exact h.justified_directive hkind hk
      ⟨a, b, rfl, rfl, name, hn, hnot, quotes_locationRemoved _ _⟩
  · exact h.justified_directive hkind hk
      ⟨a, b, rfl, rfl, name, hn, hnot, quotes_locationAdded _ _⟩

theorem Paired.justified_compareSpecifiedBy (h : Paired old new a b) (hkind : a.kind = b.kind)
    (hk : b.kind ≠ .directive) :
    ∀ d ∈ compareSpecifiedBy b.name a.body.specifiedBy b.body.specifiedBy,
      d.Justified old new := by
  refine forall_justified (forall_mem_compareSpecifiedBy.2 fun hne message => ?_)
  exact h.justified_type hkind hk ⟨a, b, rfl, rfl, hne⟩

theorem Paired.justified_compareDirectiveDescription (h : Paired old new a b) (hkind : a.kind = b.kind)
    (hk : b.kind = .directive) (label : String) :
    ∀ d ∈ compareDirectiveDescription label b.key a.description b.description,
      d.Justified old new := by
  refine forall_justified (forall_mem_compareDirectiveDescription.2 fun hne message => ?_)
  exact h.justified_directive hkind hk ⟨a, b, rfl, rfl, hne⟩

theorem Paired.justified_compareRepeatable (h : Paired old new a b) (hkind : a.kind = b.kind)
    (hk : b.kind = .directive) (ha : a.body.repeatable ≠ none)
    (hb : b.body.repeatable ≠ none) (name : Name) :
    ∀ d ∈ compareRepeatable name b.key a.body.repeatable b.body.repeatable,
      d.Justified old new := by
  refine forall_justified (forall_mem_compareRepeatable.2 fun hne message => ?_)
  refine h.justified_directive hkind hk ?_
  obtain ⟨o, ho⟩ := Option.ne_none_iff_exists'.1 ha
  obtain ⟨n, hn⟩ := Option.ne_none_iff_exists'.1 hb
  rw [ho, hn] at hne
  rw [hn]
  cases o <;> cases n
  · exact absurd rfl hne
  · exact ⟨a, b, rfl, rfl, ho, hn⟩
  · exact ⟨a, b, rfl, rfl, ho, hn⟩
  · exact absurd rfl hne

/-! ## All detections -/

/-- What is reported of two definitions under one key is justified. -/
theorem Paired.justified_compare (h : Paired old new a b) :
    ∀ d ∈ a.compare b, d.Justified old new := by
  by_cases hkind : a.kind = b.kind
  · obtain ⟨oldName, oldDescription, oldBody⟩ := a
    obtain ⟨newName, newDescription, newBody⟩ := b
    have hob : oldBody.WellFormed := h.oldWellFormed.body
    have hnb : newBody.WellFormed := h.newWellFormed.body
    cases Body.sameClass_of_kind_eq hkind with
    | object | interface =>
      refine List.forall_mem_append.2 ⟨List.forall_mem_append.2 ⟨?_, ?_⟩, ?_⟩
      · exact h.justified_compareDescription hkind nofun
      · exact h.justified_compareFields hkind nofun hob.1 hnb.1 (fun _ => rfl)
          (fun _ => rfl) (fun _ _ => rfl) fun _ _ => rfl
      · exact h.justified_compareInterfaces hkind nofun
    | union =>
      refine List.forall_mem_append.2 ⟨?_, ?_⟩
      · exact h.justified_compareDescription hkind nofun
      · exact h.justified_compareUnionMembers hkind nofun
    | enum =>
      refine List.forall_mem_append.2 ⟨?_, ?_⟩
      · exact h.justified_compareDescription hkind nofun
      · exact h.justified_compareEnumValues hkind nofun hob hnb (fun _ => rfl) fun _ => rfl
    | input =>
      refine List.forall_mem_append.2 ⟨?_, ?_⟩
      · exact h.justified_compareDescription hkind nofun
      · exact h.justified_compareInputFields hkind nofun hob hnb (fun _ => rfl)
          fun _ => rfl
    | scalar =>
      refine List.forall_mem_append.2 ⟨?_, ?_⟩
      · exact h.justified_compareDescription hkind nofun
      · exact h.justified_compareSpecifiedBy hkind nofun
    | directive =>
      refine List.forall_mem_append.2 ⟨List.forall_mem_append.2
        ⟨List.forall_mem_append.2 ⟨?_, ?_⟩, ?_⟩, ?_⟩
      · exact h.justified_compareDirectiveDescription hkind rfl _
      · exact h.justified_compareArguments hkind rfl hob.2.1 hnb.2.1 (fun _ => rfl) fun _ => rfl
      · exact h.justified_compareLocations hkind rfl _
      · exact h.justified_compareRepeatable hkind rfl hob.2.2 hnb.2.2 _
  · -- as the key is one, neither is a directive
    have hdirective := Definition.directive_iff_of_key_eq h.oldWellFormed h.newWellFormed h.key
    have ha : a.kind ≠ .directive := fun ha => hkind (ha.trans (hdirective.1 ha).symm)
    have hb : b.kind ≠ .directive := fun hb => hkind ((hdirective.2 hb).trans hb.symm)
    rw [Definition.compare_of_kind_ne hkind]
    refine List.forall_mem_singleton.2 ?_
    rw [kindChanged, ← Definition.key_eq_name hb]
    refine h.justified_definition ?_ fun hrule => absurd rfl hrule
    rw [Definition.element_eq_type ha, Definition.element_eq_type hb]
    exact ⟨a, b, rfl, rfl, hkind⟩

theorem TypeMap.element?_place_of_get? {types : TypeMap} (hwf : a.WellFormed) {found : Definition}
    (h : Keyed.get? types a.key = some found) : types.element? a.place = some found.element := by
  rw [TypeMap.element?, owner?_place hwf, h, Option.bind_some, element?_place]

theorem TypeMap.element?_place_of_get?_eq_none {types : TypeMap} (hwf : a.WellFormed)
    (h : Keyed.get? types a.key = none) : types.element? a.place = none := by
  rw [TypeMap.element?, owner?_place hwf, h, Option.bind_none]

theorem definitionRemoved_justified (hwf : a.WellFormed) (ha : Keyed.get? old a.key = some a)
    (hnone : Keyed.get? new a.key = none) :
    (definitionRemoved a.kind a.name).Justified old new := by
  have howner : new.owner? a.place = none := (owner?_place hwf).trans hnone
  refine ⟨a.place, ?_, ?_, fun _ x y _ hy => ?_⟩
  · have hpath := namesPlace_key hwf
    unfold definitionRemoved
    split <;> exact hpath
  · rw [TypeMap.element?_place_of_get? hwf ha, TypeMap.element?_place_of_get?_eq_none hwf hnone]
    unfold definitionRemoved
    split
    · rename_i hk
      exact ⟨⟨a, congrArg some (Definition.element_eq_directive hk)⟩, rfl⟩
    · rename_i hk
      exact ⟨⟨a, congrArg some (Definition.element_eq_type hk)⟩, rfl⟩
  · rw [howner] at hy
    exact nomatch hy

theorem definitionAdded_justified (hwf : a.WellFormed) (ha : Keyed.get? new a.key = some a)
    (hnone : Keyed.get? old a.key = none) :
    (definitionAdded a.kind a.name).Justified old new := by
  have howner : old.owner? a.place = none := (owner?_place hwf).trans hnone
  refine ⟨a.place, ?_, ?_, fun _ x y hx _ => ?_⟩
  · have hpath := namesPlace_key hwf
    unfold definitionAdded
    split <;> exact hpath
  · rw [TypeMap.element?_place_of_get? hwf ha, TypeMap.element?_place_of_get?_eq_none hwf hnone]
    unfold definitionAdded
    split
    · rename_i hk
      exact ⟨rfl, a, congrArg some (Definition.element_eq_directive hk), trivial⟩
    · rename_i hk
      exact ⟨rfl, a, congrArg some (Definition.element_eq_type hk), trivial⟩
  · rw [howner] at hx
    exact nomatch hx

/-- **Every detection is justified.**  Whatever is detected between two well-formed
versions, its path names a place, and what its rule says of that place is true. -/
theorem forall_detections_justified (hold : old.WellFormed) (hnew : new.WellFormed) :
    ∀ d ∈ (Snapshot.ofTypeMaps old new).detections, d.Justified old new := by
  refine (forall_mem_detections hold hnew).2 ⟨?_, ?_, ?_⟩
  · intro key a ha hnone
    obtain ⟨hwf, rfl⟩ := hold.of_get? ha
    exact definitionRemoved_justified hwf ha hnone
  · intro key b hb hnone
    obtain ⟨hwf, rfl⟩ := hnew.of_get? hb
    exact definitionAdded_justified hwf hb hnone
  · intro key a b ha hb
    obtain ⟨hwa, hka⟩ := hold.of_get? ha
    obtain ⟨hwb, rfl⟩ := hnew.of_get? hb
    exact Paired.justified_compare ⟨hka, ha, hb, hwa, hwb⟩

/-- A small schema: a type, an enum and a directive. -/
def media : TypeMap := .ofDefinitions
  [⟨some "Film", none, .object
      [⟨some "title", .named "String", [⟨some "case", .named "Case", none, none⟩], none, none⟩]
      [some "Node"]⟩,
    ⟨some "Case", none, .enum [⟨some "UPPER", none, none⟩, ⟨some "LOWER", none, none⟩]⟩,
    ⟨some "auth", none, .directive [some "FIELD"] [⟨some "role", .named "Role", none, none⟩]
      (some true)⟩]

/-- Another version of it, with changes at all depths. -/
def mediaRevised : TypeMap := .ofDefinitions
  [⟨some "Film", some "A film", .object
      [⟨some "title", .nonNull (.named "String"),
        [⟨some "size", .nonNull (.named "Int"), none, none⟩], none, some "use name"⟩] []⟩,
    ⟨some "Case", none, .union [some "Film"]⟩,
    ⟨some "auth", none, .directive [some "FIELD"]
      [⟨some "role", .nonNull (.named "Role"), none, none⟩] (some false)⟩]

theorem media_justified :
    media.WellFormed ∧ mediaRevised.WellFormed ∧
      (Snapshot.ofTypeMaps media mediaRevised).detections.map (fun d => (d.rule, d.path)) =
        [(.typeDescriptionAdded, some "Film"),
          (.fieldNullabilityTightened, some "Film.title"),
          (.fieldDeprecationAdded, some "Film.title"),
          (.fieldDeprecationReasonAdded, some "Film.title"),
          (.argumentRemoved, some "Film.title.case"),
          (.requiredArgumentAdded, some "Film.title.size"),
          (.interfaceImplementationRemoved, some "Film"),
          (.typeKindChanged, some "Case"),
          (.argumentNullabilityTightened, some "@auth.role"),
          (.directiveRepeatableRemoved, some "@auth")] ∧
      ∀ d ∈ (Snapshot.ofTypeMaps media mediaRevised).detections,
        d.Justified media mediaRevised := by
  have hold : media.WellFormed := by decide
  have hnew : mediaRevised.WellFormed := by decide
  exact ⟨hold, hnew, by decide, forall_detections_justified hold hnew⟩

end SchemaDrift
