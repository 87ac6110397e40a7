import SchemaDrift.Config.Environment

/-!
# What variables give

* `isOk_bind_pure`, `isOk_mapM`, `isOk_foldlM_map` — when readings in several steps succeed.
* `given_of_unset` — variables of which none starts like a setting give nothing.
* `VariableRules.Unreadable` — the variables that cannot be read.
* `isOk_given` — variables give something exactly if all can be read.
-/

namespace SchemaDrift

/-! ## Success -/

section Success

variable {ε α β γ : Type}

theorem isOk_bind_pure (first : Except ε α) (f : α → β) :
    (first >>= fun value => pure (f value)).isOk = first.isOk := by
  cases first <;> rfl

theorem isOk_mapM (read : α → Except ε β) (items : List α) :
    (items.mapM read).isOk = items.all fun item => (read item).isOk := by
  induction items with
  | nil => rfl
  | cons item items ih =>
    rw [List.mapM_cons, List.all_cons, ← ih]
    cases read item with
    | error fault => rfl
    | ok found => exact isOk_bind_pure _ (found :: ·)

/-- What is made of the items before one has no part in whether it is read. -/
theorem isOk_foldlM_map (read : α → Except ε β) (put : γ → β → γ) (items : List α) (first : γ) :
    (items.foldlM (fun found item => (read item).map (put found)) first).isOk =
      items.all fun item => (read item).isOk := by
  induction items generalizing first with
  | nil => rfl
  | cons item items ih =>
    rw [List.foldlM_cons, List.all_cons]
    cases read item with
    | error fault => rfl
    | ok found => exact ih _

end Success

namespace VariableRules

variable {rules : VariableRules} {environment : Environment} {known : Keyed String (Option String)}
  {start : String}

/-! ## Names -/

theorem folded_append (rules : VariableRules) (front back : String) :
    rules.folded (front ++ back) = rules.folded front ++ rules.folded back := by
  unfold folded lowerCase
  split
  · rfl
  · rw [String.toList_append, List.map_append, String.ofList_append]

/-- What is compared are the names of variables. -/
theorem exists_of_mem_compared {name : String}
    (h : name ∈ Keyed.keys (rules.compared environment)) :
    ∃ given ∈ environment, rules.folded given.1 = name := by
  have hmem := Keyed.mem_keys_of_mem_ofList h
  rw [Keyed.keys, List.map_map, List.mem_map] at hmem
  obtain ⟨entry, hentry, rfl⟩ := hmem
  exact ⟨entry, (List.mem_filter.1 hentry).1, rfl⟩

/-- No name starts like those of the settings. -/
def Unset (rules : VariableRules) (start : String) (known : Keyed String (Option String)) : Prop :=
  ∀ name ∈ Keyed.keys known, ¬ (rules.folded start).toList <+: name.toList

theorem Unset.get?_eq (h : rules.Unset start known) (setting : String) :
    known.get? (rules.nameOf start setting) = none := by
  rw [Keyed.get?_eq_none_iff]
  intro hmem
  refine h _ hmem ?_
  rw [nameOf, folded_append, String.toList_append]
  exact List.prefix_append ..

/-! ## The variables below a group -/

/-- What the names of the variables below a group start with. -/
def opening (rules : VariableRules) (start : String) (group : VariableGroup) : List Char :=
  (rules.nameOf start group.name ++ rules.delimiter).toList

/-- The variables below a group. -/
def chosen (rules : VariableRules) (known : Keyed String (Option String)) (start : String)
    (group : VariableGroup) : Keyed String (Option String) :=
  known.filter fun entry =>
    rules.delimiter != "" && (rules.opening start group).isPrefixOf entry.1.toList

/-- The names that a variable below a group leads through, and its value. -/
def valueRead (rules : VariableRules) (start : String) (group : VariableGroup)
    (entry : String × Option String) : Except VariableFault (List String × Placed) := do
  let path ← rules.pathOf (entry.1.toList.drop (rules.opening start group).length)
  return (path, ← rules.valueBelow start group path entry.2)

theorem below_eq (rules : VariableRules) (known : Keyed String (Option String)) (start : String)
    (group : VariableGroup) : rules.below known start group =
      (rules.chosen known start group).foldlM
        (fun members entry => (rules.valueRead start group entry).map fun read =>
          Given.place read.2 read.1 members) [] := by
  unfold below
  refine congrArg (fun step => List.foldlM step [] (rules.chosen known start group)) ?_
  funext members entry
  unfold valueRead opening
  cases rules.pathOf (entry.1.toList.drop
    (rules.nameOf start group.name ++ rules.delimiter).toList.length) with
  | error fault => rfl
  | ok path =>
    show (rules.valueBelow start group path entry.2).bind _ =
      Except.map _ ((rules.valueBelow start group path entry.2).bind _)
    cases rules.valueBelow start group path entry.2 <;> rfl

theorem Unset.group_eq (h : rules.Unset start known) (group : VariableGroup) :
    rules.group known start group = .ok [] := by
  have hchosen : rules.chosen known start group = [] := by
    refine List.filter_eq_nil_iff.2 fun entry hentry hstarts => ?_
    refine h entry.1 (List.mem_map_of_mem hentry) ?_
    have hprefix := List.isPrefixOf_iff_prefix.1 (Bool.and_eq_true_iff.1 hstarts).2
    rw [opening, nameOf, folded_append, String.toList_append, String.toList_append,
      List.append_assoc] at hprefix
    exact (List.prefix_append ..).trans hprefix
  unfold VariableRules.group
  rw [h.get?_eq, below_eq, hchosen]
  rfl

/-! ## Readable variables -/

/-- The value is JSON that is not nested too deep. -/
def HoldsJson (value : String) : Prop :=
  ∃ json, Json.read? .loose value = some json ∧ json.depth ≤ depthLimit

/-- The variables below a group count unless one names the group as a whole; then they do if
that holds an object. -/
def IsOpen (rules : VariableRules) (known : Keyed String (Option String)) (start : String)
    (group : VariableGroup) : Prop :=
  known.get? (rules.nameOf start group.name) = none ∨
    ∃ value members, known.get? (rules.nameOf start group.name) = some (some value) ∧
      Json.read? .loose value = some (.object members) ∧ (Json.object members).depth ≤ depthLimit

/-- A variable with the given value stands below a group, under names that the given rest
leads through. -/
def IsBelow (rules : VariableRules) (known : Keyed String (Option String)) (start : String)
    (group : VariableGroup) (rest : List Char) (value : Option String) : Prop :=
  rules.delimiter ≠ "" ∧ ∃ name, (name, value) ∈ known ∧
    name.toList = (rules.nameOf start group.name ++ rules.delimiter).toList ++ rest

/-- A name is that of a group within another one. -/
def IsInner (rules : VariableRules) (start : String) (group : VariableGroup) (name : String) :
    Prop :=
  ∃ inner ∈ group.names, inner.2 ≠ [] ∧ (inner.1 = name ∨ rules.nameOf start inner.1 = name)

/-- A value as it is written. -/
def written (rules : VariableRules) (value : Option String) : String :=
  value.getD (rules.nullWord.getD "")

/-- There is a variable that cannot be read. -/
inductive Unreadable (rules : VariableRules) (known : Keyed String (Option String))
    (start : String) : Prop where
  /-- It names a group and holds no JSON. -/
  | group {group : VariableGroup} {value : String} (knownGroup : group ∈ variableGroups)
      (namesGroup : known.get? (rules.nameOf start group.name) = some (some value))
      (noJson : ¬ HoldsJson value)
  /-- It names a group within another one, is not empty, and holds no JSON. -/
  | inner {group : VariableGroup} {rest : List Char} {value : Option String} {name : String}
      (knownGroup : group ∈ variableGroups) (isOpen : rules.IsOpen known start group)
      (isBelow : rules.IsBelow known start group rest value)
      (isLast : rules.pathOf rest = .ok [name]) (isInner : rules.IsInner start group name)
      (nonempty : rules.written value ≠ "") (noJson : ¬ HoldsJson (rules.written value))
  /-- It stands below a group, and no names can be split. -/
  | unsplit {group : VariableGroup} {rest : List Char} {value : Option String}
      (knownGroup : group ∈ variableGroups) (isOpen : rules.IsOpen known start group)
      (isBelow : rules.IsBelow known start group rest value)
      (unsplittable : rules.limit = .fractional)

theorem isOk_jsonOf {value : String} : (jsonOf value).isOk = true ↔ HoldsJson value := by
  unfold jsonOf HoldsJson
  cases Json.read? .loose value with
  | none => exact iff_of_false Bool.false_ne_true fun ⟨_, h, _⟩ => absurd h nofun
  | some json =>
    have hjson : (∃ found, some json = some found ∧ found.depth ≤ depthLimit) ↔
        json.depth ≤ depthLimit :=
      ⟨fun ⟨_, hfound, hdepth⟩ => Option.some.inj hfound ▸ hdepth,
        fun hdepth => ⟨json, rfl, hdepth⟩⟩
    rw [hjson]
    dsimp only
    split
    case isTrue hdepth => exact iff_of_true rfl hdepth
    case isFalse hdepth => exact iff_of_false Bool.false_ne_true hdepth

theorem isOk_pathOf {rest : List Char} :
    (rules.pathOf rest).isOk = true ↔ rules.limit ≠ .fractional := by
  unfold pathOf
  cases rules.limit with
  | unlimited => exact iff_of_true rfl nofun
  | atMost times => exact iff_of_true rfl nofun
  | fractional => exact iff_of_false Bool.false_ne_true fun h => h rfl

theorem any_names_iff {group : VariableGroup} {name : String} :
    (group.names.any fun inner => !inner.2.isEmpty &&
      (inner.1 == name || rules.nameOf start inner.1 == name)) = true ↔
      rules.IsInner start group name := by
  simp [IsInner, List.any_eq_true]

theorem isOk_valueBelow {group : VariableGroup} {path : List String} {value : Option String} :
    (rules.valueBelow start group path value).isOk = true ↔
      ∀ name, path = [name] → rules.IsInner start group name → rules.written value ≠ "" →
        HoldsJson (rules.written value) := by
  unfold valueBelow
  dsimp only
  split
  case h_1 name =>
    split
    case isTrue hread =>
      obtain ⟨hnonempty, hinner⟩ := Bool.and_eq_true_iff.1 hread
      rw [isOk_bind_pure, isOk_jsonOf]
      exact ⟨fun hjson _ _ _ _ => hjson,
        fun h => h name rfl (any_names_iff.1 hinner) (bne_iff_ne.1 hnonempty)⟩
    case isFalse hread =>
      refine iff_of_true rfl fun other hother hinner hnonempty => absurd ?_ hread
      obtain rfl := List.singleton_inj.1 hother
      exact Bool.and_eq_true_iff.2 ⟨bne_iff_ne.2 hnonempty, any_names_iff.2 hinner⟩
  case h_2 hpath => exact iff_of_true rfl fun name hname => absurd hname (hpath name)

/-- A variable below a group that is read. -/
def Legible (rules : VariableRules) (start : String) (group : VariableGroup) (rest : List Char)
    (value : Option String) : Prop :=
  rules.limit ≠ .fractional ∧ ∀ name, rules.pathOf rest = .ok [name] →
    rules.IsInner start group name → rules.written value ≠ "" → HoldsJson (rules.written value)

theorem isOk_valueRead {group : VariableGroup} {rest : List Char} {entry : String × Option String}
    (hrest : entry.1.toList = rules.opening start group ++ rest) :
    (rules.valueRead start group entry).isOk = true ↔ rules.Legible start group rest entry.2 := by
  have hpath : (rules.pathOf rest).isOk = true ↔ rules.limit ≠ .fractional := isOk_pathOf
  unfold valueRead Legible
  rw [hrest, List.drop_left, ← hpath]
  cases rules.pathOf rest with
  | error fault => exact iff_of_false Bool.false_ne_true fun h => Bool.false_ne_true h.1
  | ok path =>
    show (rules.valueBelow start group path entry.2 >>= fun value => pure (path, value)).isOk =
      true ↔ _
    rw [isOk_bind_pure, isOk_valueBelow]
    exact ⟨fun h => ⟨rfl, fun name hname => h name (Except.ok.inj hname)⟩,
      fun h name hname => h.2 name (congrArg Except.ok hname)⟩

theorem mem_chosen_iff {group : VariableGroup} {entry : String × Option String} :
    entry ∈ rules.chosen known start group ↔ rules.delimiter ≠ "" ∧ entry ∈ known ∧
      ∃ rest, entry.1.toList = rules.opening start group ++ rest := by
  rw [chosen, List.mem_filter, Bool.and_eq_true, bne_iff_ne, List.isPrefixOf_iff_prefix,
    List.prefix_iff_exists_append_eq]
  simp only [eq_comm (b := entry.1.toList)]
  exact and_left_comm

theorem isOk_below {group : VariableGroup} : (rules.below known start group).isOk = true ↔
    ∀ rest value, rules.IsBelow known start group rest value →
      rules.Legible start group rest value := by
  rw [below_eq, isOk_foldlM_map, List.all_eq_true]
  constructor
  · rintro h rest value ⟨hdelimiter, name, hmem, hname⟩
    have hchosen : (name, value) ∈ rules.chosen known start group :=
      mem_chosen_iff.2 ⟨hdelimiter, hmem, rest, hname⟩
    exact (isOk_valueRead hname).1 (h (name, value) hchosen)
  · intro h entry hentry
    obtain ⟨hdelimiter, hmem, rest, hrest⟩ := mem_chosen_iff.1 hentry
    exact (isOk_valueRead hrest).2 (h rest entry.2 ⟨hdelimiter, entry.1, hmem, hrest⟩)

theorem jsonOf_eq_group_iff {value : String} : (∃ members, jsonOf value = .ok (.group members)) ↔
    ∃ members, Json.read? .loose value = some (.object members) ∧
      (Json.object members).depth ≤ depthLimit := by
  unfold jsonOf
  constructor
  · rintro ⟨members, h⟩
    split at h
    case h_2 => exact absurd h nofun
    case h_1 json hread =>
      split at h
      case isFalse => exact absurd h nofun
      case isTrue hdepth =>
        cases json with
        | object found => exact ⟨found, hread, hdepth⟩
        | _ => exact absurd (Except.ok.inj h) nofun
  · rintro ⟨members, hread, hdepth⟩
    rw [hread]
    dsimp only
    rw [if_pos hdepth]
    exact ⟨_, rfl⟩

theorem isOk_group_of_none {group : VariableGroup}
    (h : known.get? (rules.nameOf start group.name) = none) :
    (rules.group known start group).isOk = (rules.below known start group).isOk := by
  unfold VariableRules.group
  rw [h]
  show ((rules.below known start group).bind _).isOk = _
  cases rules.below known start group with
  | error fault => rfl
  | ok members => cases members <;> rfl

theorem isOk_group_of_value {group : VariableGroup} {value : String}
    (h : known.get? (rules.nameOf start group.name) = some (some value)) :
    (rules.group known start group).isOk = true ↔ (jsonOf value).isOk = true ∧
      ((∃ members, jsonOf value = .ok (.group members)) →
        (rules.below known start group).isOk = true) := by
  unfold VariableRules.group
  rw [h]
  show ((jsonOf value).bind _).isOk = true ↔ _
  cases jsonOf value with
  | error fault => exact iff_of_false Bool.false_ne_true fun h => Bool.false_ne_true h.1
  | ok given =>
    cases given with
    | group members =>
      show (rules.below known start group >>= fun below => pure _).isOk = true ↔ _
      rw [isOk_bind_pure]
      exact ⟨fun h => ⟨rfl, fun _ => h⟩, fun h => h.2 ⟨members, rfl⟩⟩
    | _ => exact iff_of_true rfl ⟨rfl, fun ⟨_, hgroup⟩ => absurd (Except.ok.inj hgroup) nofun⟩

/-- What is read for a group: its own value, and what is below it if that counts. -/
theorem isOk_group {group : VariableGroup} : (rules.group known start group).isOk = true ↔
    (∀ value, known.get? (rules.nameOf start group.name) = some (some value) → HoldsJson value) ∧
      (rules.IsOpen known start group → (rules.below known start group).isOk = true) := by
  unfold IsOpen
  cases hknown : known.get? (rules.nameOf start group.name) with
  | none =>
    rw [isOk_group_of_none hknown]
    exact ⟨fun h => ⟨nofun, fun _ => h⟩, fun h => h.2 (.inl rfl)⟩
  | some given =>
    cases given with
    | none =>
      -- A group that is set to null hides the variables below it.
      have hread : (rules.group known start group).isOk = true := by
        unfold VariableRules.group
        rw [hknown]
        rfl
      refine iff_of_true hread ⟨nofun, fun hopen => ?_⟩
      rcases hopen with h | ⟨_, _, h, -⟩
      · exact absurd h nofun
      · exact absurd h nofun
    | some value =>
      rw [isOk_group_of_value hknown, isOk_jsonOf, jsonOf_eq_group_iff]
      refine and_congr ⟨fun h found hfound => ?_, fun h => h value rfl⟩
        ⟨fun h hopen => ?_, fun h hgroup => ?_⟩
      · obtain rfl := Option.some.inj (Option.some.inj hfound)
        exact h
      · rcases hopen with hnone | ⟨found, members, hfound, hread⟩
        · exact absurd hnone nofun
        · obtain rfl := Option.some.inj (Option.some.inj hfound)
          exact h ⟨members, hread⟩
      · obtain ⟨members, hread⟩ := hgroup
        exact h (.inr ⟨value, members, rfl, hread⟩)

/-- All groups are read unless there is a variable that cannot be. -/
theorem isOk_groups_iff : (∀ group ∈ variableGroups, (rules.group known start group).isOk = true) ↔
    ¬ rules.Unreadable known start := by
  constructor
  · intro h hunreadable
    cases hunreadable with
    | group hgroup hnamed hjson => exact hjson ((isOk_group.1 (h _ hgroup)).1 _ hnamed)
    | inner hgroup hopen hbelow hlast hinner hnonempty hjson =>
      have hlegible := isOk_below.1 ((isOk_group.1 (h _ hgroup)).2 hopen) _ _ hbelow
      exact hjson (hlegible.2 _ hlast hinner hnonempty)
    | unsplit hgroup hopen hbelow hlimit =>
      exact (isOk_below.1 ((isOk_group.1 (h _ hgroup)).2 hopen) _ _ hbelow).1 hlimit
  · intro h group hgroup
    refine isOk_group.2 ⟨fun value hvalue => ?_, fun hopen => isOk_below.2 fun rest value hbelow =>
      ⟨fun hlimit => h (.unsplit hgroup hopen hbelow hlimit),
        fun name hlast hinner hnonempty => ?_⟩⟩
    · exact Classical.byContradiction fun hjson => h (.group hgroup hvalue hjson)
    · exact Classical.byContradiction fun hjson =>
        h (.inner hgroup hopen hbelow hlast hinner hnonempty hjson)

end VariableRules

/-- No variable has a name that those of the settings start with, in upper or lower case. -/
def Environment.Unset (environment : Environment) : Prop :=
  ∀ given ∈ environment, ¬ (lowerCase "SCHEMAGUARD_").toList <+: (lowerCase given.1).toList

instance Environment.Unset.decidable (environment : Environment) :
    Decidable environment.Unset :=
  inferInstanceAs (Decidable (∀ given ∈ environment, _))

/-- Variables of which none starts like a setting give nothing. -/
theorem given_of_unset {rules : VariableRules} {environment : Environment} {start : String}
    (hstart : rules.start = some start)
    (h : ∀ given ∈ environment,
      ¬ (rules.folded start).toList <+: (rules.folded given.1).toList) :
    environment.given rules = .ok [] := by
  have hunset : rules.Unset start (rules.compared environment) := by
    intro name hname
    obtain ⟨given, hgiven, rfl⟩ := VariableRules.exists_of_mem_compared hname
    exact h given hgiven
  unfold Environment.given
  rw [hstart]
  dsimp only
  rw [hunset.get?_eq]
  simp only [variableGroups, List.mapM_cons, List.mapM_nil, hunset.group_eq]
  rfl

/-- Variables give something exactly if their names can be made up and none is unreadable. -/
theorem isOk_given {rules : VariableRules} {environment : Environment} :
    (environment.given rules).isOk = true ↔ ∃ start, rules.start = some start ∧
      ¬ rules.Unreadable (rules.compared environment) start := by
  unfold Environment.given
  cases rules.start with
  | none => exact iff_of_false Bool.false_ne_true fun ⟨_, h, _⟩ => absurd h nofun
  | some start =>
    dsimp only
    rw [isOk_bind_pure, isOk_mapM, List.all_eq_true, VariableRules.isOk_groups_iff]
    exact ⟨fun h => ⟨start, rfl, h⟩, fun ⟨_, hstart, h⟩ => Option.some.inj hstart ▸ h⟩

end SchemaDrift
