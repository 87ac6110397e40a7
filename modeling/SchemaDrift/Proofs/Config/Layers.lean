import SchemaDrift.Command.Run
import SchemaDrift.Proofs.Config.Sources
import SchemaDrift.Proofs.Toml.Names

/-!
# Layers of settings

A setting has the value that the file gives for it, or else the one that the variables give, or
else its standard value, whatever holds for the other settings.

* `Given.at?` — the value that names lead to.
* `Given.Filed` — members as a file gives them, of which no two have one name.
* `Given.Overlays` — members in which those of one group go before those of another.
* `Layered` — where the value of a setting comes from.
* `layered_of_settingOf`, `Settings.layers_of_ofGiven` — one setting, and all of them.
-/

namespace SchemaDrift

open Toml (Unambiguous)

namespace Given

/-! ## Values in groups -/

/-- The members of the group of a name; there are none without such a group. -/
def inner (members : Keyed String Given) (name : String) : Keyed String Given :=
  match members.get? name with
  | some (.group others) => others
  | _ => []

/-- The value that names lead to, from group to group. -/
def at? : Keyed String Given → List String → Option Given
  | _, [] => none
  | members, [name] => members.get? name
  | members, name :: next :: rest => at? (inner members name) (next :: rest)

/-- Members as a file gives them: no two have one name, in the groups within neither. -/
def Filed (members : Keyed String Given) : Prop :=
  ∃ table, Unambiguous Toml.Distinct table ∧ members = ofTomlMembers table

theorem ofTomlMembers_eq (table : List (String × Toml)) :
    ofTomlMembers table = table.map fun member => (member.1, ofToml member.2) := by
  induction table with
  | nil => rfl
  | cons member rest ih => rw [ofTomlMembers, ih, List.map_cons]

namespace Filed

variable {members others : Keyed String Given} {name : String}

theorem nil : Filed [] := ⟨[], .nil, rfl⟩

theorem nodup (h : Filed members) : (Keyed.keys members).Nodup := by
  obtain ⟨table, htable, rfl⟩ := h
  rw [ofTomlMembers_eq, Keyed.keys, List.map_map]
  exact htable.names

theorem of_get? (h : Filed members) (hgroup : members.get? name = some (.group others)) :
    Filed others := by
  obtain ⟨table, htable, rfl⟩ := h
  rw [ofTomlMembers_eq, Keyed.get?_map, Option.map_eq_some_iff] at hgroup
  obtain ⟨value, hvalue, hgroup⟩ := hgroup
  cases value with
  | table inner =>
    exact ⟨inner, Toml.distinct_table_iff.1 (htable.of_get? hvalue), (Given.group.inj hgroup).symm⟩
  | _ => exact nomatch hgroup

theorem inner (h : Filed members) (name : String) : Filed (inner members name) := by
  unfold Given.inner
  split
  · rename_i others hgroup
    exact h.of_get? hgroup
  · exact nil

end Filed

/-! ## Merging -/

/-- Nothing but a group is changed by what it goes before. -/
theorem before_group_or (below : Option Given) (value : Given) :
    (∃ members, value = group members) ∨ before below value = value := by
  cases value with
  | group members => exact .inl ⟨members, rfl⟩
  | _ => exact .inr (by rw [before])

theorem exists_before_group (below : Option Given) (members : Keyed String Given) :
    ∃ merged, before below (group members) = group merged := by
  unfold before
  split
  · exact ⟨_, rfl⟩
  · exact ⟨_, rfl⟩

@[simp] theorem before_none (value : Given) : before none value = value := by
  cases value <;> rw [before]
  exact nofun

/-- In the members merged, those of one group go before those of another, each by itself. -/
def Overlays (below above merged : Keyed String Given) : Prop :=
  ∀ name, merged.get? name =
    (above.get? name).elim (below.get? name) fun value => some (before (below.get? name) value)

theorem overlays_nil_right (below : Keyed String Given) : Overlays below [] below := fun _ => rfl

theorem overlays_nil_left (above : Keyed String Given) : Overlays [] above above := by
  intro name
  cases hvalue : above.get? name with
  | none => rfl
  | some value => simp

theorem overlays_merge {above : Keyed String Given} (h : (Keyed.keys above).Nodup)
    (below : Keyed String Given) : Overlays below above (merge below above) := by
  intro name
  induction above generalizing below with
  | nil => rfl
  | cons member rest ih =>
    obtain ⟨first, value⟩ := member
    obtain ⟨hfirst, hrest⟩ := List.nodup_cons.1 h
    -- No later member has the name of the first, so what is put for it stays.
    have hnone : Keyed.get? rest first = none := Keyed.get?_eq_none_iff.2 hfirst
    rw [merge, ih hrest, Keyed.get?_cons]
    by_cases hname : first = name
    · subst hname
      rw [if_pos (beq_self_eq_true first), hnone, Keyed.get?_put_self]
      rfl
    · rw [if_neg (by simpa using hname), Keyed.get?_put_of_ne _ _ hname]

section Overlays

variable {below above merged : Keyed String Given} {name : String}

/-- A group that is found is one in the members that go before, if they have the name. -/
theorem Overlays.exists_group (h : Overlays below above merged)
    (hgroup : ∀ value, merged.get? name = some value → ∃ members, value = group members)
    {value : Given} (hvalue : above.get? name = some value) : ∃ members, value = group members := by
  obtain hmembers | hsame := before_group_or (below.get? name) value
  · exact hmembers
  · refine hgroup value ?_
    rw [h name, hvalue, Option.elim_some, hsame]

/-- Groups of one name overlay each other as the members around them do. -/
theorem Overlays.inner (h : Overlays below above merged) (hfiled : Filed above)
    (hgroup : ∀ value, above.get? name = some value → ∃ members, value = group members) :
    Overlays (inner below name) (inner above name) (inner merged name) := by
  have hmerged := h name
  cases habove : above.get? name with
  | none =>
    rw [habove, Option.elim_none] at hmerged
    unfold Given.inner
    rw [hmerged, habove]
    exact overlays_nil_right _
  | some value =>
    obtain ⟨members, rfl⟩ := hgroup value habove
    have hnodup := (hfiled.of_get? habove).nodup
    rw [habove, Option.elim_some] at hmerged
    unfold Given.inner
    rw [hmerged, habove]
    cases hbelow : below.get? name with
    | none => rw [before_none]; exact overlays_nil_left members
    | some found =>
      cases found with
      | group others => exact overlays_merge hnodup others
      | _ => exact overlays_nil_left members

end Overlays

end Given

/-! ## Where values come from -/

section Layers

variable {α : Type} {read : Given → Option α} {standard value : α} {told : Option α}
  {file environment : Option Given}

/-- The value of a setting is the one that the command is told, or else the one that the file
gives, or else the one that the variables give, or else the standard one. -/
inductive Layered (read : Given → Option α) (standard : α) (told : Option α)
    (file environment : Option Given) : α → Prop where
  | told {value : α} (tells : told = some value) : Layered read standard told file environment value
  | file {given : Given} {value : α} (untold : told = none) (gives : file = some given)
      (reads : read given = some value) : Layered read standard told file environment value
  | environment {given : Given} {value : α} (untold : told = none) (fileless : file = none)
      (gives : environment = some given) (reads : read given = some value) :
      Layered read standard told file environment value
  | standard (untold : told = none) (fileless : file = none) (unset : environment = none) :
      Layered read standard told file environment standard

/-- What the command is told goes before what is configured. -/
theorem Layered.tell (h : Layered read standard none file environment value) (told : Option α) :
    Layered read standard told file environment (told.getD value) := by
  cases told with
  | some value => exact .told rfl
  | none => exact h

/-- The same for a setting that may be set to nothing, which the command cannot be told. -/
theorem Layered.tell_some {read : Given → Option (Option α)} {standard value : Option α}
    (h : Layered read standard none file environment value) (told : Option α) :
    Layered read standard (told.map some) file environment (told.or value) := by
  cases told with
  | some value => exact .told rfl
  | none => exact h

/-- There is only one such value. -/
theorem Layered.unique {other : α} (h : Layered read standard told file environment value)
    (hother : Layered read standard told file environment other) : value = other := by
  cases h <;> cases hother <;> simp_all

theorem settingOf_eq_ok {setting : Setting} {name : String} {members : Keyed String Given}
    (h : settingOf setting name standard read members = .ok value) :
    members.get? name = none ∧ value = standard ∨
      ∃ given, members.get? name = some given ∧ read given = some value := by
  unfold settingOf at h
  cases hgiven : members.get? name with
  | none =>
    rw [hgiven] at h
    exact .inl ⟨rfl, (Except.ok.inj h).symm⟩
  | some given =>
    rw [hgiven] at h
    dsimp only at h
    cases hread : read given with
    | none => rw [hread] at h; cases h
    | some found =>
      rw [hread] at h
      exact .inr ⟨given, rfl, by rw [← Except.ok.inj h, hread]⟩

/-- No group is a value of the setting, so what it goes before makes no difference. -/
theorem read_before (hread : ∀ members, read (.group members) = none) (below : Option Given)
    (given : Given) : read (given.before below) = read given := by
  obtain ⟨members, rfl⟩ | hsame := Given.before_group_or below given
  · obtain ⟨others, hothers⟩ := Given.exists_before_group below members
    rw [hothers, hread, hread]
  · rw [hsame]

/-- A setting that is read from members that overlay others. -/
theorem layered_of_settingOf {below above merged : Keyed String Given} {setting : Setting}
    {name : String} (h : Given.Overlays below above merged)
    (hread : ∀ members, read (.group members) = none)
    (hvalue : settingOf setting name standard read merged = .ok value) :
    Layered read standard none (above.get? name) (below.get? name) value := by
  have hmerged := h name
  cases habove : above.get? name with
  | some given =>
    rw [habove, Option.elim_some] at hmerged
    obtain ⟨hnone, -⟩ | ⟨found, hfound, hfits⟩ := settingOf_eq_ok hvalue
    · exact absurd (hmerged.symm.trans hnone) nofun
    · obtain rfl := Option.some.inj (hmerged.symm.trans hfound)
      exact .file rfl rfl ((read_before hread _ given).symm.trans hfits)
  | none =>
    rw [habove, Option.elim_none] at hmerged
    obtain ⟨hnone, rfl⟩ | ⟨given, hgiven, hfits⟩ := settingOf_eq_ok hvalue
    · exact .standard rfl rfl (hmerged.symm.trans hnone)
    · exact .environment rfl rfl (hmerged.symm.trans hgiven) hfits

end Layers

/-! ## All settings -/

theorem Fitted.both_eq_ok {α β γ : Type} {combine : α → β → γ} {first : Fitted α}
    {second : Fitted β} {found : γ} (h : Fitted.both combine first second = .ok found) :
    ∃ one other, first = .ok one ∧ second = .ok other ∧ combine one other = found := by
  cases first with
  | error places => cases h
  | ok one =>
    cases second with
    | error places => cases h
    | ok other => exact ⟨one, other, rfl, rfl, Except.ok.inj h⟩

/-- A group that is read is one, if anything is given under its name. -/
theorem groupOf_eq_ok {α : Type} {setting : Setting} {name : String}
    {read : Keyed String Given → Fitted α} {members : Keyed String Given} {value : α}
    (h : groupOf setting name read members = .ok value) :
    (∀ given, members.get? name = some given → ∃ others, given = .group others) ∧
      read (Given.inner members name) = .ok value := by
  unfold groupOf at h
  unfold Given.inner
  split at h
  case h_1 hnone =>
    rw [hnone]
    exact ⟨fun given hgiven => absurd hgiven (Option.some_ne_none given).symm, h⟩
  case h_2 others hgroup =>
    rw [hgroup]
    exact ⟨fun given hgiven => ⟨others, (Option.some.inj hgiven).symm⟩, h⟩
  case h_3 => cases h

/-- Groups that are read from members that overlay others overlay each other. -/
theorem overlays_of_groupOf {α : Type} {setting : Setting} {name : String}
    {read : Keyed String Given → Fitted α} {below above merged : Keyed String Given} {value : α}
    (h : Given.Overlays below above merged) (hfiled : Given.Filed above)
    (hvalue : groupOf setting name read merged = .ok value) :
    Given.Overlays (Given.inner below name) (Given.inner above name) (Given.inner merged name) ∧
      read (Given.inner merged name) = .ok value := by
  obtain ⟨hgroup, hread⟩ := groupOf_eq_ok hvalue
  exact ⟨h.inner hfiled fun _ hgiven => h.exists_group hgroup hgiven, hread⟩

/-! ## What a comparison goes by -/

/-- What a comparison goes by: the values in effect of all settings that it depends on. -/
structure Effective where
  failOnDangerous : Bool
  /-- The endpoint that is asked; none is if it is empty. -/
  url : Option String
  seconds : Double
  format : Format
  /-- The words for the source in notes; the path of the new version if they are empty. -/
  label : Option String

namespace Effective

/-- What is in effect when the command is told so and the settings are so. -/
def of (told : DiffOptions) (settings : Settings) : Effective where
  failOnDangerous := told.failOnDangerous.getD settings.diff.failOnDangerous
  url := (given? told.interceptorUrl).or settings.diff.interceptor.url
  seconds := settings.diff.interceptor.seconds
  format := told.format.getD settings.output.format
  label := (given? told.label).or settings.output.label

/-- Each value in effect is layered, by itself.  The time of an interceptor is no option of the
command. -/
structure Layers (told : DiffOptions) (file environment : Keyed String Given)
    (effective : Effective) : Prop where
  failOnDangerous : Layered Given.toBool? false told.failOnDangerous
    (Given.at? file ["diff", "fail_on_dangerous"])
    (Given.at? environment ["diff", "fail_on_dangerous"]) effective.failOnDangerous
  url : Layered Given.toOptionalText? none ((given? told.interceptorUrl).map some)
    (Given.at? file ["diff", "interceptor", "url"])
    (Given.at? environment ["diff", "interceptor", "url"]) effective.url
  seconds : Layered Given.toSeconds? (.ofInt 10) none
    (Given.at? file ["diff", "interceptor", "timeout_seconds"])
    (Given.at? environment ["diff", "interceptor", "timeout_seconds"]) effective.seconds
  format : Layered Given.toFormat? .terminal told.format
    (Given.at? file ["output", "format"]) (Given.at? environment ["output", "format"])
    effective.format
  label : Layered Given.toOptionalText? none ((given? told.label).map some)
    (Given.at? file ["output", "path_label"]) (Given.at? environment ["output", "path_label"])
    effective.label

/-- Only one thing is in effect. -/
theorem Layers.unique {told : DiffOptions} {file environment : Keyed String Given}
    {effective other : Effective} (h : effective.Layers told file environment)
    (hother : other.Layers told file environment) : effective = other := by
  cases effective
  cases other
  congr 1
  · exact h.failOnDangerous.unique hother.failOnDangerous
  · exact h.url.unique hother.url
  · exact h.seconds.unique hother.seconds
  · exact h.format.unique hother.format
  · exact h.label.unique hother.label

/-- The policy for what is in effect. -/
def policy (deliver : String → Request → Delivery) (effective : Effective) : Policy where
  failOnDangerous := effective.failOnDangerous
  interceptor := (given? effective.url).map fun url => .remote url (deliver url)
  seconds := effective.seconds

/-- The words for the source in notes on a version at the path. -/
def labelFor (effective : Effective) (path : String) : String :=
  (given? effective.label).getD (Path.normal path)

variable {told : DiffOptions} {settings : Settings}

theorem policy_of (deliver : String → Request → Delivery) (told : DiffOptions)
    (settings : Settings) :
    (of told settings).policy deliver = Policy.ofSettings deliver told settings := rfl

theorem labelFor_of (told : DiffOptions) (settings : Settings) :
    (of told settings).labelFor told.new = labelOf told settings := by
  have hgiven : given? ((given? told.label).or settings.output.label) =
      (given? told.label).or (given? settings.output.label) := by
    cases hlabel : given? told.label with
    | none => rfl
    | some label =>
      rw [Option.some_or, Option.some_or, given?, Option.filter_eq_some_iff]
      exact ⟨rfl, (Option.filter_eq_some_iff.1 hlabel).2⟩
  rw [labelFor, of, hgiven]
  rfl

/-- What is in effect is layered, if the settings come from members merged. -/
theorem layers_of {file environment : Keyed String Given} (hfiled : Given.Filed file)
    (h : Settings.ofGiven (Given.merge environment file) = .ok settings) (told : DiffOptions) :
    (of told settings).Layers told file environment := by
  have habove := Given.overlays_merge hfiled.nodup environment
  obtain ⟨⟨diff, output⟩, version, hparts, -, rfl⟩ := Fitted.both_eq_ok h
  obtain ⟨_, _, hdiff, houtput, hpair⟩ := Fitted.both_eq_ok hparts
  obtain ⟨rfl, rfl⟩ := Prod.mk.inj hpair
  obtain ⟨hdiffOver, hdiff⟩ := overlays_of_groupOf habove hfiled hdiff
  obtain ⟨houtputOver, houtput⟩ := overlays_of_groupOf habove hfiled houtput
  obtain ⟨strict, interceptor, hstrict, hinterceptor, rfl⟩ := Fitted.both_eq_ok hdiff
  obtain ⟨hinterceptorOver, hinterceptor⟩ :=
    overlays_of_groupOf hdiffOver (hfiled.inner "diff") hinterceptor
  obtain ⟨seconds, url, hseconds, hurl, rfl⟩ := Fitted.both_eq_ok hinterceptor
  obtain ⟨format, label, hformat, hlabel, rfl⟩ := Fitted.both_eq_ok houtput
  exact {
    failOnDangerous := (layered_of_settingOf hdiffOver (fun _ => rfl) hstrict).tell _
    url := (layered_of_settingOf hinterceptorOver (fun _ => rfl) hurl).tell_some _
    seconds := layered_of_settingOf hinterceptorOver (fun _ => rfl) hseconds
    format := (layered_of_settingOf houtputOver (fun _ => rfl) hformat).tell _
    label := (layered_of_settingOf houtputOver (fun _ => rfl) hlabel).tell_some _ }

end Effective

/-! ## Loading -/

namespace Site

variable {site : Site} {path : Option String} {members : List (String × Toml)}

/-- What the file that is read and the variables of a site give for settings. -/
inductive Gives (site : Site) (path : Option String) :
    Keyed String Given → Keyed String Given → Prop where
  | intro {members : List (String × Toml)} {rules : VariableRules} {environment : Keyed String Given}
      (areRead : site.membersRead path = .ok members)
      (areRules : VariableRules.ofToml members = .ok rules)
      (areGiven : site.environment.given rules = .ok environment) :
      Gives site path (Given.ofTomlMembers members) environment

/-- There is only one thing that they give. -/
theorem Gives.unique {file environment other others : Keyed String Given}
    (h : site.Gives path file environment) (hother : site.Gives path other others) :
    file = other ∧ environment = others := by
  obtain ⟨hmembers, hrules, hgiven⟩ := h
  obtain ⟨hmembers', hrules', hgiven'⟩ := hother
  obtain rfl := Except.ok.inj (hmembers.symm.trans hmembers')
  obtain rfl := Except.ok.inj (hrules.symm.trans hrules')
  exact ⟨rfl, Except.ok.inj (hgiven.symm.trans hgiven')⟩

theorem unambiguous_of_membersRead (h : site.membersRead path = .ok members) :
    Unambiguous Toml.Distinct members := by
  cases hfile : site.fileRead path with
  | none =>
    rw [membersRead_of_none hfile] at h
    cases path with
    | none => cases h; exact .nil
    | some path => cases h
  | some found =>
    obtain ⟨name, entry⟩ := found
    rw [membersRead_of_fileRead hfile] at h
    unfold membersOfFile at h
    split at h
    · cases h
    · split at h
      · cases h
      · rename_i text _
        cases hread : Toml.read text with
        | error fault => rw [hread] at h; cases h
        | ok found =>
          rw [hread] at h
          cases h
          exact Toml.unambiguous_of_read hread

theorem eq_ok_of_mapError {ε δ α : Type} {rename : ε → δ} {first : Except ε α} {value : α}
    (h : first.mapError rename = .ok value) : first = .ok value := by
  cases first with
  | error fault => cases h
  | ok found => rw [Except.ok.inj h]

/-- Settings that are loaded come from what the file gives merged with what the variables do. -/
theorem exists_gives_of_settings {settings : Settings} (h : site.settings path = .ok settings) :
    ∃ file environment, site.Gives path file environment ∧ Given.Filed file ∧
      Settings.ofGiven (Given.merge environment file) = .ok settings := by
  rw [settings_eq] at h
  obtain ⟨members, hmembers, h⟩ := Toml.exists_of_bind_eq_ok h
  obtain ⟨rules, hrules, h⟩ := Toml.exists_of_bind_eq_ok h
  obtain ⟨environment, henvironment, h⟩ := Toml.exists_of_bind_eq_ok h
  exact ⟨_, environment, .intro hmembers (eq_ok_of_mapError hrules) (eq_ok_of_mapError henvironment),
    ⟨members, unambiguous_of_membersRead hmembers, rfl⟩,
    eq_ok_of_mapError h⟩

end Site

end SchemaDrift
