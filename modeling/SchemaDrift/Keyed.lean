/-!
# Keyed lists

A keyed list holds values under keys in the order in which the keys were first put
in.

* `Keyed` — the pairs, in order.
* `Keyed.get?` — the value under a key.
* `Keyed.put` — a value put under a key, which keeps its place if it is there.
* `Keyed.ofList` — pairs put in one after the other.
-/

namespace SchemaDrift

/-- Values under keys, in order. -/
abbrev Keyed (κ α : Type) := List (κ × α)

namespace Keyed

variable {κ α : Type} [DecidableEq κ]

/-- The keys in order. -/
def keys (entries : Keyed κ α) : List κ := entries.map (·.1)

/-- Is there a value under the key? -/
def has (entries : Keyed κ α) (key : κ) : Bool := entries.any (·.1 == key)

/-- The value under a key. -/
def get? (entries : Keyed κ α) (key : κ) : Option α :=
  (entries.find? (·.1 == key)).map (·.2)

/-- A value put under a key: in place of the one there, or else at the end. -/
def put : Keyed κ α → κ → α → Keyed κ α
  | [], key, value => [(key, value)]
  | entry :: rest, key, value =>
    if entry.1 == key then (key, value) :: rest else entry :: put rest key value

/-- Pairs put in one after the other: a later value replaces an earlier one and
keeps its place. -/
def ofList (pairs : List (κ × α)) : Keyed κ α :=
  pairs.foldl (fun entries pair => put entries pair.1 pair.2) []

/-! ## Reading after writing -/

@[simp] theorem get?_nil (key : κ) : get? ([] : Keyed κ α) key = none := rfl

theorem get?_cons (entry : κ × α) (rest : Keyed κ α) (key : κ) :
    get? (entry :: rest) key = if entry.1 == key then some entry.2 else get? rest key := by
  simp only [get?, List.find?_cons]
  split <;> simp_all

/-- The value just put in is the one under its key. -/
theorem get?_put_self (entries : Keyed κ α) (key : κ) (value : α) :
    get? (put entries key value) key = some value := by
  induction entries with
  | nil => simp [put, get?_cons]
  | cons entry rest ih =>
    unfold put
    split <;> simp_all [get?_cons]

/-- Putting a value under one key leaves every other key alone. -/
theorem get?_put_of_ne (entries : Keyed κ α) {key other : κ} (value : α)
    (h : key ≠ other) : get? (put entries key value) other = get? entries other := by
  induction entries with
  | nil => simp [put, get?_cons, h]
  | cons entry rest ih =>
    unfold put
    split
    · rename_i he
      have he : entry.1 = key := by simpa using he
      simp [get?_cons, h, he]
    · simp [get?_cons, ih]

/-! ## Reading where all values are replaced -/

theorem get?_map {β : Type} (f : α → β) (entries : Keyed κ α) (key : κ) :
    get? (entries.map fun entry => (entry.1, f entry.2)) key = (get? entries key).map f := by
  induction entries with
  | nil => rfl
  | cons entry rest ih =>
    rw [List.map_cons, get?_cons, get?_cons, ih]
    split <;> rfl

theorem has_map {β : Type} (f : α → β) (entries : Keyed κ α) (key : κ) :
    has (entries.map fun entry => (entry.1, f entry.2)) key = has entries key := by
  rw [has, has, List.any_map]
  rfl

/-! ## Reading where no key stands twice -/

theorem has_iff_mem_keys {entries : Keyed κ α} {key : κ} :
    has entries key = true ↔ key ∈ keys entries := by
  simp [has, keys]

/-- There is no value under a key that does not stand in the list. -/
theorem get?_eq_none_iff {entries : Keyed κ α} {key : κ} :
    get? entries key = none ↔ key ∉ keys entries := by
  simp only [get?, keys, Option.map_eq_none_iff, List.find?_eq_none, List.mem_map, not_exists,
    not_and, beq_iff_eq]

/-- If no key stands twice, each value is found under its key. -/
theorem get?_eq_some_iff {entries : Keyed κ α} (h : (keys entries).Nodup) {key : κ}
    {value : α} : get? entries key = some value ↔ (key, value) ∈ entries := by
  induction entries with
  | nil => simp
  | cons entry rest ih =>
    rw [keys, List.map_cons, List.nodup_cons] at h
    rw [get?_cons, List.mem_cons]
    by_cases he : entry.1 = key
    · have hrest : (key, value) ∉ rest := fun hm =>
        h.1 (List.mem_map.mpr ⟨(key, value), hm, he.symm⟩)
      simp [he, hrest, Prod.ext_iff, eq_comm]
    · have hne : (key, value) ≠ entry := fun hk => he (hk ▸ rfl)
      rw [if_neg (by simpa using he), ih h.2]
      simp [hne]

/-- Putting a value under a key that is there changes no key; under another, the key is the
last one. -/
theorem keys_put (entries : Keyed κ α) (key : κ) (value : α) :
    keys (put entries key value) =
      if key ∈ keys entries then keys entries else keys entries ++ [key] := by
  induction entries with
  | nil => rfl
  | cons entry rest ih =>
    unfold put
    by_cases he : entry.1 = key
    · simp [he, keys]
    · have hne : key ≠ entry.1 := fun hk => he hk.symm
      have hrest : keys (entry :: rest) = entry.1 :: keys rest := rfl
      rw [if_neg (by simpa using he), hrest, keys, List.map_cons]
      simp only [List.mem_cons, hne, false_or]
      rw [show (put rest key value).map (·.1) = keys (put rest key value) from rfl, ih]
      split <;> rfl

theorem nodup_keys_put {entries : Keyed κ α} (h : (keys entries).Nodup) (key : κ) (value : α) :
    (keys (put entries key value)).Nodup := by
  rw [keys_put]
  split
  · exact h
  · rename_i hnot
    rw [List.nodup_append]
    refine ⟨h, by simp, fun a ha b hb => ?_⟩
    rw [List.mem_singleton.1 hb]
    exact fun he => hnot (he ▸ ha)

/-- A value under a new key comes last. -/
theorem put_of_not_mem {entries : Keyed κ α} {key : κ} (h : key ∉ keys entries) (value : α) :
    put entries key value = entries ++ [(key, value)] := by
  induction entries with
  | nil => rfl
  | cons entry rest ih =>
    rw [keys, List.map_cons, List.mem_cons, not_or] at h
    have hne : ¬ (entry.1 == key) = true := fun he => h.1 (eq_of_beq he).symm
    rw [put, if_neg hne, ih h.2, List.cons_append]

/-- Pairs of which no two have one key are put in as they are. -/
theorem ofList_of_nodup {pairs : List (κ × α)} (h : (keys pairs).Nodup) : ofList pairs = pairs := by
  have hrest (rest entries : Keyed κ α) (h : (keys (entries ++ rest)).Nodup) :
      rest.foldl (fun entries pair => put entries pair.1 pair.2) entries = entries ++ rest := by
    induction rest generalizing entries with
    | nil => exact (List.append_nil entries).symm
    | cons pair rest ih =>
      have hnot : pair.1 ∉ keys entries := by
        rw [keys, List.map_append, List.nodup_append] at h
        exact fun hmem => h.2.2 _ hmem _ (List.mem_cons_self ..) rfl
      rw [List.foldl_cons, put_of_not_mem hnot, ih _ (by rwa [List.append_assoc]),
        List.append_assoc, List.singleton_append]
  exact hrest pairs [] h

/-- Only keys of the pairs are put in. -/
theorem mem_keys_of_mem_ofList {pairs : List (κ × α)} {key : κ}
    (h : key ∈ keys (ofList pairs)) : key ∈ keys pairs := by
  have hrest (rest entries : Keyed κ α)
      (h : key ∈ keys (rest.foldl (fun entries pair => put entries pair.1 pair.2) entries)) :
      key ∈ keys entries ∨ key ∈ keys rest := by
    induction rest generalizing entries with
    | nil => exact .inl h
    | cons pair rest ih =>
      have hmem : key ∈ keys (pair :: rest) ↔ key = pair.1 ∨ key ∈ keys rest := List.mem_cons
      rw [hmem]
      rcases ih _ h with hput | hafter
      · rw [keys_put] at hput
        split at hput
        · exact .inl hput
        · rcases List.mem_append.1 hput with hbefore | hlast
          · exact .inl hbefore
          · exact .inr (.inl (List.mem_singleton.1 hlast))
      · exact .inr (.inr hafter)
  exact (hrest pairs [] h).resolve_left List.not_mem_nil

end Keyed

end SchemaDrift
