import Mathlib.Data.List.Basic
import SchemaDrift.Proofs.Json.Strings

/-!
# Values survive being written and read

A value is read back from what is written for it, in every style, whatever follows it.  Numbers
with a fraction are left out, and so are strings that are no text.

* `Numeral.read_toString` — integers.
* `Json.Plain` — the values that are read back.
* `Json.ReadsBack` — what it means that one is, wherever it stands.
* `Json.Plain.readsBack`, `Json.read?_write` — all of them are.
-/

namespace SchemaDrift

open Text

/-- What may follow a value: nothing, or what ends an item. -/
def Delimited (rest : List Char) : Prop :=
  ∀ c ∈ rest.head?, c ∈ [',', ']', '\x7d', '\n']

theorem delimited_nil : Delimited [] := by simp [Delimited]

theorem delimited_cons {c : Char} (rest : List Char) (h : c ∈ [',', ']', '\x7d', '\n']) :
    Delimited (c :: rest) := by
  simpa [Delimited] using h

/-! ## Integers -/

namespace Numeral

/-- The parts of an integer as it is written. -/
def ofInt (value : Int) : Numeral where
  sign := if value < 0 then some '-' else none
  whole := Nat.toDigits 10 value.natAbs
  fraction := none
  exponent := none

theorem toList_toString (value : Int) :
    (toString value).toList = (ofInt value).sign.toList ++ (ofInt value).whole := by
  rw [Int.toString_eq_repr, Int.repr_eq_if, ofInt]
  by_cases h : value < 0
  · rw [if_neg (by omega), if_pos h, String.toList_append, Nat.toList_repr,
      show (-value).toNat = value.natAbs by omega]
    rfl
  · rw [if_pos (by omega), if_neg h, Nat.toList_repr, show value.toNat = value.natAbs by omega]
    rfl

theorem isDigit_of_mem_toDigits {n : Nat} {c : Char} (h : c ∈ Nat.toDigits 10 n) :
    isDigit c = true := by
  have hdigit := Nat.isDigit_of_mem_toDigits (by decide) (by decide) h
  simpa [isDigit, Char.isDigit, Char.le_def] using hdigit

/-- Only zero is written with a zero in front. -/
theorem head?_toDigits_ne {n : Nat} (h : 0 < n) : (Nat.toDigits 10 n).head? ≠ some '0' := by
  induction n using Nat.strongRecOn with
  | _ n ih =>
    by_cases hsmall : n < 10
    · rw [Nat.toDigits_of_lt_base hsmall]
      have hall : ∀ n < 10, 0 < n → [n.digitChar].head? ≠ some '0' := by decide
      exact hall n hsmall h
    · rw [Nat.toDigits_of_base_le (by decide) (by omega),
        List.head?_append_of_ne_nil _ Nat.toDigits_ne_nil]
      exact ih (n / 10) (by omega) (by omega)

theorem digitsValue_toDigits (n : Nat) : digitsValue (Nat.toDigits 10 n) = n := by
  have hvalue : Nat.ofDigitChars 10 (Nat.toDigits 10 n) 0 = n :=
    Nat.ofDigitChars_toDigits (by decide) (by decide)
  simpa only [digitsValue, Nat.ofDigitChars, Nat.mul_comm] using hvalue

theorem toInt_ofInt (value : Int) : (ofInt value).toInt = value := by
  have hmagnitude : digitsValue (ofInt value).whole = value.natAbs :=
    digitsValue_toDigits value.natAbs
  have hnegative : (ofInt value).negative = true ↔ value < 0 := by
    by_cases h : value < 0 <;> simp [negative, ofInt, h]
  rw [toInt, hmagnitude]
  by_cases h : value < 0
  · rw [if_pos (hnegative.2 h)]
    omega
  · rw [if_neg (mt hnegative.1 h)]
    omega

theorem hasLeadingZero_ofInt (value : Int) : (ofInt value).hasLeadingZero = false := by
  rw [hasLeadingZero]
  split
  · rename_i c more hwhole
    have hwhole : Nat.toDigits 10 value.natAbs = '0' :: c :: more := hwhole
    obtain hzero | hpos := Nat.eq_zero_or_pos value.natAbs
    · rw [hzero] at hwhole
      exact absurd hwhole (by simp)
    · exact absurd (by rw [hwhole]; rfl) (head?_toDigits_ne hpos)
  · rfl

theorem isComplete_ofInt (value : Int) : (ofInt value).isComplete = true := by
  simp [isComplete, ofInt, Nat.toDigits_ne_nil]

theorem exists_whole_eq_cons (value : Int) :
    ∃ c more, (ofInt value).whole = c :: more ∧ isDigit c = true := by
  cases hwhole : (ofInt value).whole with
  | nil => exact absurd hwhole Nat.toDigits_ne_nil
  | cons c more =>
    have hmem : c ∈ Nat.toDigits 10 value.natAbs := by
      rw [show Nat.toDigits 10 value.natAbs = c :: more from hwhole]
      exact List.mem_cons_self
    exact ⟨c, more, rfl, isDigit_of_mem_toDigits hmem⟩

theorem sign_ofInt (value : Int) :
    (ofInt value).sign = none ∨ (ofInt value).sign = some '-' := by
  by_cases h : value < 0 <;> simp [ofInt, h]

theorem readSign_whole (value : Int) (rest : List Char) :
    readSign ((ofInt value).sign.toList ++ ((ofInt value).whole ++ rest)) =
      ((ofInt value).sign, (ofInt value).whole ++ rest) := by
  obtain hnone | hminus := sign_ofInt value
  · obtain ⟨c, more, hwhole, hdigit⟩ := exists_whole_eq_cons value
    have hsign : ¬ (c == '+' || c == '-') = true := by
      intro h
      obtain rfl | rfl : c = '+' ∨ c = '-' := by simpa using h
      · exact absurd hdigit (by decide)
      · exact absurd hdigit (by decide)
    rw [hnone, hwhole, Option.toList_none, List.nil_append, List.cons_append, readSign,
      if_neg hsign]
  · rw [hminus]
    rfl

theorem not_isDigit_of_delimited {rest : List Char} (h : Delimited rest) :
    ∀ c ∈ rest.head?, isDigit c = false := by
  intro c hc
  have hmem := h c hc
  simp only [List.mem_cons, List.not_mem_nil, or_false] at hmem
  obtain rfl | rfl | rfl | rfl := hmem <;> rfl

theorem readDigits_append {digits rest : List Char} (hdigits : ∀ c ∈ digits, isDigit c = true)
    (hrest : ∀ c ∈ rest.head?, isDigit c = false) :
    readDigits (digits ++ rest) = (digits, rest) := by
  rw [readDigits, List.takeWhile_append_of_pos hdigits, List.dropWhile_append_of_pos hdigits]
  cases rest with
  | nil => simp
  | cons c rest => simp [hrest c rfl]

theorem readExponent_of_delimited {rest : List Char} (h : Delimited rest) :
    readExponent rest = (none, rest) := by
  cases rest with
  | nil => rfl
  | cons c rest =>
    have hmem := h c rfl
    simp only [List.mem_cons, List.not_mem_nil, or_false] at hmem
    obtain rfl | rfl | rfl | rfl := hmem <;> rfl

theorem readFraction_of_delimited {rest : List Char} (h : Delimited rest) :
    readFraction rest = (none, rest) := by
  unfold readFraction
  split
  · exact absurd (h '.' rfl) (by decide)
  · rfl

/-- An integer is read as its parts, up to what follows it. -/
theorem read_toString (value : Int) {rest : List Char} (h : Delimited rest) :
    Numeral.read ((toString value).toList ++ rest) = (ofInt value, rest) := by
  have hdigits : readDigits ((ofInt value).whole ++ rest) = ((ofInt value).whole, rest) :=
    readDigits_append (fun _ => isDigit_of_mem_toDigits) (not_isDigit_of_delimited h)
  simp only [Numeral.read, toList_toString, List.append_assoc, readSign_whole, hdigits,
    readFraction_of_delimited h, readExponent_of_delimited h]
  rfl

end Numeral

namespace Json

/-! ## Words and numbers -/

/-- No word starts with a digit, nor with one behind another character. -/
theorem readWord_eq_none {text : List Char} {c : Char} (hmem : c ∈ text.take 2)
    (hdigit : isDigit c = true) : readWord text = none := by
  have hnone : ∀ word ∈ ["null", "true", "false", "NaN", "Infinity", "-Infinity"],
      afterWord word text = none := by
    intro word hword
    have hword : 2 ≤ word.toList.length ∧ !(word.toList.take 2).any isDigit := by
      simp only [List.mem_cons, List.not_mem_nil, or_false] at hword
      obtain rfl | rfl | rfl | rfl | rfl | rfl := hword <;> decide
    rw [afterWord, if_neg]
    intro hprefix
    obtain ⟨rest, rfl⟩ := List.isPrefixOf_iff_prefix.1 hprefix
    rw [List.take_append_of_le_length hword.1] at hmem
    have hsome : (word.toList.take 2).any isDigit = true := List.any_eq_true.2 ⟨c, hmem, hdigit⟩
    rw [hsome] at hword
    exact nomatch hword.2
  simp only [readWord]
  rw [hnone "null" (by simp), hnone "true" (by simp), hnone "false" (by simp),
    hnone "NaN" (by simp), hnone "Infinity" (by simp), hnone "-Infinity" (by simp)]
  rfl

theorem readWord_toString (value : Int) (rest : List Char) :
    readWord ((toString value).toList ++ rest) = none := by
  obtain ⟨c, more, hwhole, hdigit⟩ := Numeral.exists_whole_eq_cons value
  refine readWord_eq_none (c := c) ?_ hdigit
  rw [Numeral.toList_toString, hwhole]
  obtain hsign | hsign := Numeral.sign_ofInt value <;> simp [hsign]

theorem Reading.readNumber_toString {reading : Reading} {value : Int} {rest : List Char}
    (h : reading.reads (.ofInt value) = true) (hrest : Delimited rest) :
    reading.readNumber ((toString value).toList ++ rest) = some (.int value, rest) := by
  rw [Reading.readNumber, Numeral.read_toString value hrest]
  have hsign : ((Numeral.ofInt value).sign == some '+') = false := by
    obtain hsign | hsign := Numeral.sign_ofInt value <;> rw [hsign] <;> rfl
  have hwhole : (Numeral.ofInt value).isWhole = true := rfl
  simp [hsign, Numeral.hasLeadingZero_ofInt, Numeral.isComplete_ofInt, h, hwhole,
    Numeral.toInt_ofInt]

theorem writeText_append (ascii : Bool) (value rest : List Char) :
    writeText ascii value ++ rest = '"' :: (value.flatMap (writeChar ascii) ++ '"' :: rest) := by
  simp [writeText]

/-! ## Space -/

theorem skipSpace_append {space : List Char} (h : ∀ c ∈ space, isSpace c = true)
    (text : List Char) : skipSpace (space ++ text) = skipSpace text := by
  rw [skipSpace, skipSpace, List.dropWhile_append_of_pos h]

theorem skipSpace_cons {c : Char} (h : isSpace c = false) (text : List Char) :
    skipSpace (c :: text) = c :: text := by
  rw [skipSpace, List.dropWhile_cons_of_neg (by rw [h]; decide)]

theorem isSpace_lead (layout : Layout) (depth : Nat) :
    ∀ c ∈ layout.lead depth, isSpace c = true := by
  intro c hc
  cases layout with
  | indented =>
    obtain rfl | hc := List.mem_cons.1 hc
    · decide
    · rw [List.eq_of_mem_replicate hc]
      decide
  | _ => exact nomatch hc

/-- Nothing but space follows a comma. -/
theorem separator_eq (layout : Layout) (depth : Nat) :
    ∃ space, layout.separator depth = ',' :: space ∧ ∀ c ∈ space, isSpace c = true := by
  cases layout with
  | dense => exact ⟨[], rfl, nofun⟩
  | spaced => exact ⟨[' '], rfl, by simp [isSpace]⟩
  | indented => exact ⟨_, rfl, isSpace_lead .indented depth⟩

/-- Nothing but space follows a colon. -/
theorem colon_eq (layout : Layout) :
    ∃ space, layout.colon = ':' :: space ∧ ∀ c ∈ space, isSpace c = true := by
  cases layout with
  | dense => exact ⟨[], rfl, nofun⟩
  | _ => exact ⟨[' '], rfl, by simp [isSpace]⟩

/-- What closes an array or object may follow a value. -/
theorem delimited_lead {close : Char} (hclose : close ∈ [',', ']', '\x7d', '\n'])
    (layout : Layout) (depth : Nat) (rest : List Char) :
    Delimited (layout.lead depth ++ close :: rest) := by
  cases layout with
  | indented => exact delimited_cons _ (by decide)
  | _ => exact delimited_cons _ hclose

section Values

variable {reading : Reading} {style : Style}

theorem readValue_space {space : List Char} (h : ∀ c ∈ space, isSpace c = true) (bound : Nat)
    (text : List Char) :
    readValue reading bound (space ++ text) = readValue reading bound text := by
  cases bound with
  | zero => rfl
  | succ bound => rw [readValue, readValue, skipSpace_append h]

theorem readItems_space {space : List Char} (h : ∀ c ∈ space, isSpace c = true) (bound : Nat)
    (text : List Char) :
    readItems reading bound (space ++ text) = readItems reading bound text := by
  cases bound with
  | zero => rfl
  | succ bound => rw [readItems, readItems, readValue_space h]

theorem readMembers_space {space : List Char} (h : ∀ c ∈ space, isSpace c = true) (bound : Nat)
    (text : List Char) :
    readMembers reading bound (space ++ text) = readMembers reading bound text := by
  cases bound with
  | zero => rfl
  | succ bound => rw [readMembers, readMembers, skipSpace_append h]

/-! ## Values -/

/-- The values that are read back: those without a number that has a fraction, or that the
reader does not read, and without a string that is no text. -/
inductive Plain (reading : Reading) : Json → Prop where
  | null : Plain reading .null
  | bool (value : Bool) : Plain reading (.bool value)
  | int {value : Int} (h : reading.reads (.ofInt value) = true) : Plain reading (.int value)
  | text (value : String) : Plain reading (.text value)
  | array {items : List Json} (h : ∀ item ∈ items, Plain reading item) :
      Plain reading (.array items)
  | object {members : List (String × Json)} (h : ∀ member ∈ members, Plain reading member.2) :
      Plain reading (.object members)

/-- Wherever the value is written, it is read back as it is, and what follows it is left.  The
bound is met: a value is not nested deeper than the text for it is long. -/
def ReadsBack (reading : Reading) (style : Style) (json : Json) : Prop :=
  ∀ depth bound rest, (writeAt style depth json).length ≤ bound → Delimited rest →
    readValue reading bound (writeAt style depth json ++ rest) = some (json, rest)

theorem not_isSpace_of_isDigit {c : Char} (h : isDigit c = true) :
    isSpace c = false ∧ c ∉ ['"', '[', '\x7b', ']'] := by
  have hne : ∀ other, isDigit other = false → c ≠ other := by
    rintro other hother rfl
    exact nomatch hother.symm.trans h
  constructor
  · simp [isSpace, hne ' ' rfl, hne '\t' rfl, hne '\n' rfl, hne '\r' rfl]
  · simp [hne '"' rfl, hne '[' rfl, hne '\x7b' rfl, hne ']' rfl]

theorem exists_toString_eq_cons (value : Int) :
    ∃ c more, (toString value).toList = c :: more ∧ isSpace c = false ∧
      c ∉ ['"', '[', '\x7b', ']'] := by
  obtain ⟨c, more, hwhole, hdigit⟩ := Numeral.exists_whole_eq_cons value
  rw [Numeral.toList_toString, hwhole]
  obtain hsign | hsign := Numeral.sign_ofInt value
  · exact ⟨c, more, by rw [hsign]; rfl, not_isSpace_of_isDigit hdigit⟩
  · exact ⟨'-', c :: more, by rw [hsign]; rfl, by decide, by decide⟩

/-- No value starts with space, or with what closes an array. -/
theorem Plain.exists_writeAt_eq_cons {json : Json} (h : json.Plain reading) (style : Style)
    (depth : Nat) :
    ∃ c more, writeAt style depth json = c :: more ∧ isSpace c = false ∧ c ≠ ']' := by
  cases h with
  | null => exact ⟨_, _, by rw [writeAt]; rfl, by decide, by decide⟩
  | bool value => cases value <;> exact ⟨_, _, by rw [writeAt]; rfl, by decide, by decide⟩
  | @int value =>
    obtain ⟨c, more, hwritten, hspace, hc⟩ := exists_toString_eq_cons value
    exact ⟨c, more, by rw [writeAt, hwritten], hspace, fun h => hc (by simp [h])⟩
  | text value => exact ⟨_, _, by rw [writeAt]; rfl, by decide, by decide⟩
  | @array items =>
    cases items with
    | nil => exact ⟨_, _, by rw [writeAt], by decide, by decide⟩
    | cons first rest => exact ⟨_, _, by rw [writeAt]; rfl, by decide, by decide⟩
  | @object members =>
    cases members with
    | nil => exact ⟨_, _, by rw [writeAt], by decide, by decide⟩
    | cons first rest => exact ⟨_, _, by rw [writeAt]; rfl, by decide, by decide⟩

/-- A value that is one word or a number. -/
theorem readValue_atom {c : Char} (hspace : isSpace c = false)
    (hc : c ∉ ['"', '[', '\x7b', ']']) (bound : Nat) (text : List Char) :
    readValue reading (bound + 1) (c :: text) =
      (readWord (c :: text)).or (reading.readNumber (c :: text)) := by
  rw [readValue, skipSpace_cons hspace]
  split <;> simp_all

/-- As something is written for each value, the reader never starts with the bound zero. -/
theorem Plain.readsBack_of_succ {json : Json} (h : json.Plain reading)
    (hread : ∀ depth bound rest, (writeAt style depth json).length ≤ bound + 1 → Delimited rest →
      readValue reading (bound + 1) (writeAt style depth json ++ rest) = some (json, rest)) :
    ReadsBack reading style json := by
  intro depth bound rest hbound hrest
  obtain ⟨c, more, hwritten, -⟩ := h.exists_writeAt_eq_cons style depth
  cases bound with
  | zero =>
    rw [hwritten] at hbound
    exact absurd hbound (by simp)
  | succ bound => exact hread depth bound rest hbound hrest

/-- What one word or a number is written for is read back. -/
theorem Plain.readsBack_atom {json : Json} (h : json.Plain reading) (text : List Char)
    (hwritten : ∀ depth, writeAt style depth json = text)
    (hstart : ∃ c more, text = c :: more ∧ isSpace c = false ∧ c ∉ ['"', '[', '\x7b', ']'])
    (hread : ∀ rest, Delimited rest →
      (readWord (text ++ rest)).or (reading.readNumber (text ++ rest)) = some (json, rest)) :
    ReadsBack reading style json := by
  refine h.readsBack_of_succ fun depth bound rest hbound hrest => ?_
  rw [hwritten]
  obtain ⟨c, more, rfl, hspace, hc⟩ := hstart
  rw [List.cons_append, readValue_atom hspace hc]
  exact hread rest hrest

/-! ## Arrays -/

theorem readItems_last {bound : Nat} {text tail rest : List Char} {item : Json}
    (hvalue : readValue reading bound text = some (item, tail))
    (htail : skipSpace tail = ']' :: rest) :
    readItems reading (bound + 1) text = some ([item], rest) := by
  rw [readItems, hvalue]
  simp [htail]

theorem readItems_more {bound : Nat} {text tail rest : List Char} {item : Json}
    (hvalue : readValue reading bound text = some (item, tail))
    (htail : skipSpace tail = ',' :: rest) :
    readItems reading (bound + 1) text =
      (readItems reading bound rest).map fun found => (item :: found.1, found.2) := by
  rw [readItems, hvalue]
  simp only [Option.bind_eq_bind, Option.bind_some, htail]
  cases readItems reading bound rest <;> rfl

/-- Items are read back one after the other, up to what closes the array. -/
theorem readItems_writeItems (depth : Nat) {first : Json} {rest : List Json} {bound : Nat}
    (hfirst : ReadsBack reading style first) (hrest : ∀ item ∈ rest, ReadsBack reading style item)
    (hbound : (writeAt style depth first ++ writeItems style depth rest).length < bound)
    (outer : Nat) (after : List Char) :
    readItems reading bound (writeAt style depth first ++
      (writeItems style depth rest ++ (style.layout.lead outer ++ ']' :: after))) =
        some (first :: rest, after) := by
  induction rest generalizing first bound with
  | nil =>
    obtain ⟨bound, rfl⟩ : ∃ less, bound = less + 1 := ⟨bound - 1, by omega⟩
    rw [writeItems, List.append_nil] at hbound
    rw [writeItems, List.nil_append]
    refine readItems_last (hfirst depth bound _ (by omega)
      (delimited_lead (by decide) _ _ _)) ?_
    rw [skipSpace_append (isSpace_lead _ _), skipSpace_cons (by decide)]
  | cons next rest ih =>
    obtain ⟨bound, rfl⟩ : ∃ less, bound = less + 1 := ⟨bound - 1, by omega⟩
    obtain ⟨space, hseparator, hspace⟩ := separator_eq style.layout depth
    simp only [writeItems, hseparator, List.length_append, List.length_cons] at hbound
    simp only [writeItems, hseparator, List.append_assoc, List.cons_append]
    obtain ⟨hnext, hothers⟩ := List.forall_mem_cons.1 hrest
    have hlength : (writeAt style depth next ++ writeItems style depth rest).length < bound := by
      rw [List.length_append]
      omega
    rw [readItems_more (hfirst depth bound _ (by omega) (delimited_cons _ (by decide)))
      (skipSpace_cons (by decide) _), readItems_space hspace, ih hnext hothers hlength]
    rfl

theorem Plain.readsBack_array {items : List Json} (h : ∀ item ∈ items, Plain reading item)
    (hitems : ∀ item ∈ items, ReadsBack reading style item) :
    ReadsBack reading style (.array items) := by
  refine (Plain.array h).readsBack_of_succ fun depth bound rest hbound hrest => ?_
  cases items with
  | nil =>
    rw [writeAt, List.cons_append, readValue, skipSpace_cons (by decide)]
    simp [skipSpace_cons, isSpace]
  | cons first others =>
    obtain ⟨c, more, hwritten, hspace, hc⟩ :=
      (h first List.mem_cons_self).exists_writeAt_eq_cons style (depth + 1)
    obtain ⟨hfirst, hothers⟩ := List.forall_mem_cons.1 hitems
    simp only [writeAt, List.length_append, List.length_cons] at hbound
    have hlength : (writeAt style (depth + 1) first ++ writeItems style (depth + 1) others).length <
        bound := by
      rw [List.length_append]
      omega
    have hread := readItems_writeItems (depth + 1) hfirst hothers hlength depth rest
    simp only [writeAt, List.cons_append, List.append_assoc, List.nil_append]
    rw [hwritten, List.cons_append] at hread
    rw [hwritten, readValue, skipSpace_cons (by decide)]
    simp only [skipSpace_append (isSpace_lead _ _), List.cons_append, skipSpace_cons hspace]
    -- The first item does not start with what closes the array, so this array is not empty.
    split
    · rename_i heq
      exact absurd (List.cons.inj heq).1 hc
    · rw [hread]
      rfl

/-! ## Objects -/

theorem readMembers_last {bound : Nat} {ascii : Bool} {name : String} {value : Json}
    {text tail rest : List Char} (hvalue : readValue reading bound text = some (value, tail))
    (htail : skipSpace tail = '\x7d' :: rest) :
    readMembers reading (bound + 1) (writeText ascii name.toList ++ ':' :: text) =
      some ([(name, value)], rest) := by
  rw [writeText_append, readMembers, skipSpace_cons (by decide)]
  simp [Reading.readString_writeText, skipSpace_cons, isSpace, hvalue, htail]

theorem readMembers_more {bound : Nat} {ascii : Bool} {name : String} {value : Json}
    {text tail rest : List Char} (hvalue : readValue reading bound text = some (value, tail))
    (htail : skipSpace tail = ',' :: rest) :
    readMembers reading (bound + 1) (writeText ascii name.toList ++ ':' :: text) =
      (readMembers reading bound rest).map fun found => ((name, value) :: found.1, found.2) := by
  rw [writeText_append, readMembers, skipSpace_cons (by decide)]
  simp [Reading.readString_writeText, skipSpace_cons, isSpace, hvalue, htail]
  cases readMembers reading bound rest <;> rfl

/-- Members are read back one after the other, up to what closes the object. -/
theorem readMembers_writeMembers (depth : Nat) (name : String) {value : Json}
    {rest : List (String × Json)} {bound : Nat} (hvalue : ReadsBack reading style value)
    (hrest : ∀ member ∈ rest, ReadsBack reading style member.2)
    (hbound : (writeText style.ascii name.toList ++ (style.layout.colon ++
      (writeAt style depth value ++ writeMembers style depth rest))).length < bound)
    (outer : Nat) (after : List Char) :
    readMembers reading bound (writeText style.ascii name.toList ++ (style.layout.colon ++
      (writeAt style depth value ++ (writeMembers style depth rest ++
        (style.layout.lead outer ++ '\x7d' :: after))))) =
      some ((name, value) :: rest, after) := by
  obtain ⟨gap, hcolon, hgap⟩ := colon_eq style.layout
  obtain ⟨bound, rfl⟩ : ∃ less, bound = less + 1 := ⟨bound - 1, by omega⟩
  simp only [hcolon, List.length_append, List.length_cons] at hbound
  rw [hcolon, List.cons_append]
  induction rest generalizing name value bound with
  | nil =>
    rw [writeMembers, List.nil_append]
    refine readMembers_last ((readValue_space hgap bound _).trans
      (hvalue depth bound _ (by omega) (delimited_lead (by decide) _ _ _))) ?_
    rw [skipSpace_append (isSpace_lead _ _), skipSpace_cons (by decide)]
  | cons next rest ih =>
    obtain ⟨nextName, nextValue⟩ := next
    obtain ⟨hnext, hothers⟩ := List.forall_mem_cons.1 hrest
    obtain ⟨space, hseparator, hspace⟩ := separator_eq style.layout depth
    obtain ⟨bound, rfl⟩ : ∃ less, bound = less + 1 := ⟨bound - 1, by omega⟩
    simp only [writeMembers, hseparator, hcolon, List.length_append, List.length_cons] at hbound
    simp only [writeMembers, hseparator, hcolon, List.append_assoc, List.cons_append]
    rw [readMembers_more ((readValue_space hgap _ _).trans
        (hvalue depth (bound + 1) _ (by omega) (delimited_cons _ (by decide))))
      (skipSpace_cons (by decide) _), readMembers_space hspace,
      ih nextName hnext hothers bound (by dsimp only; omega)]
    rfl

theorem Plain.readsBack_object {members : List (String × Json)}
    (h : ∀ member ∈ members, Plain reading member.2)
    (hmembers : ∀ member ∈ members, ReadsBack reading style member.2) :
    ReadsBack reading style (.object members) := by
  refine (Plain.object h).readsBack_of_succ fun depth bound rest hbound hrest => ?_
  cases members with
  | nil =>
    rw [writeAt, List.cons_append, readValue, skipSpace_cons (by decide)]
    simp [skipSpace_cons, isSpace]
  | cons first others =>
    obtain ⟨name, value⟩ := first
    simp only [writeAt, List.length_append, List.length_cons] at hbound
    have hlength : (writeText style.ascii name.toList ++ (style.layout.colon ++
        (writeAt style (depth + 1) value ++ writeMembers style (depth + 1) others))).length <
          bound := by
      simp only [List.length_append]
      omega
    obtain ⟨hfirst, hothers⟩ := List.forall_mem_cons.1 hmembers
    have hread := readMembers_writeMembers (depth + 1) name hfirst hothers hlength depth rest
    simp only [writeAt, List.cons_append, List.append_assoc, List.nil_append]
    rw [readValue, skipSpace_cons (by decide)]
    simp only [skipSpace_append (isSpace_lead _ _), writeText_append] at hread ⊢
    rw [skipSpace_cons (by decide)]
    split
    · rename_i heq
      exact absurd (List.cons.inj heq).1 (by decide)
    · rw [hread]
      rfl

/-! ## All values -/

/-- A plain value is read back from what is written for it. -/
theorem Plain.readsBack {json : Json} (h : json.Plain reading) (style : Style) :
    ReadsBack reading style json := by
  induction h with
  | null =>
    exact Plain.null.readsBack_atom ['n', 'u', 'l', 'l'] (fun _ => by rw [writeAt]; rfl)
      ⟨_, _, rfl, by decide, by decide⟩ fun _ _ => rfl
  | bool value =>
    cases value with
    | false =>
      exact (Plain.bool false).readsBack_atom ['f', 'a', 'l', 's', 'e']
        (fun _ => by rw [writeAt]; rfl) ⟨_, _, rfl, by decide, by decide⟩ fun _ _ => rfl
    | true =>
      exact (Plain.bool true).readsBack_atom ['t', 'r', 'u', 'e']
        (fun _ => by rw [writeAt]; rfl) ⟨_, _, rfl, by decide, by decide⟩ fun _ _ => rfl
  | @int value h =>
    refine (Plain.int h).readsBack_atom _ (fun _ => by rw [writeAt])
      (exists_toString_eq_cons value) fun rest hrest => ?_
    rw [readWord_toString, Option.none_or]
    exact Reading.readNumber_toString h hrest
  | text value =>
    refine (Plain.text value).readsBack_of_succ fun depth bound rest _ _ => ?_
    rw [writeAt, writeText_append, readValue, skipSpace_cons (by decide)]
    simp [Reading.readString_writeText]
  | array h ih => exact Plain.readsBack_array h ih
  | object h ih => exact Plain.readsBack_object h ih

/-- **Values survive being written and read.**  A plain value that is not nested too deep for
the reader is read back from its text, in whatever style it was written. -/
theorem read?_write {json : Json} (h : json.Plain reading)
    (hdepth : ∀ limit ∈ reading.depth, json.depth ≤ limit) (style : Style) :
    read? reading (write style json) = some json := by
  have hlength : (writeAt style 0 json).length ≤ 2 * (write style json).toList.length + 2 := by
    rw [write, String.toList_ofList]
    omega
  have hread := h.readsBack style 0 _ [] hlength delimited_nil
  rw [List.append_nil] at hread
  have hlimit : reading.depth.all (json.depth ≤ ·) = true := by
    cases hreading : reading.depth with
    | none => rfl
    | some limit => simpa using hdepth limit hreading
  have hwhole : ((skipSpace []).isEmpty && reading.depth.all (json.depth ≤ ·)) = true := by
    rw [hlimit]
    rfl
  simp only [read?, write, String.toList_ofList] at hread ⊢
  rw [hread]
  exact if_pos hwhole

end Values

/-! ## How deep values are -/

theorem depthOfItems_le {items : List Json} {limit : Nat} (h : ∀ item ∈ items, item.depth ≤ limit) :
    depthOfItems items ≤ limit := by
  induction items with
  | nil => exact Nat.zero_le limit
  | cons item rest ih =>
    obtain ⟨hitem, hrest⟩ := List.forall_mem_cons.1 h
    exact Nat.max_le.2 ⟨hitem, ih hrest⟩

theorem depth_array_le {items : List Json} {limit : Nat} (h : ∀ item ∈ items, item.depth ≤ limit) :
    (Json.array items).depth ≤ limit + 1 := by
  cases items with
  | nil => exact Nat.zero_le _
  | cons first rest => exact Nat.succ_le_succ (depthOfItems_le h)

end Json

end SchemaDrift
