import SchemaDrift.Proofs.Json.Strings
import SchemaDrift.Toml.Quoted

/-!
# Strings of JSON as strings of TOML

What is written for a character of a JSON string stands for the same character in a TOML string,
but for the delete character: JSON lets it stand as it is, and TOML nowhere.

* `readBasic_writeChar` — a single character.
* `readBasic_writeText` — strings.
-/

namespace SchemaDrift.Toml

open Text

/-! ## Characters -/

/-- A string that starts with a character. -/
def withFirst (c : Char) (found : Option (List Char × List Char)) :
    Option (List Char × List Char) :=
  found.map fun found => (c :: found.1, found.2)

theorem readBasic_plain {c : Char} (hquote : c ≠ '"') (hslash : c ≠ '\\')
    (hcontrol : isControl c = false) (rest : List Char) :
    readBasic (c :: rest) = withFirst c (readBasic rest) := by
  have hread : ¬ (isControl c || c = '\\') = true := by simp [hslash, hcontrol]
  rw [readBasic.eq_6 c rest hquote (fun _ _ _ _ _ h _ => hslash h)
    (fun _ _ _ _ _ _ _ _ _ h _ => hslash h) (fun _ _ h _ => hslash h), if_neg hread]
  rfl

theorem readBasic_control {c : Char} (hquote : c ≠ '"') (hslash : c ≠ '\\')
    (hcontrol : isControl c = true) (rest : List Char) : readBasic (c :: rest) = none := by
  have hread : (isControl c || c = '\\') = true := by simp [hcontrol]
  rw [readBasic.eq_6 c rest hquote (fun _ _ _ _ _ h _ => hslash h)
    (fun _ _ _ _ _ _ _ _ _ h _ => hslash h) (fun _ _ h _ => hslash h), if_pos hread]

/-- A letter escape of JSON is one of TOML. -/
theorem escapedChar?_of_lookup {c letter : Char} (h : Json.letterEscapes.lookup c = some letter) :
    letter ≠ 'u' ∧ letter ≠ 'U' ∧ escapedChar? letter = some c := by
  have hall : ∀ escape ∈ Json.letterEscapes,
      escape.2 ≠ 'u' ∧ escape.2 ≠ 'U' ∧ escapedChar? escape.2 = some escape.1 := by decide
  obtain ⟨before, after, hsplit, -⟩ := List.lookup_eq_some_iff.1 h
  exact hall (c, letter) (by simp [hsplit])

theorem readBasic_letter {letter c : Char} (hshort : letter ≠ 'u') (hlong : letter ≠ 'U')
    (h : escapedChar? letter = some c) (rest : List Char) :
    readBasic ('\\' :: letter :: rest) = withFirst c (readBasic rest) := by
  rw [readBasic.eq_5 letter rest (fun _ _ _ _ _ hu _ => hshort hu)
    (fun _ _ _ _ _ _ _ _ _ hu _ => hlong hu), h]
  cases readBasic rest <;> rfl

/-- So is an escape of four digits. -/
theorem readBasic_unit16 {code : Nat} {c : Char} (hcode : code < 0x10000)
    (h : scalarOf? code = some c) (rest : List Char) :
    readBasic (Json.unit16 code ++ rest) = withFirst c (readBasic rest) := by
  have hdigits : hexNumber? (hexDigits 4 code) = some code := hexNumber?_hexDigits hcode
  simp only [hexDigits, List.nil_append, List.cons_append] at hdigits
  simp only [Json.unit16, hexDigits, List.nil_append, List.cons_append, readBasic, escapedScalar?,
    hdigits, Option.bind_some, h]
  cases readBasic rest <;> rfl

/-- What JSON has for a character stands for it, unless it is the delete character. -/
theorem readBasic_writeChar {c : Char} (hdelete : c ≠ '\x7f') (rest : List Char) :
    readBasic (Json.writeChar false c ++ rest) = withFirst c (readBasic rest) := by
  unfold Json.writeChar
  split
  case h_1 letter hletter =>
    obtain ⟨hshort, hlong, hescaped⟩ := escapedChar?_of_lookup hletter
    exact readBasic_letter hshort hlong hescaped rest
  case h_2 hnone =>
    rw [Bool.false_and, Bool.or_false]
    split
    case isTrue hcontrol =>
      have hcode : c.toNat < 0x10000 := Nat.lt_trans (by simpa using hcontrol) (by decide)
      rw [Json.escapeCode, if_pos hcode]
      exact readBasic_unit16 hcode (scalarOf?_toNat c) rest
    case isFalse hplain =>
      have hne : c.toNat ≠ 0x7f := fun h => hdelete (Char.toNat_inj.1 h)
      refine readBasic_plain ?_ ?_ ?_ rest
      · rintro rfl
        exact nomatch hnone
      · rintro rfl
        exact nomatch hnone
      · have hlow : ¬ c.toNat < 0x20 := by simpa using hplain
        simp [isControl, hlow, hne]

/-- The delete character stands for nothing. -/
theorem readBasic_writeChar_delete (rest : List Char) :
    readBasic (Json.writeChar false '\x7f' ++ rest) = none :=
  readBasic_control (by decide) (by decide) (by decide) rest

/-! ## Strings -/

/-- A string of JSON is read as the same string of TOML, unless the delete character is in it. -/
theorem readBasic_writeText (value rest : List Char) :
    readBasic (value.flatMap (Json.writeChar false) ++ '"' :: rest) =
      if '\x7f' ∈ value then none else some (value, rest) := by
  induction value with
  | nil => rfl
  | cons c value ih =>
    rw [List.flatMap_cons, List.append_assoc]
    by_cases hdelete : c = '\x7f'
    · rw [hdelete, readBasic_writeChar_delete, if_pos List.mem_cons_self]
    · rw [readBasic_writeChar hdelete, ih]
      by_cases hmem : '\x7f' ∈ value
      · rw [if_pos hmem, if_pos (List.mem_cons_of_mem c hmem)]
        rfl
      · have hnot : '\x7f' ∉ c :: value := by
          rw [List.mem_cons, not_or]
          exact ⟨Ne.symm hdelete, hmem⟩
        rw [if_neg hmem, if_neg hnot]
        rfl

end SchemaDrift.Toml
