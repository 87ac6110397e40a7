import Mathlib.Algebra.Group.Nat.Defs
import SchemaDrift.Json.Reader
import SchemaDrift.Json.Writer

/-!
# Strings survive being written and read

Each character is written as something that the reader takes for that character and nothing
else: a letter escape, one or two numbers of four hexadecimal digits, or the character itself.

* `Text.hexNumber?_hexDigits` — numbers in hexadecimal digits.
* `Text.pairedScalar?_offset` — a code point as a pair of surrogates.
* `Json.readText_writeChar` — a single character.
* `Json.IsPrintable` — the printable characters; in plain ASCII no others are written for a
  string (`isPrintable_of_mem_writeText`), and in either style no control character but delete
  (`le_toNat_of_mem_writeText`).
* `Json.Reading.readString_writeText` — strings.
-/

namespace SchemaDrift

namespace Text

/-! ## Hexadecimal digits -/

theorem hexValue?_hexDigit {value : Nat} (h : value < 16) :
    hexValue? (hexDigit value) = some value := by
  have hall : ∀ value < 16, hexValue? (hexDigit value) = some value := by decide
  exact hall value h

theorem hexNumber?_concat (digits : List Char) (c : Char) :
    hexNumber? (digits ++ [c]) =
      (hexNumber? digits).bind fun value => (hexValue? c).map (value * 16 + ·) := by
  rw [hexNumber?, hexNumber?, List.foldl_append]
  cases digits.foldl _ _ <;> cases h : hexValue? c <;> simp [h]

/-- A number in enough digits is read back. -/
theorem hexNumber?_hexDigits {count value : Nat} (h : value < 16 ^ count) :
    hexNumber? (hexDigits count value) = some value := by
  induction count generalizing value with
  | zero =>
    have hzero : value = 0 := by simpa using h
    rw [hzero]
    rfl
  | succ count ih =>
    have hrest : value / 16 < 16 ^ count :=
      Nat.div_lt_of_lt_mul (by rw [Nat.pow_succ] at h; omega)
    rw [hexDigits, hexNumber?_concat, ih hrest, hexValue?_hexDigit (Nat.mod_lt value (by decide))]
    simp only [Option.bind_some, Option.map_some, Option.some.injEq]
    omega

/-! ## Code points -/

theorem toNat_lt_max (c : Char) : c.toNat < 0x110000 := by
  obtain h | ⟨-, h⟩ := c.valid
  · exact Nat.lt_trans h (by decide)
  · exact h

theorem scalarOf?_toNat (c : Char) : scalarOf? c.toNat = some c := by
  have hvalid : c.toNat.isValidChar := c.valid
  rw [scalarOf?, dif_pos hvalid]
  rfl

theorem scalarOf?_eq_none {code : Nat} (hlow : 0xd800 ≤ code) (hhigh : code < 0xe000) :
    scalarOf? code = none := by
  have hinvalid : ¬ code.isValidChar := by
    rintro (h | ⟨h, -⟩) <;> omega
  rw [scalarOf?, dif_neg hinvalid]

/-- A character past the first plane is that of its two surrogates. -/
theorem pairedScalar?_offset {c : Char} (h : 0x10000 ≤ c.toNat) :
    pairedScalar? (0xd800 + (c.toNat - 0x10000) / 0x400) (0xdc00 + (c.toNat - 0x10000) % 0x400) =
      some c := by
  have hbound : c.toNat < 0x110000 := toNat_lt_max c
  have hcode : 0x10000 + (0xd800 + (c.toNat - 0x10000) / 0x400 - 0xd800) * 0x400 +
      (0xdc00 + (c.toNat - 0x10000) % 0x400 - 0xdc00) = c.toNat := by omega
  rw [pairedScalar?, if_pos (by simp; omega), hcode, scalarOf?_toNat]

end Text

namespace Json

open Text

/-! ## Characters -/

/-- A letter escape stands for the character it is written for. -/
theorem escapedChar?_of_lookup {c letter : Char} (h : letterEscapes.lookup c = some letter) :
    letter ≠ 'u' ∧ escapedChar? letter = some c := by
  have hall : ∀ escape ∈ letterEscapes,
      escape.2 ≠ 'u' ∧ escapedChar? escape.2 = some escape.1 := by decide
  obtain ⟨before, after, hsplit, -⟩ := List.lookup_eq_some_iff.1 h
  exact hall (c, letter) (by simp [hsplit])

theorem readText_letter {letter c : Char} (hletter : letter ≠ 'u')
    (h : escapedChar? letter = some c) (rest : List Char) :
    readText ('\\' :: letter :: rest) = withFirst (some c) (readText rest) := by
  rw [readText.eq_4 letter rest fun _ _ _ _ _ hu _ => hletter hu, h]

theorem readText_unit16 {code : Nat} {c : Char} (hcode : code < 0x10000)
    (h : scalarOf? code = some c) (rest : List Char) :
    readText (unit16 code ++ rest) = withFirst (some c) (readText rest) := by
  have hdigits : hexNumber? (hexDigits 4 code) = some code := hexNumber?_hexDigits hcode
  simp only [hexDigits, List.nil_append, List.cons_append] at hdigits
  simp only [unit16, hexDigits, List.nil_append, List.cons_append, readText, hdigits, h]

theorem readText_surrogates {high low : Nat} {c : Char} (hhigh : high < 0x10000)
    (hlow : low < 0x10000) (hnone : scalarOf? high = none) (h : pairedScalar? high low = some c)
    (rest : List Char) :
    readText (unit16 high ++ unit16 low ++ rest) = withFirst (some c) (readText rest) := by
  have hhighDigits : hexNumber? (hexDigits 4 high) = some high := hexNumber?_hexDigits hhigh
  have hlowDigits : hexNumber? (hexDigits 4 low) = some low := hexNumber?_hexDigits hlow
  simp only [hexDigits, List.nil_append, List.cons_append] at hhighDigits hlowDigits
  simp only [unit16, hexDigits, List.nil_append, List.cons_append, readText, hhighDigits, hnone,
    hlowDigits, Option.bind_some, h]

theorem readText_escapeCode (c : Char) (rest : List Char) :
    readText (escapeCode c.toNat ++ rest) = withFirst (some c) (readText rest) := by
  unfold escapeCode
  split
  · rename_i hcode
    exact readText_unit16 hcode (scalarOf?_toNat c) rest
  · rename_i hcode
    have hbound : c.toNat < 0x110000 := toNat_lt_max c
    exact readText_surrogates (by omega) (by omega) (scalarOf?_eq_none (by omega) (by omega))
      (pairedScalar?_offset (by omega)) rest

theorem readText_plain {c : Char} (hquote : c ≠ '"') (hslash : c ≠ '\\') (hcode : 0x20 ≤ c.toNat)
    (rest : List Char) : readText (c :: rest) = withFirst (some c) (readText rest) := by
  have hread : ¬ (c.toNat < 0x20 || c = '\\') = true := by simp [hslash, hcode]
  rw [readText.eq_5 c rest hquote (fun _ _ _ _ _ h _ => hslash h) (fun _ _ h _ => hslash h),
    if_neg hread]

/-- Whatever is written for a character is read as that character. -/
theorem readText_writeChar (ascii : Bool) (c : Char) (rest : List Char) :
    readText (writeChar ascii c ++ rest) = withFirst (some c) (readText rest) := by
  unfold writeChar
  split
  · rename_i letter hletter
    obtain ⟨hne, hescaped⟩ := escapedChar?_of_lookup hletter
    exact readText_letter hne hescaped rest
  · rename_i hnone
    split
    · exact readText_escapeCode c rest
    · rename_i hplain
      have hcode : 0x20 ≤ c.toNat := Nat.le_of_not_lt fun hlt => hplain (by simp [hlt])
      refine readText_plain ?_ ?_ hcode rest
      · rintro rfl
        exact nomatch hnone
      · rintro rfl
        exact nomatch hnone

/-! ### Printable characters -/

/-- The printable characters of ASCII, from the space to the tilde. -/
def IsPrintable (c : Char) : Prop := 0x20 ≤ c.toNat ∧ c.toNat < 0x7f

instance (c : Char) : Decidable (IsPrintable c) := inferInstanceAs (Decidable (_ ∧ _))

theorem isPrintable_of_all {text : List Char} (h : text.all (IsPrintable ·) = true) {c : Char}
    (hmem : c ∈ text) : IsPrintable c :=
  of_decide_eq_true (List.all_eq_true.1 h c hmem)

theorem isPrintable_of_mem_hexDigits {count value : Nat} {d : Char}
    (h : d ∈ hexDigits count value) : IsPrintable d := by
  have hall : ∀ value < 16, IsPrintable (hexDigit value) := by decide
  induction count generalizing value with
  | zero => exact absurd h List.not_mem_nil
  | succ count ih =>
    rcases List.mem_append.1 h with hfront | hlast
    · exact ih hfront
    · rw [List.mem_singleton.1 hlast]
      exact hall _ (Nat.mod_lt value (by decide))

theorem isPrintable_of_mem_unit16 {code : Nat} {d : Char} (h : d ∈ unit16 code) :
    IsPrintable d := by
  rcases List.mem_cons.1 h with rfl | h
  · decide
  rcases List.mem_cons.1 h with rfl | h
  · decide
  · exact isPrintable_of_mem_hexDigits h

theorem isPrintable_of_mem_escapeCode {code : Nat} {d : Char} (h : d ∈ escapeCode code) :
    IsPrintable d := by
  unfold escapeCode at h
  split at h
  · exact isPrintable_of_mem_unit16 h
  · exact (List.mem_append.1 h).elim isPrintable_of_mem_unit16 isPrintable_of_mem_unit16

theorem isPrintable_of_mem_letterEscapes {c letter : Char}
    (h : letterEscapes.lookup c = some letter) : IsPrintable letter := by
  have hall : ∀ escape ∈ letterEscapes, IsPrintable escape.2 := by decide
  obtain ⟨front, back, hsplit, -⟩ := List.lookup_eq_some_iff.1 h
  exact hall (c, letter) (by simp [hsplit])

/-- A character is written as printable ones, unless it is written as it is. -/
theorem isPrintable_or_of_mem_writeChar {ascii : Bool} {c d : Char} (h : d ∈ writeChar ascii c) :
    IsPrintable d ∨ d = c ∧ 0x20 ≤ c.toNat ∧ (ascii = true → c.toNat < 0x7f) := by
  unfold writeChar at h
  split at h
  case h_1 letter hletter =>
    rcases List.mem_cons.1 h with rfl | hlast
    · exact .inl (by decide)
    · rw [List.mem_singleton.1 hlast]
      exact .inl (isPrintable_of_mem_letterEscapes hletter)
  case h_2 =>
    split at h
    case isTrue => exact .inl (isPrintable_of_mem_escapeCode h)
    case isFalse hplain =>
      have hcode : 0x20 ≤ c.toNat ∧ (ascii = true → c.toNat < 0x7f) := by simpa using hplain
      exact .inr ⟨List.mem_singleton.1 h, hcode⟩

/-- Nothing below the space is written for a character. -/
theorem le_toNat_of_mem_writeChar {ascii : Bool} {c d : Char} (h : d ∈ writeChar ascii c) :
    0x20 ≤ d.toNat := by
  obtain hprintable | ⟨rfl, hcode, -⟩ := isPrintable_or_of_mem_writeChar h
  · exact hprintable.1
  · exact hcode

/-- In plain ASCII nothing but printable characters is written for a character. -/
theorem isPrintable_of_mem_writeChar {c d : Char} (h : d ∈ writeChar true c) :
    IsPrintable d := by
  obtain hprintable | ⟨rfl, hcode, hascii⟩ := isPrintable_or_of_mem_writeChar h
  · exact hprintable
  · exact ⟨hcode, hascii rfl⟩

/-! ## Strings -/

/-- Nothing below the space is written for a string. -/
theorem le_toNat_of_mem_writeText {ascii : Bool} {value : List Char} {d : Char}
    (h : d ∈ writeText ascii value) : 0x20 ≤ d.toNat := by
  rcases List.mem_append.1 h with hfront | hlast
  · rcases List.mem_cons.1 hfront with rfl | hvalue
    · decide
    · obtain ⟨c, -, hc⟩ := List.mem_flatMap.1 hvalue
      exact le_toNat_of_mem_writeChar hc
  · rw [List.mem_singleton.1 hlast]
    decide

theorem isPrintable_of_mem_writeText {value : List Char} {d : Char}
    (h : d ∈ writeText true value) : IsPrintable d := by
  rcases List.mem_append.1 h with hfront | hlast
  · rcases List.mem_cons.1 hfront with rfl | hvalue
    · decide
    · obtain ⟨c, -, hc⟩ := List.mem_flatMap.1 hvalue
      exact isPrintable_of_mem_writeChar hc
  · rw [List.mem_singleton.1 hlast]
    decide

theorem readText_writeText (ascii : Bool) (value rest : List Char) :
    readText (value.flatMap (writeChar ascii) ++ '"' :: rest) = some (value.map some, rest) := by
  induction value with
  | nil => rw [List.flatMap_nil, List.nil_append, readText]; rfl
  | cons c value ih =>
    rw [List.flatMap_cons, List.append_assoc, readText_writeChar, ih]
    rfl

theorem wholeText?_map_some (value : List Char) :
    wholeText? (value.map some) = some (String.ofList value) := by
  have hall : (value.map some).mapM id = some value := by
    induction value with
    | nil => rfl
    | cons c value ih => rw [List.map_cons, List.mapM_cons, ih]; rfl
  rw [wholeText?, hall]
  rfl

/-- A string is read back, in either style and whatever else the reader refuses. -/
theorem Reading.readString_writeText (reading : Reading) (ascii : Bool) (value rest : List Char) :
    reading.readString (value.flatMap (writeChar ascii) ++ '"' :: rest) =
      some (some (String.ofList value), rest) := by
  rw [Reading.readString, readText_writeText]
  simp [wholeText?_map_some]

end Json

end SchemaDrift
