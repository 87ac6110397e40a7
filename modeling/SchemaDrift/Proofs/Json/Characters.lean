import SchemaDrift.Proofs.Json.RoundTrip

/-!
# The characters of written values

In the style of plain ASCII nothing is written but printable characters, and the line feeds
of the layout that spreads values over lines.

* `Json.isPrintable_of_mem_toString` — integers.
* `Json.Style.MayWrite` — the characters that a style may write.
* `Json.Plain.mayWrite_of_mem_writeAt` — values.
-/

namespace SchemaDrift.Json

open Text

/-! ## Integers -/

theorem isPrintable_of_isDigit {c : Char} (h : isDigit c = true) : IsPrintable c := by
  have hrange : 0x30 ≤ c.toNat ∧ c.toNat ≤ 0x39 := by
    simpa [isDigit, Char.le_def, UInt32.le_iff_toNat_le] using h
  exact ⟨by omega, by omega⟩

theorem isPrintable_of_mem_toString {value : Int} {c : Char} (h : c ∈ (toString value).toList) :
    IsPrintable c := by
  rw [Numeral.toList_toString] at h
  obtain hsign | hwhole := List.mem_append.1 h
  · obtain hnone | hminus := Numeral.sign_ofInt value
    · rw [hnone] at hsign
      exact nomatch hsign
    · rw [hminus] at hsign
      rw [List.mem_singleton.1 hsign]
      decide
  · exact isPrintable_of_isDigit (Numeral.isDigit_of_mem_toDigits hwhole)

/-! ## Values -/

/-- The characters that a style of plain ASCII may write: printable ones, and line feeds if
values are spread over lines. -/
def Style.MayWrite (style : Style) (c : Char) : Prop :=
  IsPrintable c ∨ style.layout = .indented ∧ c = '\n'

section Values

variable {reading : Reading} {style : Style} {depth : Nat} {c : Char}

theorem mayWrite_of_mem_lead (h : c ∈ style.layout.lead depth) : style.MayWrite c := by
  cases hlayout : style.layout with
  | indented =>
    rw [hlayout] at h
    obtain rfl | h := List.mem_cons.1 h
    · exact .inr ⟨hlayout, rfl⟩
    · rw [List.eq_of_mem_replicate h]
      exact .inl (by decide)
  | dense => rw [hlayout] at h; exact nomatch h
  | spaced => rw [hlayout] at h; exact nomatch h

theorem mayWrite_of_mem_separator (h : c ∈ style.layout.separator depth) :
    style.MayWrite c := by
  cases hlayout : style.layout with
  | indented =>
    rw [hlayout] at h
    obtain rfl | h := List.mem_cons.1 h
    · exact .inl (by decide)
    · rw [← hlayout] at h
      exact mayWrite_of_mem_lead h
  | dense =>
    have hall : [','].all (IsPrintable ·) = true := by decide
    rw [hlayout] at h
    exact .inl (isPrintable_of_all hall h)
  | spaced =>
    have hall : [',', ' '].all (IsPrintable ·) = true := by decide
    rw [hlayout] at h
    exact .inl (isPrintable_of_all hall h)

theorem isPrintable_of_mem_colon (h : c ∈ style.layout.colon) : IsPrintable c := by
  refine isPrintable_of_all ?_ h
  cases style.layout <;> decide

theorem mayWrite_of_mem_writeItems {items : List Json}
    (hitems : ∀ item ∈ items, ∀ c ∈ writeAt style depth item, style.MayWrite c)
    (h : c ∈ writeItems style depth items) : style.MayWrite c := by
  induction items with
  | nil =>
    rw [writeItems] at h
    exact absurd h List.not_mem_nil
  | cons item rest ih =>
    obtain ⟨hitem, hrest⟩ := List.forall_mem_cons.1 hitems
    simp only [writeItems, List.mem_append] at h
    obtain (h | h) | h := h
    · exact mayWrite_of_mem_separator h
    · exact hitem c h
    · exact ih hrest h

theorem mayWrite_of_mem_writeMembers (hascii : style.ascii = true)
    {members : List (String × Json)}
    (hmembers : ∀ member ∈ members, ∀ c ∈ writeAt style depth member.2, style.MayWrite c)
    (h : c ∈ writeMembers style depth members) : style.MayWrite c := by
  induction members with
  | nil =>
    rw [writeMembers] at h
    exact absurd h List.not_mem_nil
  | cons member rest ih =>
    obtain ⟨hmember, hrest⟩ := List.forall_mem_cons.1 hmembers
    simp only [writeMembers, List.mem_append, hascii] at h
    obtain (((h | h) | h) | h) | h := h
    · exact mayWrite_of_mem_separator h
    · exact .inl (isPrintable_of_mem_writeText h)
    · exact .inl (isPrintable_of_mem_colon h)
    · exact hmember c h
    · exact ih hrest h

theorem mayWrite_of_mem_array {items : List Json}
    (hitems : ∀ item ∈ items, ∀ c ∈ writeAt style (depth + 1) item, style.MayWrite c)
    (h : c ∈ writeAt style depth (.array items)) : style.MayWrite c := by
  cases items with
  | nil =>
    rw [writeAt] at h
    exact .inl (isPrintable_of_all (by decide) h)
  | cons first rest =>
    obtain ⟨hfirst, hrest⟩ := List.forall_mem_cons.1 hitems
    simp only [writeAt, List.mem_append, List.mem_cons, List.not_mem_nil, or_false] at h
    obtain ((((rfl | h) | h) | h) | h) | rfl := h
    · exact .inl (by decide)
    · exact mayWrite_of_mem_lead h
    · exact hfirst c h
    · exact mayWrite_of_mem_writeItems hrest h
    · exact mayWrite_of_mem_lead h
    · exact .inl (by decide)

theorem mayWrite_of_mem_object (hascii : style.ascii = true) {members : List (String × Json)}
    (hmembers : ∀ member ∈ members, ∀ c ∈ writeAt style (depth + 1) member.2, style.MayWrite c)
    (h : c ∈ writeAt style depth (.object members)) : style.MayWrite c := by
  cases members with
  | nil =>
    rw [writeAt] at h
    exact .inl (isPrintable_of_all (by decide) h)
  | cons first rest =>
    obtain ⟨name, value⟩ := first
    obtain ⟨hfirst, hrest⟩ := List.forall_mem_cons.1 hmembers
    simp only [writeAt, List.mem_append, List.mem_cons, List.not_mem_nil, or_false, hascii] at h
    obtain ((((((rfl | h) | h) | h) | h) | h) | h) | rfl := h
    · exact .inl (by decide)
    · exact mayWrite_of_mem_lead h
    · exact .inl (isPrintable_of_mem_writeText h)
    · exact .inl (isPrintable_of_mem_colon h)
    · exact hfirst c h
    · exact mayWrite_of_mem_writeMembers hascii hrest h
    · exact mayWrite_of_mem_lead h
    · exact .inl (by decide)

/-- Whatever texts a plain value holds, a style of plain ASCII writes nothing else for it. -/
theorem Plain.mayWrite_of_mem_writeAt {json : Json} (hplain : json.Plain reading)
    (hascii : style.ascii = true) (h : c ∈ writeAt style depth json) : style.MayWrite c := by
  induction hplain generalizing depth c with
  | null =>
    rw [writeAt] at h
    exact .inl (isPrintable_of_all (by decide) h)
  | bool value =>
    rw [writeAt] at h
    refine .inl (isPrintable_of_all ?_ h)
    cases value <;> decide
  | int hreads =>
    rw [writeAt] at h
    exact .inl (isPrintable_of_mem_toString h)
  | text value =>
    rw [writeAt, hascii] at h
    exact .inl (isPrintable_of_mem_writeText h)
  | array hitems ih => exact mayWrite_of_mem_array (fun item hitem _ => ih item hitem) h
  | object hmembers ih =>
    exact mayWrite_of_mem_object hascii (fun member hmember _ => ih member hmember) h

end Values

end SchemaDrift.Json
