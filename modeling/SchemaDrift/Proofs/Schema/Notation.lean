import SchemaDrift.Proofs.Schema.WellFormed
import SchemaDrift.Proofs.Text.Names

/-!
# The notation of type references

Marks and brackets pair up however deep lists stand inside one another, so a reference can be read
off its notation.

* `TypeRef.ofNotation` — the reference that a text in the notation stands for.
* `TypeRef.Legible` — the references that a document can write, with a name of the schema language
  at the core.
* `ofNotation_text`, `text_inj_iff` — they are read off their notation, so no two of them share one.
-/

namespace SchemaDrift.TypeRef

open Text

/-! ## Reading the notation -/

/-- The reference that a text stands for: an exclamation mark at its end rules out null, brackets
around it make a list, and anything else is a name. -/
def ofNotation (text : List Char) : TypeRef :=
  if _hmark : text.getLast? = some '!' then .nonNull (ofNotation text.dropLast)
  else if _hlist : text.head? = some '[' ∧ text.getLast? = some ']' then
    .list (ofNotation text.tail.dropLast)
  else .named (String.ofList text)
termination_by text.length
decreasing_by
  · have hne : text ≠ [] := by
      rintro rfl
      exact nomatch _hmark
    have hpos := List.length_pos_iff.2 hne
    rw [List.length_dropLast]
    omega
  · have hne : text ≠ [] := by
      rintro rfl
      exact nomatch _hlist.1
    have hpos := List.length_pos_iff.2 hne
    rw [List.length_dropLast, List.length_tail]
    omega

theorem ofNotation_append_mark (inner : List Char) :
    ofNotation (inner ++ ['!']) = .nonNull (ofNotation inner) := by
  rw [ofNotation, dif_pos List.getLast?_concat, List.dropLast_concat]

theorem ofNotation_brackets (item : List Char) :
    ofNotation ('[' :: item ++ [']']) = .list (ofNotation item) := by
  have hlast : ('[' :: item ++ [']']).getLast? = some ']' := List.getLast?_concat
  have hmark : ('[' :: item ++ [']']).getLast? ≠ some '!' := by
    rw [hlast]
    decide
  rw [ofNotation, dif_neg hmark, dif_pos ⟨rfl, hlast⟩, List.cons_append, List.tail_cons,
    List.dropLast_concat]

theorem ofNotation_name {name : List Char} (h : isName name = true) :
    ofNotation name = .named (String.ofList name) := by
  -- A name ends in neither a mark nor a bracket.
  have hchar : ∀ {c : Char}, isNameChar c = false → name.getLast? ≠ some c := by
    intro c hc hlast
    have hname := forall_isNameChar_of_isName h c (List.mem_of_getLast? hlast)
    exact Bool.false_ne_true (hc.symm.trans hname)
  rw [ofNotation, dif_neg (hchar (by decide)), dif_neg fun hlist => hchar (by decide) hlist.2]

/-! ## References that can be read -/

/-- A reference that a document can write, with a name of the schema language at the core. -/
structure Legible (ref : TypeRef) : Prop where
  proper : ref.Proper
  core : isName ref.namedType.toList = true

instance decidableLegible : DecidablePred Legible := fun ref =>
  decidable_of_iff (ref.Proper ∧ isName ref.namedType.toList = true)
    ⟨fun h => ⟨h.1, h.2⟩, fun h => ⟨h.proper, h.core⟩⟩

theorem legible_list {item : TypeRef} : Legible (.list item) ↔ item.Legible :=
  ⟨fun h => ⟨h.proper, h.core⟩, fun h => ⟨h.proper, h.core⟩⟩

theorem Legible.inner {inner : TypeRef} (h : Legible (.nonNull inner)) : inner.Legible :=
  ⟨h.proper.2, h.core⟩

theorem ofNotation_text {ref : TypeRef} (h : ref.Legible) : ofNotation ref.text.toList = ref := by
  induction ref with
  | absent => exact h.proper.elim
  | unnamed => exact h.proper.elim
  | named name =>
    have hname : isName name.toList = true := h.core
    rw [text, ofNotation_name hname, String.ofList_toList]
  | list item ih =>
    have htext : (list item).text.toList = '[' :: item.text.toList ++ [']'] := by
      simp [text, String.toList_append]
    rw [htext, ofNotation_brackets, ih (legible_list.1 h)]
  | nonNull inner ih =>
    have htext : (nonNull inner).text.toList = inner.text.toList ++ ['!'] := by
      simp [text, String.toList_append]
    rw [htext, ofNotation_append_mark, ih h.inner]

theorem text_inj_iff {one other : TypeRef} (hone : one.Legible) (hother : other.Legible) :
    one.text = other.text ↔ one = other := by
  constructor
  · intro h
    rw [← ofNotation_text hone, h, ofNotation_text hother]
  · rintro rfl
    rfl

/-- A name that is not one of the schema language may end in a mark. -/
example : (named "A!").text = (nonNull (named "A")).text := by decide

/-- A notation consists of the characters of names, brackets and exclamation marks. -/
theorem isNameChar_or_mem_of_mem_text {ref : TypeRef} (h : ref.Legible) {c : Char}
    (hc : c ∈ ref.text.toList) : isNameChar c = true ∨ c ∈ ['[', ']', '!'] := by
  induction ref with
  | absent => exact h.proper.elim
  | unnamed => exact h.proper.elim
  | named name => exact .inl (forall_isNameChar_of_isName h.core c hc)
  | list item ih =>
    simp only [text, String.toList_append, List.mem_append] at hc
    obtain (hopen | hitem) | hclose := hc
    · exact .inr (List.mem_cons.2 (.inl (List.mem_singleton.1 hopen)))
    · exact ih (legible_list.1 h) hitem
    · exact .inr (List.mem_cons_of_mem _ (List.mem_cons.2 (.inl (List.mem_singleton.1 hclose))))
  | nonNull inner ih =>
    simp only [text, String.toList_append, List.mem_append] at hc
    obtain hinner | hmark := hc
    · exact ih h.inner hinner
    · exact .inr (List.mem_cons_of_mem _ (List.mem_cons_of_mem _ hmark))

end SchemaDrift.TypeRef
