import SchemaDrift.Proofs.Locate.Passages
import SchemaDrift.Proofs.Sdl.Numbers

/-!
# The extent of strings

What the lexer reads as a string ends where the string ends for a reader that knows nothing of
its value: at the next quote that no backslash hides.

* `IsQuoted.append_escape` — an escape hides no end of a string.
* `exists_quoted_of_quotedText` — strings in quotes.
* `exists_block_of_blockText` — strings in triple quotes.
-/

namespace SchemaDrift.Sdl

open Text

/-! ## Escapes -/

/-- A character that has no meaning of its own inside quotes. -/
def IsInner (c : Char) : Prop := c ≠ '"' ∧ c ≠ '\\' ∧ isBreak c = false

theorem isQuoted_append_inner {front : List Char} (h : ∀ c ∈ front, IsInner c)
    {more : List Char} (hmore : IsQuoted more) : IsQuoted (front ++ more) := by
  induction front with
  | nil => exact hmore
  | cons c front ih =>
    obtain ⟨⟨hquote, hbackslash, hbreak⟩, hfront⟩ := List.forall_mem_cons.1 h
    exact .char hquote hbackslash hbreak (ih hfront)

theorem isInner_of_hexValue? {c : Char} {value : Nat} (h : hexValue? c = some value) :
    IsInner c := by
  have hne {d : Char} (hd : hexValue? d = none) : c ≠ d := by
    rintro rfl
    exact absurd (hd.symm.trans h) nofun
  refine ⟨hne (by decide), hne (by decide), ?_⟩
  simp [isBreak, hne (show hexValue? '\n' = none by decide),
    hne (show hexValue? '\r' = none by decide)]

theorem isInner_of_hexNumber? {digits : List Char} {value : Nat}
    (h : hexNumber? digits = some value) : ∀ c ∈ digits, IsInner c := by
  unfold hexNumber? at h
  generalize some 0 = start at h
  induction digits generalizing start with
  | nil => simp
  | cons c digits ih =>
    intro d hd
    rcases List.mem_cons.1 hd with rfl | hd
    · cases hvalue : hexValue? d with
      | some value => exact isInner_of_hexValue? hvalue
      | none =>
        have hnone : (digits.foldl
            (fun value c => do return (← value) * 16 + (← hexValue? c)) none) = none := by
          clear h ih hd
          induction digits with
          | nil => rfl
          | cons _ _ ih => exact ih
        rw [List.foldl_cons, hvalue] at h
        cases start <;> exact absurd (hnone.symm.trans h) nofun
    · exact ih _ h d hd

theorem isInner_of_fourDigits? {text : List Char} {code : Nat} (h : fourDigits? text = some code) :
    (text.take 4).length = 4 ∧ ∀ c ∈ text.take 4, IsInner c := by
  unfold fourDigits? at h
  dsimp only at h
  split at h
  case isFalse => exact absurd h nofun
  case isTrue hlength => exact ⟨hlength, isInner_of_hexNumber? h⟩

/-- The digits of an escape in braces, with the closing one. -/
theorem exists_digits_of_bracedEscape {count value size : Nat} {text : List Char} {scalar : Char}
    (h : bracedEscape count value text = .ok (scalar, size)) :
    ∃ digits after, text = digits ++ after ∧ count + digits.length = size ∧
      ∀ c ∈ digits, IsInner c := by
  induction text generalizing count value with
  | nil => exact absurd h nofun
  | cons c rest ih =>
    unfold bracedEscape at h
    split at h
    case isTrue hc =>
      split at h
      · obtain ⟨-, rfl⟩ := Prod.mk.inj (Except.ok.inj h)
        refine ⟨[c], rest, rfl, rfl, List.forall_mem_singleton.2 ?_⟩
        rw [hc]
        exact ⟨by decide, by decide, by decide⟩
      · exact absurd h nofun
    case isFalse =>
      split at h
      case h_2 => exact absurd h nofun
      case h_1 digit hdigit =>
        obtain ⟨digits, after, rfl, hsize, hinner⟩ := ih h
        refine ⟨c :: digits, after, rfl, ?_, ?_⟩
        · rw [List.length_cons]
          omega
        · exact List.forall_mem_cons.2 ⟨isInner_of_hexValue? hdigit, hinner⟩

/-- The text starts with a piece of the given size that may stand between quotes before
anything that may. -/
def IsEscape (text : List Char) (size : Nat) : Prop :=
  ∃ piece after, text = piece ++ after ∧ piece.length = size ∧ 0 < size ∧
    ∀ more, IsQuoted more → IsQuoted (piece ++ more)

theorem isEscape_pair (c : Char) (rest : List Char) (h : isBreak c = false) :
    IsEscape ('\\' :: c :: rest) 2 := ⟨['\\', c], rest, rfl, rfl, by decide, fun _ => .escape h⟩

theorem IsEscape.append {text : List Char} {size : Nat} (h : IsEscape text size)
    {other : List Char} {count : Nat} (htext : text.drop size = other)
    (hother : IsEscape other count) : IsEscape text (size + count) := by
  obtain ⟨piece, after, rfl, rfl, hpos, hpiece⟩ := h
  rw [List.drop_left] at htext
  obtain ⟨next, rest, rfl, rfl, -, hnext⟩ := hother
  refine ⟨piece ++ next, rest, ?_, List.length_append, by omega, fun more hmore => ?_⟩
  · rw [htext, List.append_assoc]
  · rw [List.append_assoc]
    exact hpiece _ (hnext more hmore)

theorem isEscape_of_fourDigits? {text : List Char} {code : Nat}
    (h : fourDigits? text = some code) : IsEscape text 4 := by
  obtain ⟨hlength, hinner⟩ := isInner_of_fourDigits? h
  exact ⟨text.take 4, text.drop 4, (List.take_append_drop ..).symm, hlength, by decide,
    fun _ => isQuoted_append_inner hinner⟩

theorem isEscape_unicode {text : List Char} {scalar : Char} {size : Nat}
    (h : unicodeEscape ('\\' :: 'u' :: text) = .ok (scalar, size)) :
    IsEscape ('\\' :: 'u' :: text) size := by
  have hopen : IsEscape ('\\' :: 'u' :: text) 2 := isEscape_pair 'u' text (by decide)
  unfold unicodeEscape at h
  simp only [List.drop_succ_cons, List.drop_zero] at h
  split at h
  case h_1 rest =>
    split at h
    case h_2 => exact absurd h nofun
    case h_1 scalar' size' hbraced =>
      obtain ⟨-, rfl⟩ := Prod.mk.inj (Except.ok.inj h)
      obtain ⟨digits, after, htake, hsize, hinner⟩ := exists_digits_of_bracedEscape hbraced
      have hrest : rest = digits ++ (after ++ rest.drop 9) := by
        rw [← List.append_assoc, ← htake, List.take_append_drop]
      refine ⟨'\\' :: 'u' :: '\x7b' :: digits, after ++ rest.drop 9, ?_, ?_, by omega,
        fun more hmore => ?_⟩
      · exact congrArg (fun rest => '\\' :: 'u' :: '\x7b' :: rest) hrest
      · simp only [List.length_cons]
        omega
      · refine .escape (by decide) (.char (by decide) (by decide) (by decide) ?_)
        exact isQuoted_append_inner hinner hmore
  case h_2 =>
    split at h
    case h_1 => exact absurd h nofun
    case h_2 code hcode =>
      split at h
      case h_1 =>
        obtain ⟨-, rfl⟩ := Prod.mk.inj (Except.ok.inj h)
        exact hopen.append rfl (isEscape_of_fourDigits? hcode)
      case h_3 => exact absurd h nofun
      case h_2 more _ hmore =>
        split at h
        case h_2 => exact absurd h nofun
        case h_1 scalar' hpaired =>
          obtain ⟨-, rfl⟩ := Prod.mk.inj (Except.ok.inj h)
          obtain ⟨low, hlow, -⟩ := Option.bind_eq_some_iff.1 hpaired
          have hsecond : IsEscape ('\\' :: 'u' :: more) 2 := isEscape_pair 'u' more (by decide)
          have hfirst : IsEscape ('\\' :: 'u' :: text) 6 :=
            hopen.append rfl (isEscape_of_fourDigits? hcode)
          exact hfirst.append hmore (hsecond.append rfl (isEscape_of_fourDigits? hlow))

/-- An escape hides no quote that would end the string. -/
theorem isEscape_of_escape {text : List Char} {decoded : Char} {size : Nat}
    (h : escape ('\\' :: text) = .ok (decoded, size)) : IsEscape ('\\' :: text) size := by
  unfold escape at h
  split at h
  case h_3 => cases h
  case h_1 rest heq =>
    obtain ⟨-, rfl⟩ := List.cons.inj heq
    exact isEscape_unicode h
  case h_2 c rest _ heq =>
    obtain ⟨-, rfl⟩ := List.cons.inj heq
    split at h
    case h_2 => cases h
    case h_1 decoded' hdecoded =>
      obtain ⟨-, rfl⟩ := Prod.mk.inj (Except.ok.inj h)
      refine isEscape_pair c rest ?_
      cases hbreak : isBreak c with
      | false => rfl
      | true =>
        simp only [isBreak, Bool.or_eq_true, beq_iff_eq] at hbreak
        rcases hbreak with rfl | rfl
        · have hnone : escapedChar? '\n' = none := rfl
          exact absurd (hdecoded.symm.trans hnone) (Option.some_ne_none _)
        · have hnone : escapedChar? '\r' = none := rfl
          exact absurd (hdecoded.symm.trans hnone) (Option.some_ne_none _)

/-! ## Strings in quotes -/

/-- Characters that belong to an escape are passed. -/
theorem exists_rest_of_quotedText {taken : Nat} {text : List Char} {value : List Char}
    {passed : Nat} (h : quotedText taken text = .ok (value, passed)) :
    ∃ front rest after, text = front ++ rest ∧ front.length = taken ∧
      quotedText 0 rest = .ok (value, after) ∧ passed = taken + after := by
  induction taken generalizing text passed with
  | zero => exact ⟨[], text, passed, rfl, rfl, h, (Nat.zero_add _).symm⟩
  | succ taken ih =>
    cases text with
    | nil => exact absurd h nofun
    | cons c text =>
      rw [quotedText] at h
      obtain ⟨⟨value', passed'⟩, hrest, h⟩ := exists_ok_of_bind h
      obtain ⟨rfl, rfl⟩ := Prod.mk.inj (Except.ok.inj h)
      obtain ⟨front, rest, after, rfl, rfl, hafter, rfl⟩ := ih hrest
      refine ⟨c :: front, rest, after, rfl, rfl, hafter, ?_⟩
      omega

/-- What is read as a string in quotes stands up to the quote that closes it. -/
theorem exists_quoted_of_quotedText {text value : List Char} {passed : Nat}
    (h : quotedText 0 text = .ok (value, passed)) :
    ∃ content rest, text = content ++ '"' :: rest ∧ IsQuoted content ∧
      passed = content.length + 1 := by
  induction hlength : text.length using Nat.strongRecOn generalizing text value passed with
  | ind length ih =>
  cases text with
  | nil => exact absurd h nofun
  | cons c text =>
    rw [quotedText] at h
    split at h
    case isTrue hquote =>
      obtain ⟨-, rfl⟩ := Prod.mk.inj (Except.ok.inj h)
      exact ⟨[], text, by rw [hquote]; rfl, .nil, rfl⟩
    case isFalse hquote =>
      split at h
      case isTrue hbackslash =>
        split at h
        case h_1 => exact absurd h nofun
        case h_2 decoded size hescape =>
          obtain ⟨⟨value', passed'⟩, hrest, h⟩ := exists_ok_of_bind h
          obtain ⟨rfl, rfl⟩ := Prod.mk.inj (Except.ok.inj h)
          subst hbackslash
          obtain ⟨piece, after, hpiece, rfl, hpos, hescaped⟩ := isEscape_of_escape hescape
          obtain ⟨front, rest, left, rfl, hfront, hleft, rfl⟩ := exists_rest_of_quotedText hrest
          have hsplit : ('\\' :: front) ++ rest = piece ++ after := hpiece
          obtain ⟨rfl, rfl⟩ := List.append_inj hsplit (by rw [List.length_cons]; omega)
          obtain ⟨content, rest, rfl, hcontent, rfl⟩ :=
            ih rest.length (by simp only [← hlength, List.length_cons, List.length_append]; omega)
              hleft rfl
          refine ⟨'\\' :: (front ++ content), rest, ?_, hescaped content hcontent, ?_⟩
          · rw [List.cons_append, List.append_assoc]
          · simp only [List.length_cons, List.length_append]
            omega
      case isFalse hbackslash =>
        split at h
        case isTrue => exact absurd h nofun
        case isFalse hbreak =>
          obtain ⟨⟨value', passed'⟩, hrest, h⟩ := exists_ok_of_bind h
          obtain ⟨rfl, rfl⟩ := Prod.mk.inj (Except.ok.inj h)
          obtain ⟨content, rest, rfl, hcontent, rfl⟩ :=
            ih text.length (by rw [← hlength]; exact Nat.lt_succ_self _) hrest rfl
          exact ⟨c :: content, rest, rfl,
            .char hquote hbackslash (Bool.eq_false_iff.2 hbreak) hcontent, rfl⟩

/-! ## Strings in triple quotes -/

/-- What is read as a string in triple quotes stands up to the quotes that close it. -/
theorem exists_block_of_blockText {text value : List Char} {passed : Nat}
    (h : blockText text = some (value, passed)) :
    ∃ content rest, text = content ++ (tripleQuote ++ rest) ∧ IsBlock content ∧
      passed = content.length + 3 := by
  fun_induction blockText text generalizing value passed with
  | case1 => exact absurd h nofun
  | case2 rest =>
    obtain ⟨-, rfl⟩ := Prod.mk.inj (Option.some.inj h)
    exact ⟨[], rest, rfl, .nil, rfl⟩
  | case3 rest ih =>
    obtain ⟨⟨value', passed'⟩, hrest, h⟩ := Option.map_eq_some_iff.1 h
    obtain ⟨rfl, rfl⟩ := Prod.mk.inj h
    obtain ⟨content, after, rfl, hcontent, rfl⟩ := ih hrest
    exact ⟨'\\' :: (tripleQuote ++ content), after, rfl, .escape hcontent, rfl⟩
  | case4 rest ih =>
    obtain ⟨⟨value', passed'⟩, hrest, h⟩ := Option.map_eq_some_iff.1 h
    obtain ⟨rfl, rfl⟩ := Prod.mk.inj h
    obtain ⟨content, after, rfl, hcontent, rfl⟩ := ih hrest
    refine ⟨'\r' :: '\n' :: content, after, rfl, .char ?_ ?_ (.char ?_ ?_ hcontent), rfl⟩
    all_goals simp [tripleQuote]
  | case5 rest _ ih =>
    obtain ⟨⟨value', passed'⟩, hrest, h⟩ := Option.map_eq_some_iff.1 h
    obtain ⟨rfl, rfl⟩ := Prod.mk.inj h
    obtain ⟨content, after, rfl, hcontent, rfl⟩ := ih hrest
    refine ⟨'\r' :: content, after, rfl, .char ?_ ?_ hcontent, rfl⟩
    all_goals simp [tripleQuote]
  | case6 c rest hclosing hescape _ _ ih =>
    obtain ⟨⟨value', passed'⟩, hrest, h⟩ := Option.map_eq_some_iff.1 h
    obtain ⟨rfl, rfl⟩ := Prod.mk.inj h
    obtain ⟨content, after, rfl, hcontent, rfl⟩ := ih hrest
    refine ⟨c :: content, after, rfl, .char ?_ ?_ hcontent, rfl⟩
    · rintro ⟨more, hmore⟩
      obtain ⟨rfl, hquotes⟩ := List.cons.inj hmore
      exact hclosing (more ++ after) rfl (by rw [← List.append_assoc, ← hquotes]; rfl)
    · rintro ⟨more, hmore⟩
      obtain ⟨rfl, hquotes⟩ := List.cons.inj hmore
      exact hescape (more ++ after) rfl (by rw [← List.append_assoc, ← hquotes]; rfl)

end SchemaDrift.Sdl
