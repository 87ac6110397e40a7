import Mathlib.Data.List.TakeWhile
import SchemaDrift.Proofs.Text.Names
import SchemaDrift.Sdl.Lexeme

/-!
# Characters of numbers

* `isNumber` — a whole number.
* `numberBefore_of_afterNumber` — the text that is read as a number, and of which kind that is.
* `isNumberChar_of_isNumber` — the characters it may have.
-/

namespace SchemaDrift.Sdl

open Text

/-- Is the whole text a number? -/
def isNumber (text : List Char) : Bool :=
  match afterNumber text with
  | .ok ([], _) => true
  | _ => false

/-- A character that may stand in a number. -/
def isNumberChar (c : Char) : Bool :=
  isDigit c || c == '-' || c == '+' || c == '.' || c == 'e' || c == 'E'

/-- A character that stands in numbers with a fraction or an exponent only. -/
def isFloatMark (c : Char) : Bool := c == '.' || c == 'e' || c == 'E'

/-- Characters of a number stand before the rest of a text.  No name starts among them, the last
one is a digit if the one before them is, and it is said whether one of them belongs to a fraction
or an exponent. -/
def NumberBefore (inName marked : Bool) (text rest : List Char) : Prop :=
  ∃ front, text = front ++ rest ∧ (∀ c ∈ front, isNumberChar c = true) ∧
    isQuiet inName front = true ∧ endsInName inName front = true ∧
      front.any isFloatMark = marked

theorem NumberBefore.refl (text : List Char) : NumberBefore true false text text :=
  ⟨[], rfl, fun _ h => absurd h List.not_mem_nil, rfl, rfl, rfl⟩

theorem NumberBefore.cons {c : Char} {inName marked : Bool} {text rest : List Char}
    (hc : isNumberChar c = true) (hquiet : (inName || !isNameStart c) = true)
    (h : NumberBefore (isNameChar c) marked text rest) :
    NumberBefore inName (isFloatMark c || marked) (c :: text) rest := by
  obtain ⟨front, rfl, hfront, hinner, hends, rfl⟩ := h
  refine ⟨c :: front, rfl, List.forall_mem_cons.2 ⟨hc, hfront⟩, ?_, hends, rfl⟩
  rw [isQuiet, hquiet, hinner, Bool.true_and]

theorem NumberBefore.trans {inName marked marked' : Bool} {text middle rest : List Char}
    (h : NumberBefore inName marked text middle) (h' : NumberBefore true marked' middle rest) :
    NumberBefore inName (marked || marked') text rest := by
  obtain ⟨front, rfl, hfront, hquiet, hends, rfl⟩ := h
  obtain ⟨back, rfl, hback, hquiet', hends', rfl⟩ := h'
  refine ⟨front ++ back, (List.append_assoc ..).symm, List.forall_mem_append.2 ⟨hfront, hback⟩,
    ?_, ?_, List.any_append⟩
  · rw [isQuiet_append, hquiet, hends, hquiet', Bool.true_and]
  · rw [endsInName_append, hends, hends']

theorem isNumberChar_of_isDigit {c : Char} (h : isDigit c = true) : isNumberChar c = true := by
  simp [isNumberChar, h]

theorem isNameStart_eq_false_of_isDigit {c : Char} (h : isDigit c = true) :
    isNameStart c = false := by
  simp only [isDigit, Bool.and_eq_true, decide_eq_true_eq, Char.le_def, UInt32.le_iff_toNat_le]
    at h
  cases hc : isNameStart c with
  | false => rfl
  | true =>
    simp only [isNameStart, isLetter, Bool.or_eq_true, Bool.and_eq_true, decide_eq_true_eq,
      beq_iff_eq, Char.le_def, UInt32.le_iff_toNat_le] at hc
    change 48 ≤ c.toNat ∧ c.toNat ≤ 57 at h
    change ((97 ≤ c.toNat ∧ c.toNat ≤ 122) ∨ (65 ≤ c.toNat ∧ c.toNat ≤ 90)) ∨ c = '_' at hc
    rcases hc with hc | rfl
    · omega
    · exact absurd h (by decide)

theorem isFloatMark_eq_false_of_isDigit {c : Char} (h : isDigit c = true) :
    isFloatMark c = false := by
  have hne {d : Char} (hd : isDigit d = false) : c ≠ d := by
    rintro rfl
    exact absurd (hd.symm.trans h) nofun
  simp [isFloatMark, hne (show isDigit '.' = false by decide),
    hne (show isDigit 'e' = false by decide), hne (show isDigit 'E' = false by decide)]

/-- Digits after anything. -/
theorem numberBefore_of_digits {digits : List Char} (hne : digits ≠ [])
    (h : ∀ c ∈ digits, isDigit c = true) (inName : Bool) (rest : List Char) :
    NumberBefore inName false (digits ++ rest) rest := by
  induction digits generalizing inName with
  | nil => exact absurd rfl hne
  | cons c digits ih =>
    obtain ⟨hc, hdigits⟩ := List.forall_mem_cons.1 h
    have hname : isNameChar c = true := by simp [isNameChar, hc]
    have hrest : NumberBefore (isNameChar c) false (digits ++ rest) rest := by
      rw [hname]
      by_cases hmore : digits = []
      · rw [hmore]
        exact .refl _
      · exact ih hmore hdigits true
    have hall : NumberBefore inName (isFloatMark c || false) (c :: (digits ++ rest)) rest :=
      hrest.cons (isNumberChar_of_isDigit hc) (by simp [isNameStart_eq_false_of_isDigit hc])
    rwa [isFloatMark_eq_false_of_isDigit hc] at hall

theorem numberBefore_of_afterDigits {text rest : List Char} (h : afterDigits text = .ok rest)
    (inName : Bool) : NumberBefore inName false text rest := by
  unfold afterDigits at h
  split at h
  case h_1 => exact absurd h nofun
  case h_2 c more =>
    split at h
    case isFalse => exact absurd h nofun
    case isTrue hc =>
      obtain rfl := Except.ok.inj h
      have hne : (c :: more).takeWhile isDigit ≠ [] := by simp [hc]
      have hdigits := numberBefore_of_digits hne (fun d => List.mem_takeWhile_imp) inName
        ((c :: more).dropWhile isDigit)
      rwa [List.takeWhile_append_dropWhile] at hdigits

theorem numberBefore_of_afterWhole {text rest : List Char} (h : afterWhole text = .ok rest)
    (inName : Bool) : NumberBefore inName false text rest := by
  have hzero (more : List Char) : NumberBefore inName false ('0' :: more) more :=
    numberBefore_of_digits (List.cons_ne_nil _ _) (List.forall_mem_singleton.2 rfl) inName more
  unfold afterWhole at h
  split at h
  case h_1 =>
    split at h
    case isTrue => exact absurd h nofun
    case isFalse =>
      obtain rfl := Except.ok.inj h
      exact hzero _
  case h_2 =>
    obtain rfl := Except.ok.inj h
    exact hzero _
  case h_3 => exact numberBefore_of_afterDigits h inName

/-- A reading in two steps that succeeds does so in both. -/
theorem exists_ok_of_bind {ε α β : Type} {first : Except ε α} {next : α → Except ε β} {found : β}
    (h : (first >>= next) = .ok found) : ∃ value, first = .ok value ∧ next value = .ok found := by
  cases first with
  | error fault => exact absurd h nofun
  | ok value => exact ⟨value, rfl, h⟩

theorem numberBefore_of_afterFraction {text rest : List Char} {found : Bool}
    (h : afterFraction text = .ok (rest, found)) : NumberBefore true found text rest := by
  unfold afterFraction at h
  split at h
  case h_1 =>
    obtain ⟨after, hdigits, h⟩ := exists_ok_of_bind h
    obtain ⟨rfl, rfl⟩ := Prod.mk.inj (Except.ok.inj h)
    exact (numberBefore_of_afterDigits hdigits _).cons (by decide) rfl
  case h_2 =>
    obtain ⟨rfl, rfl⟩ := Prod.mk.inj (Except.ok.inj h)
    exact .refl _

theorem numberBefore_of_afterExponent {text rest : List Char} {found : Bool}
    (h : afterExponent text = .ok (rest, found)) : NumberBefore true found text rest := by
  unfold afterExponent at h
  split at h
  case h_2 =>
    obtain ⟨rfl, rfl⟩ := Prod.mk.inj (Except.ok.inj h)
    exact .refl _
  case h_1 c more =>
    split at h
    case isFalse =>
      obtain ⟨rfl, rfl⟩ := Prod.mk.inj (Except.ok.inj h)
      exact .refl _
    case isTrue hc =>
      obtain ⟨after, hdigits, h⟩ := exists_ok_of_bind h
      obtain ⟨rfl, rfl⟩ := Prod.mk.inj (Except.ok.inj h)
      have hexponent : isNumberChar c = true ∧ isFloatMark c = true := by
        rcases Bool.or_eq_true_iff.1 hc with hc | hc <;> simp [isNumberChar, isFloatMark, hc]
      obtain ⟨marked, hmore⟩ : ∃ marked, NumberBefore (isNameChar c) marked more after := by
        have hdigits := numberBefore_of_afterDigits hdigits
        split at hdigits
        case h_2 => exact ⟨_, hdigits _⟩
        case h_1 sign _ _ =>
          split at hdigits
          case isFalse => exact ⟨_, hdigits _⟩
          case isTrue hsign =>
            have hsigns : isNumberChar sign = true ∧ isNameStart sign = false := by
              rcases Bool.or_eq_true_iff.1 hsign with hsign | hsign
              · rw [beq_iff_eq.1 hsign]
                decide
              · rw [beq_iff_eq.1 hsign]
                decide
            exact ⟨_, (hdigits _).cons hsigns.1 (by simp [hsigns.2])⟩
      have hall : NumberBefore true (isFloatMark c || marked) (c :: more) after :=
        hmore.cons hexponent.1 rfl
      rwa [hexponent.2, Bool.true_or] at hall

/-- A number is read up to a character that goes on with no name, and it is one with a fraction or
an exponent if a character says so. -/
theorem numberBefore_of_afterNumber {text rest : List Char} {isFloat : Bool}
    (h : afterNumber text = .ok (rest, isFloat)) :
    NumberBefore false isFloat text rest ∧ ∀ c, rest.head? = some c → isNameStart c = false := by
  unfold afterNumber at h
  obtain ⟨whole, hwhole, h⟩ := exists_ok_of_bind h
  obtain ⟨⟨fraction, hasFraction⟩, hfraction, h⟩ := exists_ok_of_bind h
  obtain ⟨⟨exponent, hasExponent⟩, hexponent, h⟩ := exists_ok_of_bind h
  obtain ⟨rfl, rfl, hstop⟩ : exponent = rest ∧ (hasFraction || hasExponent) = isFloat ∧
      ∀ c, exponent.head? = some c → isNameStart c = false := by
    cases exponent with
    | nil =>
      obtain ⟨rfl, rfl⟩ := Prod.mk.inj (Except.ok.inj h)
      exact ⟨rfl, rfl, nofun⟩
    | cons c more =>
      dsimp only at h
      split at h
      case isTrue => exact absurd h nofun
      case isFalse hc =>
        obtain ⟨rfl, rfl⟩ := Prod.mk.inj (Except.ok.inj h)
        refine ⟨rfl, rfl, fun d hd => ?_⟩
        rw [← Option.some.inj hd]
        simp only [Bool.or_eq_true, not_or, Bool.not_eq_true] at hc
        exact hc.2
  have hunsigned (inName : Bool) := (numberBefore_of_afterWhole hwhole inName).trans
    ((numberBefore_of_afterFraction hfraction).trans (numberBefore_of_afterExponent hexponent))
  refine ⟨?_, hstop⟩
  split at hunsigned
  case h_1 => exact (hunsigned _).cons (by decide) (by decide)
  case h_2 => exact hunsigned _

/-- Every character of a number is one of those that may stand in numbers. -/
theorem isNumberChar_of_isNumber {text : List Char} (h : isNumber text = true) :
    ∀ c ∈ text, isNumberChar c = true := by
  unfold isNumber at h
  split at h
  case h_2 => exact absurd h nofun
  case h_1 found hnumber =>
    obtain ⟨⟨front, rfl, hfront, -⟩, -⟩ := numberBefore_of_afterNumber hnumber
    rwa [List.append_nil]

end SchemaDrift.Sdl
