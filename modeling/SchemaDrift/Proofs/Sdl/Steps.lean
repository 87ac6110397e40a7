import SchemaDrift.Sdl.Lexeme

/-!
# The steps of the lexer

Everything that a step can pass, told once by its kind.

* `StringStep`, `stringStep_eq_token` — the strings.
* `TokenStep`, `tokenStep_of_step` — the tokens.
* `ignored_of_step` — what stands between tokens.
* `ne_stop_of_step` — no step passes the end of the text or a fault as a token.
-/

namespace SchemaDrift.Sdl

open Text

/-- A string that a text starts with, and the number of its characters. -/
inductive StringStep : List Char → Token → Nat → Prop where
  | block {inner content : List Char} {passed : Nat}
      (read : blockText inner = some (content, passed)) :
      StringStep ('"' :: '"' :: '"' :: inner)
        (.block (String.ofList (BlockString.value content))) (passed + 3)
  | quoted {rest content : List Char} {passed : Nat}
      (notBlock : ∀ inner, rest ≠ '"' :: '"' :: inner)
      (read : quotedText 0 rest = .ok (content, passed)) :
      StringStep ('"' :: rest) (.string (String.ofList content)) (passed + 1)

/-- A token that a text starts with, and the number of its characters. -/
inductive TokenStep : List Char → Token → Nat → Prop where
  | string {text : List Char} {token : Token} {size : Nat} (read : StringStep text token size) :
      TokenStep text token size
  | punct {c : Char} {rest : List Char} {mark : Punct} (isMark : Punct.ofChar? c = some mark) :
      TokenStep (c :: rest) (.punct mark) 1
  | number {text rest written : List Char} {isFloat : Bool} (nonempty : text ≠ [])
      (read : afterNumber text = .ok (rest, isFloat))
      (isWritten : written = text.take (text.length - rest.length)) :
      TokenStep text
        (if isFloat then .float (String.ofList written) else .int (String.ofList written))
        (text.length - rest.length)
  | name {c : Char} {rest : List Char} (isStart : isNameStart c = true) :
      TokenStep (c :: rest) (.name (String.ofList (c :: rest.takeWhile isNameChar)))
        (c :: rest.takeWhile isNameChar).length
  | spread {rest : List Char} : TokenStep ('.' :: '.' :: '.' :: rest) (.punct .spread) 3

theorem stringStep_eq_token {rest : List Char} {token : Token} {size : Nat}
    (h : stringStep ('"' :: rest) = .token token size) : StringStep ('"' :: rest) token size := by
  unfold stringStep at h
  split at h
  case h_1 inner heq =>
    obtain ⟨-, rfl⟩ := List.cons.inj heq
    split at h
    case h_2 => cases h
    case h_1 content passed hblock =>
      obtain ⟨rfl, rfl⟩ := Step.token.inj h
      exact .block hblock
  case h_2 hnot =>
    rw [List.drop_succ_cons, List.drop_zero] at h
    split at h
    case h_2 => cases h
    case h_1 content passed hquoted =>
      obtain ⟨rfl, rfl⟩ := Step.token.inj h
      refine .quoted ?_ hquoted
      rintro inner rfl
      exact hnot inner rfl

/-- Neither strings nor dots are passed over. -/
theorem stringStep_ne_ignored (text : List Char) (size : Nat) :
    stringStep text ≠ .ignored size := by
  intro h
  unfold stringStep at h
  split at h <;> split at h <;> cases h

theorem dotStep_ne_ignored (text : List Char) (size : Nat) : dotStep text ≠ .ignored size := by
  intro h
  unfold dotStep at h
  split at h
  · cases h
  · cases h
  · dsimp only at h
    split at h <;> cases h

variable {c : Char} {rest : List Char} {size : Nat}

/-- A token that a step passes is of one of the kinds. -/
theorem tokenStep_of_step {token : Token} (h : step c rest = .token token size) :
    TokenStep (c :: rest) token size := by
  unfold step at h
  split at h
  case isTrue => cases h
  split at h
  case isTrue => cases h
  split at h
  case isTrue hquote =>
    subst hquote
    exact .string (stringStep_eq_token h)
  split at h
  case h_1 mark hmark =>
    obtain ⟨rfl, rfl⟩ := Step.token.inj h
    exact .punct hmark
  split at h
  case isTrue =>
    unfold numberStep at h
    split at h
    case h_1 => cases h
    case h_2 after isFloat hnumber =>
      obtain ⟨rfl, rfl⟩ := Step.token.inj h
      exact .number (List.cons_ne_nil _ _) hnumber rfl
  split at h
  case isTrue hname =>
    obtain ⟨rfl, rfl⟩ := Step.token.inj h
    exact .name hname
  split at h
  case isTrue hdot =>
    subst hdot
    unfold dotStep at h
    split at h
    case h_1 after heq =>
      obtain ⟨rfl, rfl⟩ := Step.token.inj h
      obtain ⟨-, rfl⟩ := List.cons.inj heq
      exact .spread
    case h_2 => cases h
    case h_3 =>
      dsimp only at h
      split at h <;> cases h
  split at h <;> cases h

/-- What a step passes between tokens is a single character or a comment. -/
theorem ignored_of_step (h : step c rest = .ignored size) :
    (isIgnored c = true ∧ size = 1) ∨
      (c = '#' ∧ size = 1 + (rest.takeWhile fun d => !isBreak d).length) := by
  unfold step at h
  split at h
  case isTrue hignored => exact .inl ⟨hignored, (Step.ignored.inj h).symm⟩
  split at h
  case isTrue hsign => exact .inr ⟨hsign, (Step.ignored.inj h).symm⟩
  split at h
  case isTrue => exact absurd h (stringStep_ne_ignored _ _)
  split at h
  case h_1 => cases h
  split at h
  case isTrue =>
    unfold numberStep at h
    split at h <;> cases h
  split at h
  case isTrue => cases h
  split at h
  case isTrue => exact absurd h (dotStep_ne_ignored _ _)
  split at h <;> cases h

/-- The end of the text and faults are no tokens that are passed. -/
theorem ne_stop_of_step {token : Token} (h : step c rest = .token token size) :
    token ≠ .stop ∧ ∀ fault, token ≠ .invalid fault := by
  cases tokenStep_of_step h with
  | string read => cases read <;> exact ⟨nofun, nofun⟩
  | punct => exact ⟨nofun, nofun⟩
  | number => split <;> exact ⟨nofun, nofun⟩
  | name => exact ⟨nofun, nofun⟩
  | spread => exact ⟨nofun, nofun⟩

end SchemaDrift.Sdl
