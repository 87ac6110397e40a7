import SchemaDrift.Proofs.Sdl.Numbers
import SchemaDrift.Proofs.Sdl.Steps
import SchemaDrift.Proofs.Sdl.Strings

/-!
# Tokens as they are written

What a token is depends on the characters that it is written with, and on nothing that stands
before or after them.

* `escape_of_take`, `quotedText_of_take`, `blockText_of_take` — strings.
* `eq_numberToken_of_numberStep` — numbers.
* `eq_of_step`, `WrittenAs.unique` — tokens.
* `writings`, `map_token_eq_of_writings` — texts whose tokens are written alike.
-/

namespace SchemaDrift.Sdl

open Text

/-! ## Texts with a common beginning -/

section Beginnings

variable {text other : List Char}

theorem exists_cons_of_take {c : Char} {size : Nat}
    (h : other.take (size + 1) = (c :: text).take (size + 1)) :
    ∃ rest, other = c :: rest ∧ rest.take size = text.take size := by
  cases other with
  | nil => cases h
  | cons d rest =>
    obtain ⟨rfl, hrest⟩ := List.cons.inj h
    exact ⟨rest, rfl, hrest⟩

theorem take_drop_congr (skipped count : Nat) {size : Nat} (h : other.take size = text.take size)
    (hsize : skipped + count ≤ size) :
    (other.drop skipped).take count = (text.drop skipped).take count := by
  have hfront := congrArg (List.take (skipped + count)) h
  rw [List.take_take, List.take_take, Nat.min_eq_left hsize] at hfront
  rw [List.take_drop, List.take_drop, hfront]

end Beginnings

/-! ## Escapes -/

theorem fourDigits?_congr {text other : List Char} (h : other.take 4 = text.take 4) :
    fourDigits? other = fourDigits? text := by
  rw [fourDigits?, fourDigits?, h]

theorem bracedEscape_of_take {count value size : Nat} {text other : List Char} {scalar : Char}
    (h : bracedEscape count value text = .ok (scalar, size))
    (hother : other.take (size - count) = text.take (size - count)) :
    bracedEscape count value other = .ok (scalar, size) := by
  induction text generalizing count value other with
  | nil => cases h
  | cons c rest ih =>
    have hstep : ∃ left, size - count = left + 1 ∧
        (c = '\x7d' ∨ ∃ digit, hexValue? c = some digit ∧ left = size - (count + 1) ∧
          bracedEscape (count + 1) (value * 16 + digit) rest = .ok (scalar, size)) := by
      unfold bracedEscape at h
      split at h
      case isTrue hc =>
        split at h
        · obtain ⟨-, rfl⟩ := Prod.mk.inj (Except.ok.inj h)
          exact ⟨0, by omega, .inl hc⟩
        · cases h
      case isFalse =>
        split at h
        case h_2 => cases h
        case h_1 digit hdigit =>
          obtain ⟨digits, after, -, hsize, -⟩ := exists_digits_of_bracedEscape h
          exact ⟨size - (count + 1), by omega, .inr ⟨digit, hdigit, rfl, h⟩⟩
    obtain ⟨left, hleft, hstep⟩ := hstep
    rw [hleft] at hother
    obtain ⟨rest', rfl, hrest⟩ := exists_cons_of_take hother
    rw [← h]
    rcases hstep with rfl | ⟨digit, hdigit, rfl, hmore⟩
    · rfl
    · have hclose : c ≠ '\x7d' := by
        rintro rfl
        exact Option.some_ne_none digit hdigit.symm
      rw [bracedEscape, bracedEscape, if_neg hclose, if_neg hclose, hdigit]
      exact (ih hmore hrest).trans hmore.symm

theorem unicodeEscape_single {text : List Char} {code : Nat} {scalar : Char}
    (hopen : ∀ more, text ≠ '\x7b' :: more) (hcode : fourDigits? text = some code)
    (hscalar : scalarOf? code = some scalar) :
    unicodeEscape ('\\' :: 'u' :: text) = .ok (scalar, 6) := by
  unfold unicodeEscape
  simp only [List.drop_succ_cons, List.drop_zero, hcode, hscalar]

theorem unicodeEscape_pair {text more : List Char} {code : Nat} {scalar : Char}
    (hopen : ∀ more, text ≠ '\x7b' :: more) (hcode : fourDigits? text = some code)
    (hnone : scalarOf? code = none) (hmore : text.drop 4 = '\\' :: 'u' :: more)
    (hpaired : (fourDigits? more).bind (pairedScalar? code) = some scalar) :
    unicodeEscape ('\\' :: 'u' :: text) = .ok (scalar, 12) := by
  unfold unicodeEscape
  simp only [List.drop_succ_cons, List.drop_zero, hcode, hnone, hmore, hpaired]

theorem unicodeEscape_braced {text : List Char} {scalar : Char} {size : Nat}
    (h : bracedEscape 0 0 (text.take 9) = .ok (scalar, size)) :
    unicodeEscape ('\\' :: 'u' :: '\x7b' :: text) = .ok (scalar, size + 3) := by
  unfold unicodeEscape
  simp only [List.drop_succ_cons, List.drop_zero, h]

theorem escape_of_unicodeEscape {text other : List Char} {scalar : Char} {size : Nat}
    (h : unicodeEscape ('\\' :: 'u' :: text) = .ok (scalar, size))
    (hother : other.take (size - 1) = ('u' :: text).take (size - 1)) :
    escape ('\\' :: other) = .ok (scalar, size) := by
  unfold unicodeEscape at h
  simp only [List.drop_succ_cons, List.drop_zero] at h
  split at h
  case h_1 rest =>
    split at h
    case h_2 => cases h
    case h_1 scalar' size' hbraced =>
      obtain ⟨rfl, rfl⟩ := Prod.mk.inj (Except.ok.inj h)
      obtain ⟨braced, rfl, hbrace⟩ := exists_cons_of_take hother
      obtain ⟨rest', rfl, hrest⟩ := exists_cons_of_take hbrace
      obtain ⟨digits, after, htake, hlength, -⟩ := exists_digits_of_bracedEscape hbraced
      have hbound : size' ≤ 9 := by
        have hall := congrArg List.length htake
        rw [List.length_take, List.length_append] at hall
        omega
      refine unicodeEscape_braced (bracedEscape_of_take hbraced ?_)
      rw [Nat.sub_zero, List.take_take, List.take_take, Nat.min_eq_left hbound, hrest]
  case h_2 hopen =>
    split at h
    case h_1 => cases h
    case h_2 code hcode =>
      -- Whatever follows the four digits, they are read as the same code point.
      have hread {rest : List Char} (hrest : rest.take 4 = text.take 4) :
          (∀ more, rest ≠ '\x7b' :: more) ∧ fourDigits? rest = some code := by
        refine ⟨?_, (fourDigits?_congr hrest).trans hcode⟩
        rintro more rfl
        obtain ⟨more', rfl, -⟩ := exists_cons_of_take hrest.symm
        exact hopen more' rfl
      split at h
      case h_1 scalar' _ hscalar =>
        obtain ⟨rfl, rfl⟩ := Prod.mk.inj (Except.ok.inj h)
        obtain ⟨rest, rfl, hrest⟩ := exists_cons_of_take hother
        obtain ⟨hopen', hcode'⟩ := hread hrest
        exact unicodeEscape_single hopen' hcode' hscalar
      case h_3 => cases h
      case h_2 more hnone hmore =>
        split at h
        case h_2 => cases h
        case h_1 scalar' hpaired =>
          obtain ⟨rfl, rfl⟩ := Prod.mk.inj (Except.ok.inj h)
          obtain ⟨rest, rfl, hrest⟩ := exists_cons_of_take hother
          obtain ⟨hopen', hcode'⟩ := hread (take_drop_congr 0 4 hrest (by decide))
          have hsecond := take_drop_congr 4 6 hrest (by decide)
          rw [hmore] at hsecond
          obtain ⟨letter, hslash, hletter⟩ := exists_cons_of_take hsecond
          obtain ⟨more', rfl, hdigits⟩ := exists_cons_of_take hletter
          rw [← fourDigits?_congr hdigits] at hpaired
          exact unicodeEscape_pair hopen' hcode' hnone hslash hpaired

/-- An escape stands for its character whatever follows it. -/
theorem escape_of_take {text other : List Char} {decoded : Char} {size : Nat}
    (h : escape ('\\' :: text) = .ok (decoded, size))
    (hother : other.take (size - 1) = text.take (size - 1)) :
    escape ('\\' :: other) = .ok (decoded, size) := by
  unfold escape at h
  split at h
  case h_3 => cases h
  case h_1 rest heq =>
    obtain ⟨-, rfl⟩ := List.cons.inj heq
    exact escape_of_unicodeEscape h hother
  case h_2 c rest hshort heq =>
    obtain ⟨-, rfl⟩ := List.cons.inj heq
    split at h
    case h_2 => cases h
    case h_1 decoded' hdecoded =>
      obtain ⟨rfl, rfl⟩ := Prod.mk.inj (Except.ok.inj h)
      obtain ⟨rest', rfl, -⟩ := exists_cons_of_take hother
      unfold escape
      split
      case h_1 more heq =>
        obtain ⟨-, hu⟩ := List.cons.inj heq
        obtain ⟨rfl, -⟩ := List.cons.inj hu
        exact (hshort rfl).elim
      case h_2 d more _ heq =>
        obtain ⟨-, hd⟩ := List.cons.inj heq
        obtain ⟨rfl, -⟩ := List.cons.inj hd
        rw [hdecoded]
      case h_3 hnone => exact absurd rfl (hnone _ _ _)

/-! ## Strings -/

/-- A string in quotes has its value whatever follows it. -/
theorem quotedText_of_take {taken passed : Nat} {text other value : List Char}
    (h : quotedText taken text = .ok (value, passed))
    (hother : other.take passed = text.take passed) :
    quotedText taken other = .ok (value, passed) := by
  induction text generalizing taken passed other value with
  | nil => cases taken <;> cases h
  | cons c text ih =>
    cases taken with
    | succ taken =>
      rw [quotedText] at h
      obtain ⟨⟨value', passed'⟩, hrest, h⟩ := exists_ok_of_bind h
      obtain ⟨rfl, rfl⟩ := Prod.mk.inj (Except.ok.inj h)
      obtain ⟨rest, rfl, hmore⟩ := exists_cons_of_take hother
      rw [quotedText, ih hrest hmore]
      rfl
    | zero =>
      rw [quotedText] at h
      split at h
      case isTrue hquote =>
        obtain ⟨rfl, rfl⟩ := Prod.mk.inj (Except.ok.inj h)
        obtain ⟨rest, rfl, -⟩ := exists_cons_of_take hother
        rw [quotedText, if_pos hquote]
      case isFalse hquote =>
        split at h
        case isTrue hbackslash =>
          split at h
          case h_1 => cases h
          case h_2 decoded size hescape =>
            obtain ⟨⟨value', passed'⟩, hrest, h⟩ := exists_ok_of_bind h
            obtain ⟨rfl, rfl⟩ := Prod.mk.inj (Except.ok.inj h)
            obtain ⟨rest, rfl, hmore⟩ := exists_cons_of_take hother
            subst hbackslash
            -- The string goes on after the escape, which lies in the common beginning for that.
            obtain ⟨-, -, after, -, -, -, hpassed⟩ := exists_rest_of_quotedText hrest
            have hescape' : escape ('\\' :: rest) = .ok (decoded, size) :=
              escape_of_take hescape (take_drop_congr 0 (size - 1) hmore (by omega))
            rw [quotedText, if_neg hquote, if_pos rfl, hescape']
            dsimp only
            rw [ih hrest hmore]
            rfl
        case isFalse hbackslash =>
          split at h
          case isTrue => cases h
          case isFalse hbreak =>
            obtain ⟨⟨value', passed'⟩, hrest, h⟩ := exists_ok_of_bind h
            obtain ⟨rfl, rfl⟩ := Prod.mk.inj (Except.ok.inj h)
            obtain ⟨rest, rfl, hmore⟩ := exists_cons_of_take hother
            rw [quotedText, if_neg hquote, if_neg hbackslash, if_neg hbreak, ih hrest hmore]
            rfl

/-- So has a string in triple quotes. -/
theorem blockText_of_take {passed : Nat} {text other value : List Char}
    (h : blockText text = some (value, passed))
    (hother : other.take passed = text.take passed) :
    blockText other = some (value, passed) := by
  fun_induction blockText text generalizing value passed other with
  | case1 => cases h
  | case2 rest =>
    obtain ⟨rfl, rfl⟩ := Prod.mk.inj (Option.some.inj h)
    obtain ⟨_, rfl, hsecond⟩ := exists_cons_of_take hother
    obtain ⟨_, rfl, hthird⟩ := exists_cons_of_take hsecond
    obtain ⟨_, rfl, -⟩ := exists_cons_of_take hthird
    rfl
  | case3 rest ih =>
    obtain ⟨⟨value', passed'⟩, hrest, h⟩ := Option.map_eq_some_iff.1 h
    obtain ⟨rfl, rfl⟩ := Prod.mk.inj h
    obtain ⟨_, rfl, hsecond⟩ := exists_cons_of_take hother
    obtain ⟨_, rfl, hthird⟩ := exists_cons_of_take hsecond
    obtain ⟨_, rfl, hfourth⟩ := exists_cons_of_take hthird
    obtain ⟨_, rfl, hmore⟩ := exists_cons_of_take hfourth
    rw [blockText, ih hrest hmore]
    rfl
  | case4 rest ih =>
    obtain ⟨⟨value', passed'⟩, hrest, h⟩ := Option.map_eq_some_iff.1 h
    obtain ⟨rfl, rfl⟩ := Prod.mk.inj h
    obtain ⟨_, rfl, hsecond⟩ := exists_cons_of_take hother
    obtain ⟨_, rfl, hmore⟩ := exists_cons_of_take hsecond
    rw [blockText, ih hrest hmore]
    rfl
  | case5 rest hfeed ih =>
    obtain ⟨⟨value', passed'⟩, hrest, h⟩ := Option.map_eq_some_iff.1 h
    obtain ⟨rfl, rfl⟩ := Prod.mk.inj h
    obtain ⟨other', rfl, hmore⟩ := exists_cons_of_take hother
    obtain ⟨content, after, -, -, rfl⟩ := exists_block_of_blockText hrest
    have hfeed' (more : List Char) : other' ≠ '\n' :: more := by
      rintro rfl
      obtain ⟨rest', rfl, -⟩ := exists_cons_of_take hmore.symm
      exact hfeed rest' rfl
    rw [blockText.eq_5 other' hfeed', ih hrest hmore]
    rfl
  | case6 c rest hclosing hescape hbreak hreturn ih =>
    obtain ⟨⟨value', passed'⟩, hrest, h⟩ := Option.map_eq_some_iff.1 h
    obtain ⟨rfl, rfl⟩ := Prod.mk.inj h
    obtain ⟨other', rfl, hmore⟩ := exists_cons_of_take hother
    obtain ⟨content, after, -, -, rfl⟩ := exists_block_of_blockText hrest
    -- What makes a character more than itself are at most three quotes after it.
    have hclosing' (more : List Char) (hc : c = '"') : other' ≠ '"' :: '"' :: more := by
      rintro rfl
      obtain ⟨_, rfl, hsecond⟩ := exists_cons_of_take hmore.symm
      obtain ⟨rest', rfl, -⟩ := exists_cons_of_take hsecond
      exact hclosing rest' hc rfl
    have hescape' (more : List Char) (hc : c = '\\') : other' ≠ '"' :: '"' :: '"' :: more := by
      rintro rfl
      obtain ⟨_, rfl, hsecond⟩ := exists_cons_of_take hmore.symm
      obtain ⟨_, rfl, hthird⟩ := exists_cons_of_take hsecond
      obtain ⟨rest', rfl, -⟩ := exists_cons_of_take hthird
      exact hescape rest' hc rfl
    rw [blockText.eq_6 c other' hclosing' hescape' (fun _ hc _ => hreturn hc) hreturn,
      ih hrest hmore]
    rfl

/-! ## Tokens -/

variable {c : Char} {rest other : List Char} {token token' : Token} {size size' : Nat}

/-- Two strings in quotes that are written alike have one value. -/
theorem eq_of_quotedText {value value' : List Char}
    (h : quotedText 0 rest = .ok (value, size)) (h' : quotedText 0 other = .ok (value', size'))
    (hwritten : rest.take size = other.take size') : value = value' := by
  obtain ⟨content, after, rfl, -, rfl⟩ := exists_quoted_of_quotedText h
  obtain ⟨content', after', rfl, -, rfl⟩ := exists_quoted_of_quotedText h'
  have hsize : content.length + 1 = content'.length + 1 := by
    have hlength := congrArg List.length hwritten
    simp only [List.length_take, List.length_append, List.length_cons] at hlength
    omega
  rw [hsize] at h hwritten
  have hread := h'.symm.trans (quotedText_of_take h hwritten.symm)
  exact (Prod.mk.inj (Except.ok.inj hread)).1.symm

/-- So have two in triple quotes. -/
theorem eq_of_blockText {value value' : List Char}
    (h : blockText rest = some (value, size)) (h' : blockText other = some (value', size'))
    (hwritten : rest.take size = other.take size') : value = value' := by
  obtain ⟨content, after, rfl, -, rfl⟩ := exists_block_of_blockText h
  obtain ⟨content', after', rfl, -, rfl⟩ := exists_block_of_blockText h'
  have hsize : content.length + 3 = content'.length + 3 := by
    have hlength := congrArg List.length hwritten
    simp only [List.length_take, List.length_append, tripleQuote, List.length_cons] at hlength
    omega
  rw [hsize] at h hwritten
  have hread := h'.symm.trans (blockText_of_take h hwritten.symm)
  exact (Prod.mk.inj (Option.some.inj hread)).1.symm

theorem take_ne_of_notBlock (hnot : ∀ inner, rest ≠ '"' :: '"' :: inner) (written : List Char) :
    rest.take size ≠ '"' :: '"' :: written := by
  intro hwritten
  have hrest := List.take_append_drop size rest
  rw [hwritten] at hrest
  exact hnot (written ++ rest.drop size) hrest.symm

theorem eq_of_stringStep (h : stringStep ('"' :: rest) = .token token size)
    (h' : stringStep ('"' :: other) = .token token' size')
    (hwritten : rest.take (size - 1) = other.take (size' - 1)) : token = token' := by
  cases stringStep_eq_token h with
  | block hread =>
    cases stringStep_eq_token h' with
    | block hread' =>
      obtain ⟨-, hsecond⟩ := List.cons.inj hwritten
      obtain ⟨-, hinner⟩ := List.cons.inj hsecond
      rw [eq_of_blockText hread hread' hinner]
    | quoted hnot => exact absurd hwritten.symm (take_ne_of_notBlock hnot _)
  | quoted hnot hread =>
    cases stringStep_eq_token h' with
    | block => exact absurd hwritten (take_ne_of_notBlock hnot _)
    | quoted _ hread' => rw [eq_of_quotedText hread hread' hwritten]

/-- The token of a number as it is written. -/
def numberToken (written : List Char) : Token :=
  if written.any isFloatMark then .float (String.ofList written) else .int (String.ofList written)

theorem eq_numberToken_of_numberStep (h : numberStep (c :: rest) = .token token size) :
    token = numberToken (c :: rest.take (size - 1)) := by
  unfold numberStep at h
  split at h
  case h_1 => cases h
  case h_2 after isFloat hnumber =>
    obtain ⟨rfl, rfl⟩ := Step.token.inj h
    obtain ⟨⟨front, hfront, -, -, hends, rfl⟩, -⟩ := numberBefore_of_afterNumber hnumber
    cases front with
    | nil => exact absurd hends nofun
    | cons d front =>
      obtain ⟨rfl, hrest⟩ := List.cons.inj hfront
      have hsize : (c :: rest).length - after.length = front.length + 1 := by
        rw [hfront, List.length_append, Nat.add_sub_cancel, List.length_cons]
      have hwritten : rest.take front.length = front := by
        rw [hrest]
        exact List.take_left
      rw [hsize, List.take_succ_cons, Nat.add_sub_cancel, hwritten, numberToken]

theorem eq_of_dotStep (h : dotStep rest = .token token size) : token = .punct .spread := by
  unfold dotStep at h
  split at h
  · exact (Step.token.inj h).1.symm
  · cases h
  · dsimp only at h
    split at h <;> cases h

/-- Tokens that are written alike are the same. -/
theorem eq_of_step (h : step c rest = .token token size) (h' : step c other = .token token' size')
    (hwritten : rest.take (size - 1) = other.take (size' - 1)) : token = token' := by
  unfold step at h h'
  split at h
  case isTrue => cases h
  case isFalse hignored =>
  rw [if_neg hignored] at h'
  split at h
  case isTrue => cases h
  case isFalse hsign =>
  rw [if_neg hsign] at h'
  split at h
  case isTrue hquote =>
    rw [if_pos hquote] at h'
    subst hquote
    exact eq_of_stringStep h h' hwritten
  case isFalse hquote =>
  rw [if_neg hquote] at h'
  split at h
  case h_1 mark hmark =>
    rw [hmark] at h'
    exact (Step.token.inj h).1.symm.trans (Step.token.inj h').1
  case h_2 hmark =>
  rw [hmark] at h'
  dsimp only at h'
  split at h
  case isTrue hdigit =>
    rw [if_pos hdigit] at h'
    rw [eq_numberToken_of_numberStep h, eq_numberToken_of_numberStep h', hwritten]
  case isFalse hdigit =>
  rw [if_neg hdigit] at h'
  split at h
  case isTrue hname =>
    rw [if_pos hname] at h'
    have htake (text : List Char) : text.take ((c :: text.takeWhile isNameChar).length - 1) =
        text.takeWhile isNameChar := List.prefix_iff_eq_take.1 (List.takeWhile_prefix _) |>.symm
    obtain ⟨rfl, rfl⟩ := Step.token.inj h
    obtain ⟨rfl, rfl⟩ := Step.token.inj h'
    rw [htake, htake] at hwritten
    rw [hwritten]
  case isFalse hname =>
  rw [if_neg hname] at h'
  split at h
  case isTrue hdot =>
    rw [if_pos hdot] at h'
    rw [eq_of_dotStep h, eq_of_dotStep h']
  case isFalse => split at h <;> cases h

/-! ## Texts as their tokens are written -/

/-- The tokens of a text with the characters that each is written with.  The first so many
characters belong to what was passed already, and the end of the text is written with none. -/
def writingsFrom : Nat → List Char → List (Token × List Char)
  | _, [] => [(.stop, [])]
  | taken + 1, _ :: rest => writingsFrom taken rest
  | 0, c :: rest =>
    match step c rest with
    | .ignored size => writingsFrom (size - 1) rest
    | .token token size => (token, c :: rest.take (size - 1)) :: writingsFrom (size - 1) rest
    | .fault fault _ => [(.invalid fault, [])]

/-- The tokens of a text as they are written. -/
def writings (text : List Char) : List (List Char) := (writingsFrom 0 text).map Prod.snd

theorem map_token_writingsFrom (taken offset line : Nat) (text : List Char) :
    (writingsFrom taken text).map Prod.fst =
      (lexemesFrom taken offset line text).map Lexeme.token := by
  induction text generalizing taken offset line with
  | nil => cases taken <;> rfl
  | cons c rest ih =>
    cases taken with
    | succ taken => exact ih ..
    | zero =>
      rw [writingsFrom, lexemesFrom]
      cases step c rest with
      | ignored size => exact ih ..
      | token token size => exact congrArg (token :: ·) (ih ..)
      | fault => rfl

/-- A token is written so in some text. -/
inductive WrittenAs : Token → List Char → Prop where
  | stop : WrittenAs .stop []
  | step {c : Char} {rest : List Char} {token : Token} {size : Nat}
      (read : step c rest = .token token size) : WrittenAs token (c :: rest.take (size - 1))

theorem WrittenAs.unique {written : List Char} (h : WrittenAs token written)
    (h' : WrittenAs token' written) : token = token' := by
  generalize hsame : written = written' at h'
  cases h with
  | stop =>
    cases h' with
    | stop => rfl
    | step => cases hsame
  | step read =>
    cases h' with
    | stop => cases hsame
    | step read' =>
      obtain ⟨rfl, hwritten⟩ := List.cons.inj hsame
      exact eq_of_step read read' hwritten

theorem writtenAs_of_mem {taken : Nat} {text : List Char} {entry : Token × List Char}
    (h : entry ∈ writingsFrom taken text) (hvalid : ∀ fault, entry.1 ≠ .invalid fault) :
    WrittenAs entry.1 entry.2 := by
  induction text generalizing taken with
  | nil =>
    have hstop : writingsFrom taken [] = [(.stop, [])] := by cases taken <;> rfl
    rw [hstop, List.mem_singleton] at h
    rw [h]
    exact .stop
  | cons c rest ih =>
    cases taken with
    | succ taken => exact ih h
    | zero =>
      rw [writingsFrom] at h
      split at h
      case h_1 => exact ih h
      case h_2 token size hread =>
        rcases List.mem_cons.1 h with rfl | h
        · exact .step hread
        · exact ih h
      case h_3 fault _ _ =>
        rw [List.mem_singleton] at h
        exact absurd (congrArg Prod.fst h) (hvalid fault)

theorem map_fst_eq_of_writtenAs {entries entries' : List (Token × List Char)}
    (h : ∀ entry ∈ entries, WrittenAs entry.1 entry.2)
    (h' : ∀ entry ∈ entries', WrittenAs entry.1 entry.2)
    (hwritten : entries.map Prod.snd = entries'.map Prod.snd) :
    entries.map Prod.fst = entries'.map Prod.fst := by
  induction entries generalizing entries' with
  | nil =>
    obtain rfl := List.map_eq_nil_iff.1 hwritten.symm
    rfl
  | cons entry entries ih =>
    cases entries' with
    | nil => cases hwritten
    | cons entry' entries' =>
      obtain ⟨hentry, hmore⟩ := List.forall_mem_cons.1 h
      obtain ⟨hentry', hmore'⟩ := List.forall_mem_cons.1 h'
      obtain ⟨hhead, htail⟩ := List.cons.inj hwritten
      rw [← hhead] at hentry'
      rw [List.map_cons, List.map_cons, hentry.unique hentry', ih hmore hmore' htail]

theorem writtenAs_of_valid {text : List Char}
    (h : ∀ lexeme ∈ lexemes text, ∀ fault, lexeme.token ≠ .invalid fault) :
    ∀ entry ∈ writingsFrom 0 text, WrittenAs entry.1 entry.2 := by
  intro entry hentry
  refine writtenAs_of_mem hentry fun fault hfault => ?_
  have htoken := List.mem_map_of_mem (f := Prod.fst) hentry
  rw [map_token_writingsFrom 0 0 1, hfault] at htoken
  obtain ⟨lexeme, hlexeme, htoken⟩ := List.mem_map.1 htoken
  exact h lexeme hlexeme fault htoken

/-- Texts whose tokens are written alike have the same tokens. -/
theorem map_token_eq_of_writings {text text' : List Char}
    (h : ∀ lexeme ∈ lexemes text, ∀ fault, lexeme.token ≠ .invalid fault)
    (h' : ∀ lexeme ∈ lexemes text', ∀ fault, lexeme.token ≠ .invalid fault)
    (hwritten : writings text = writings text') :
    (lexemes text).map Lexeme.token = (lexemes text').map Lexeme.token := by
  have htokens := map_fst_eq_of_writtenAs (writtenAs_of_valid h) (writtenAs_of_valid h') hwritten
  rwa [map_token_writingsFrom 0 0 1, map_token_writingsFrom 0 0 1] at htokens

end SchemaDrift.Sdl
