import SchemaDrift.Text.Hex

/-!
# Labels in ASCII

A label with other characters is sent as ASCII: its ASCII characters, and then for
each other character the step from the one before it, as a number to base 36 whose
digits end where they fall below a threshold.

* `Punycode.digits` — a number in such digits.
* `Punycode.encode` — a label in ASCII.
* `Punycode.number?` — the number that digits stand for.
* `Punycode.decode?` — the label that one in ASCII stands for.
-/

namespace SchemaDrift.Address.Punycode

open Text

/-- The digit of a value below 36. -/
def digitChar (value : Nat) : Char :=
  if value < 26 then Char.ofNat ('a'.toNat + value) else Char.ofNat ('0'.toNat + (value - 26))

/-- The value of a digit; a letter may be large or small. -/
def digitValue? (c : Char) : Option Nat :=
  if 'a' ≤ c && c ≤ 'z' then some (c.toNat - 'a'.toNat)
  else if 'A' ≤ c && c ≤ 'Z' then some (c.toNat - 'A'.toNat)
  else if '0' ≤ c && c ≤ '9' then some (c.toNat - '0'.toNat + 26)
  else none

/-- The threshold of the digit at a position, which grows by 36 from digit to digit. -/
def threshold (bias position : Nat) : Nat :=
  if position ≤ bias then 1 else if bias + 26 ≤ position then 26 else position - bias

theorem threshold_pos (bias position : Nat) : 1 ≤ threshold bias position := by
  unfold threshold
  split
  · omega
  · split <;> omega

/-- A number in digits from the given position on. -/
def digits (bias position value : Nat) : List Char :=
  if value < threshold bias position then [digitChar value]
  else
    let base := 36 - threshold bias position
    let above := value - threshold bias position
    digitChar (threshold bias position + above % base) :: digits bias (position + 36) (above / base)
termination_by value
decreasing_by
  have := threshold_pos bias position
  have := Nat.div_le_self (value - threshold bias position) (36 - threshold bias position)
  omega

/-- The part of a bias that comes of a step: how often it can be divided, and what is
left then. -/
def scaled (divisions step : Nat) : Nat :=
  if 455 < step then scaled (divisions + 36) (step / 35)
  else divisions + 36 * step / (step + 38)
termination_by step
decreasing_by omega

/-- The bias after a step, when so many characters are placed. -/
def adapted (isFirst : Bool) (step placed : Nat) : Nat :=
  let step := if isFirst then step / 700 else step / 2
  scaled 0 (step + step / placed)

/-- A label on its way to ASCII. -/
structure Coder where
  bias : Nat := 72
  /-- The step so far from the character placed last. -/
  step : Nat := 0
  /-- The characters placed so far. -/
  placed : Nat
  isFirst : Bool := true
  /-- The digits so far, in pieces. -/
  pieces : List (List Char) := []

/-- The coder after a character of the label, when those of the given code point are
placed. -/
def Coder.pass (code : Nat) (coder : Coder) (c : Char) : Coder :=
  if c.toNat < code then { coder with step := coder.step + 1 }
  else if c.toNat = code then
    { bias := adapted coder.isFirst coder.step (coder.placed + 1)
      step := 0
      placed := coder.placed + 1
      isFirst := false
      pieces := coder.pieces ++ [digits coder.bias 36 coder.step] }
  else coder

/-- The coder after all characters of a code point, and the code point that is next. -/
def Coder.place (label : List Char) (state : Coder × Nat) (code : Nat) : Coder × Nat :=
  let coder := state.1
  let start := { coder with step := coder.step + (code - state.2) * (coder.placed + 1) }
  let passed := label.foldl (Coder.pass code) start
  ({ passed with step := passed.step + 1 }, code + 1)

/-- A label in ASCII. -/
def encode (label : List Char) : List Char :=
  let basic := label.filter fun c => c.toNat < 0x80
  let codes := ((label.filter fun c => 0x80 ≤ c.toNat).map Char.toNat).eraseDups.mergeSort
  let coder := (codes.foldl (Coder.place label) ({ placed := basic.length }, 0x80)).1
  (if basic.isEmpty then [] else basic ++ ['-']) ++ coder.pieces.flatten

/-! ## What a label stands for -/

/-- The number that the digits at the start of a text stand for, and the text after
them.  The digit that comes first has the given weight, and adds to the given value. -/
def number? (bias : Nat) : (weight position value : Nat) → List Char →
    Option (Nat × List Char)
  | _, _, _, [] => none
  | weight, position, value, c :: rest =>
    match digitValue? c with
    | none => none
    | some digit =>
      let value := value + digit * weight
      if digit < threshold bias position then some (value, rest)
      else
        let weight := weight * (36 - threshold bias position)
        number? bias weight (position + 36) value rest

theorem length_lt_of_number? {bias weight position value : Nat} {text rest : List Char}
    {read : Nat} (h : number? bias weight position value text = some (read, rest)) :
    rest.length < text.length := by
  induction text generalizing weight position value with
  | nil => simp [number?] at h
  | cons c text ih =>
    rw [number?] at h
    split at h
    · simp at h
    · dsimp only at h
      split at h
      · simp only [Option.some.injEq, Prod.mk.injEq] at h
        simp [h.2]
      · have := ih h
        simp only [List.length_cons]
        omega

/-- A text with more characters put in, each a step behind the one before it.  The next
step starts at a place in the text, with a code point. -/
def insertAll? (bias place code : Nat) (isFirst : Bool) (text steps : List Char) :
    Option (List Char) :=
  if steps.isEmpty then some text
  else
    match _h : number? bias 1 36 0 steps with
    | none => none
    | some (step, rest) =>
      let size := text.length + 1
      let code := code + (place + step) / size
      let place := (place + step) % size
      match scalarOf? code with
      | none => none
      | some c =>
        insertAll? (adapted isFirst step size) (place + 1) code false
          (text.take place ++ c :: text.drop place) rest
termination_by steps.length
decreasing_by exact length_lt_of_number? _h

/-- The label that one in ASCII stands for: before the last hyphen its ASCII characters,
after it the steps. -/
def decode? (encoded : List Char) : Option (List Char) :=
  let steps := (encoded.reverse.takeWhile (· != '-')).reverse
  let basic := (encoded.take (encoded.length - steps.length)).dropLast
  insertAll? 72 0 0x80 true basic steps

end SchemaDrift.Address.Punycode
