import SchemaDrift.Change.Rule

/-!
# Levels

How severe a difference is, and the words that may or may not be one of a
closed set.

* `Level` — the three levels.
* `Label` — a value of a closed set, or a word outside it.
* `Label.ofText` — the label a word stands for.
-/

namespace SchemaDrift

/-- The severity of a difference. -/
inductive Level where
  | breaking
  | dangerous
  | nonBreaking
  deriving DecidableEq, Repr, Inhabited

namespace Level

/-- The word for a level in reports. -/
def id : Level → String
  | breaking => "BREAKING"
  | dangerous => "DANGEROUS"
  | nonBreaking => "NON_BREAKING"

/-- The levels, most severe first. -/
def all : List Level := [breaking, dangerous, nonBreaking]

/-- The level of a word, if it is the word for one. -/
def ofId? (text : String) : Option Level := all.find? fun level => level.id == text

theorem ofId?_id (level : Level) : ofId? level.id = some level := by cases level <;> decide

end Level

/-- A member of a closed set, or a word in the place of one. -/
inductive Label (α : Type) where
  | known (value : α)
  | other (text : String)
  deriving DecidableEq, Repr, Inhabited

namespace Label

variable {α : Type}

/-- The word of a label, given the words of the closed set. -/
def text (id : α → String) : Label α → String
  | known value => id value
  | other text => text

/-- Is the label a member of the closed set? -/
def isKnown : Label α → Bool
  | known _ => true
  | other _ => false

/-- The label a word stands for: the member that has the word, or else the word
itself. -/
def ofText (ofId? : String → Option α) (text : String) : Label α :=
  match ofId? text with
  | some value => known value
  | none => other text

end Label

end SchemaDrift
