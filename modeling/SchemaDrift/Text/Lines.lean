/-!
# Lines of a text

A line feed, a carriage return, and a carriage return followed by a line feed
each end a line.

* `isBreak` — the characters that end a line.
* `unifyBreaks` — every line end written as one line feed.
* `lines` — the lines of a text, without their ends.
* `joinLines` — lines put together again with line feeds.
-/

namespace SchemaDrift.Text

/-- The characters that end a line. -/
def isBreak (c : Char) : Bool := c == '\n' || c == '\r'

/-- The text with every line end written as one line feed. -/
def unifyBreaks : List Char → List Char
  | [] => []
  | '\r' :: '\n' :: rest => '\n' :: unifyBreaks rest
  | '\r' :: rest => '\n' :: unifyBreaks rest
  | c :: rest => c :: unifyBreaks rest

/-- The pieces of a text between line feeds; there is always one. -/
def splitAtFeeds : List Char → List (List Char)
  | [] => [[]]
  | c :: rest =>
    if c = '\n' then [] :: splitAtFeeds rest
    else match splitAtFeeds rest with
      | [] => [[c]]
      | line :: more => (c :: line) :: more

/-- The lines of a text, whichever line ends it uses. -/
def lines (text : List Char) : List (List Char) := splitAtFeeds (unifyBreaks text)

/-- Lines with one line feed between neighbours. -/
def joinLines : List (List Char) → List Char
  | [] => []
  | [line] => line
  | line :: more => line ++ '\n' :: joinLines more

/-! ## Splitting and joining -/

theorem splitAtFeeds_ne_nil (text : List Char) : splitAtFeeds text ≠ [] := by
  cases text with
  | nil => simp [splitAtFeeds]
  | cons c rest =>
    unfold splitAtFeeds
    split
    · simp
    · split <;> simp

end SchemaDrift.Text
