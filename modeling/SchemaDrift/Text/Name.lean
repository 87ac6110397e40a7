/-!
# Names

A name starts with an ASCII letter or an underscore and goes on with ASCII
letters, digits and underscores.

* `isNameStart`, `isNameChar` — the two classes of characters.
* `isName` — a whole name.
-/

namespace SchemaDrift.Text

/-- An ASCII letter. -/
def isLetter (c : Char) : Bool :=
  ('a' ≤ c && c ≤ 'z') || ('A' ≤ c && c ≤ 'Z')

/-- An ASCII digit. -/
def isDigit (c : Char) : Bool := '0' ≤ c && c ≤ '9'

/-- A character that may start a name. -/
def isNameStart (c : Char) : Bool := isLetter c || c == '_'

/-- A character that may go on with a name. -/
def isNameChar (c : Char) : Bool := isNameStart c || isDigit c

/-- A whole name. -/
def isName : List Char → Bool
  | [] => false
  | c :: rest => isNameStart c && rest.all isNameChar

theorem isNameChar_of_isNameStart {c : Char} (h : isNameStart c = true) :
    isNameChar c = true := by
  simp [isNameChar, h]

end SchemaDrift.Text
