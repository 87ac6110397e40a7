/-!
# Names

* `Name` — a name, which may be missing where one is expected.
* `Name.text` — a name as it stands in messages and paths.
* `Name.within` — the path of a member.
-/

namespace SchemaDrift

/-- A name, which may be missing where one is expected.  A missing name is a name of
its own: it differs from each that is there. -/
abbrev Name := Option String

namespace Name

/-- A name as it stands in messages and paths: `None` if it is missing. -/
def text (name : Name) : String := name.getD "None"

/-- The path of a member of the given name, below the path of what it belongs to. -/
def within (name : Name) (path : String) : String := path ++ "." ++ name.text

@[simp] theorem text_some (word : String) : text (some word) = word := rfl

end Name

end SchemaDrift
