/-!
# Words of a text

* `words` — the words of a text between spaces and line feeds.
-/

namespace SchemaDrift.Text

/-- The words of a text between spaces and line feeds. -/
def words (text : String) : List String :=
  (text.splitToList fun c => c == ' ' || c == '\n').filter (· != "")

end SchemaDrift.Text
