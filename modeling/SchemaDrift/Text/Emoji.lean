import SchemaDrift.Text.Blank
import SchemaDrift.Text.Emoji.Names
import SchemaDrift.Text.Words

/-!
# Emoji by name

A name between colons stands for an emoji.  It may end in a word for how the emoji is
drawn: in colour, or as text.

* `emoji?` — the emoji of a name.
* `replaceCodes` — a text with emoji in place of their names.
-/

namespace SchemaDrift.Text.Emoji

/-! ## Names -/

/-- Neighbours put in pairs. -/
def paired {α : Type} : List α → List (α × α)
  | first :: second :: rest => (first, second) :: paired rest
  | _ => []

/-- The names with their emoji. -/
def table : List (String × String) := paired (words namesAndEmoji)

/-- A character in lower case.  Of the characters beyond ASCII those of the names are
right. -/
def lowerCase (c : Char) : Char :=
  let code := c.toNat
  if code = 0x212a then 'k'
  else if code = 0x212b then 'å'
  else if 0xc0 ≤ code && code ≤ 0xde && code != 0xd7 then Char.ofNat (code + 0x20)
  else c.toLower

/-- The emoji of a name in upper or lower case. -/
def emoji? (name : List Char) : Option (List Char) :=
  (table.lookup (String.ofList (name.map lowerCase))).map String.toList

/-! ## Codes -/

/-- The endings of codes, and the characters that say how an emoji is drawn. -/
def variants : List (List Char × Char) :=
  [("-emoji".toList, '\ufe0f'), ("-text".toList, '\ufe0e')]

/-- The emoji of what stands between two colons. -/
def ofCode? (code : List Char) : Option (List Char) :=
  match variants.find? fun variant => variant.1.isSuffixOf code with
  | none => emoji? code
  | some (ending, selector) =>
      (emoji? (code.take (code.length - ending.length))).map fun found => found ++ [selector]

/-- What is shown for what stands between two colons. -/
def shown (code : List Char) : List Char :=
  (ofCode? code).getD (':' :: code ++ [':'])

/-- A character that may stand between the colons of a code. -/
def isCodeChar (c : Char) : Bool := c != ':' && !isBlank c

/-- A text with emoji in place of their names.  The colons of a name that stands for no
emoji belong to it all the same. -/
def replaceCodes (text : List Char) : List Char :=
  match text with
  | [] => []
  | c :: rest =>
    if c = ':' then
      match _h : rest.dropWhile isCodeChar with
      | ':' :: after => shown (rest.takeWhile isCodeChar) ++ replaceCodes after
      | _ => c :: replaceCodes rest
    else c :: replaceCodes rest
termination_by text.length
decreasing_by
  · have := (List.dropWhile_suffix isCodeChar (l := rest)).length_le
    simp_all
    omega
  all_goals simp

end SchemaDrift.Text.Emoji
