import SchemaDrift.Text.Blank
import SchemaDrift.Text.Name

/-!
# Members and arguments in a masked document

Inside a definition the names and a few marks tell where its members and their
arguments stand.

* `Mark` — a name, bracket, at sign or colon of a masked text.
* `marks` — the marks of a text, in order.
* `findMember` — a field, input field or enum value of a definition.
* `findArgument` — an argument in the list that opens a text.
-/

namespace SchemaDrift

open Text

/-- A name, bracket, at sign or colon of a text. -/
structure Mark where
  /-- Its offset. -/
  start : Nat
  text : List Char
  /-- The first character after it that is not blank. -/
  next : Option Char
  deriving DecidableEq, Repr

/-- The characters that are marks by themselves. -/
def isMarkChar (c : Char) : Bool :=
  c == '{' || c == '}' || c == '(' || c == ')' || c == '@' || c == ':'

/-- The marks of a text from the given offset on, where the first so many
characters belong to a name already read. -/
def marksFrom : Nat → Nat → List Char → List Mark
  | _, _, [] => []
  | taken + 1, offset, _ :: rest => marksFrom taken (offset + 1) rest
  | 0, offset, c :: rest =>
    if isMarkChar c then
      ⟨offset, [c], (skipBlanks rest).head?⟩ :: marksFrom 0 (offset + 1) rest
    else if isNameStart c then
      let more := rest.takeWhile isNameChar
      ⟨offset, c :: more, (skipBlanks (rest.drop more.length)).head?⟩
        :: marksFrom more.length (offset + 1) rest
    else marksFrom 0 (offset + 1) rest

/-- The marks of a text that starts at the given offset. -/
def marks (offset : Nat) (text : List Char) : List Mark := marksFrom 0 offset text

/-! ## Members -/

/-- The words that open a definition: no definition has a member before its
body if one of these comes first. -/
def definitionKeywords : List (List Char) :=
  ["type".toList, "interface".toList, "union".toList, "enum".toList, "input".toList,
   "scalar".toList, "extend".toList, "directive".toList, "schema".toList]

/-- Where a search for a member stands: how many braces and parentheses are
open, and whether the mark before was an at sign. -/
structure MemberSearch where
  braces : Nat := 0
  parens : Int := 0
  afterAt : Bool := false
  deriving DecidableEq, Repr

/-- Does the mark stand where it names a member of the given name? -/
def Mark.isMember (mark : Mark) (name : List Char) (isEnum : Bool) : Bool :=
  mark.text == name && (isEnum || mark.next == some ':' || mark.next == some '(')

/-- The offset of the first member of the given name among the marks after a
declared name.  Argument lists are passed over, and so are applied directives. -/
def memberAmong (name : List Char) (isEnum : Bool) : MemberSearch → List Mark → Option Nat
  | _, [] => none
  | search, mark :: rest =>
    let passed := { search with afterAt := mark.text == ['@'] }
    if mark.text = ['('] then
      memberAmong name isEnum { passed with parens := search.parens + 1 } rest
    else if mark.text = [')'] then
      memberAmong name isEnum { passed with parens := search.parens - 1 } rest
    else if search.parens > 0 then memberAmong name isEnum passed rest
    else if mark.text = ['{'] then
      memberAmong name isEnum { passed with braces := search.braces + 1 } rest
    else if mark.text = ['}'] then
      if search.braces ≤ 1 then none
      else memberAmong name isEnum { passed with braces := search.braces - 1 } rest
    else if search.braces = 0 && mark.text != ['@'] && mark.text != [':'] && !search.afterAt then
      if definitionKeywords.contains mark.text then none
      else memberAmong name isEnum passed rest
    else if search.braces = 1 && !search.afterAt && mark.isMember name isEnum then some mark.start
    else memberAmong name isEnum passed rest

/-- The offset of a member in the text after a declared name, which starts at
the given offset. -/
def findMember (name : List Char) (isEnum : Bool) (offset : Nat) (text : List Char) :
    Option Nat :=
  memberAmong name isEnum {} (marks offset text)

/-! ## Arguments -/

/-- Where a search for an argument stands: how many parentheses and braces are
open. -/
structure ArgumentSearch where
  parens : Nat := 0
  braces : Int := 0
  deriving DecidableEq, Repr

/-- The offset of the argument of the given name among the marks from an opening
parenthesis on, up to the one that closes it. -/
def argumentAmong (name : List Char) : ArgumentSearch → List Mark → Option Nat
  | _, [] => none
  | search, mark :: rest =>
    if mark.text = ['('] then argumentAmong name { search with parens := search.parens + 1 } rest
    else if mark.text = [')'] then
      if search.parens = 1 then none
      else argumentAmong name { search with parens := search.parens - 1 } rest
    else if mark.text = ['{'] then
      argumentAmong name { search with braces := search.braces + 1 } rest
    else if mark.text = ['}'] then
      argumentAmong name { search with braces := search.braces - 1 } rest
    else if search.parens = 1 && search.braces = 0 && mark.text == name
        && mark.next == some ':' then some mark.start
    else argumentAmong name search rest

/-- The offset of an argument in the list that opens the text, which starts at
the given offset; there is none if no list opens it. -/
def findArgument (name : List Char) (offset : Nat) (text : List Char) : Option Nat :=
  let opening := skipBlanks text
  if opening.head? = some '(' then
    argumentAmong name {} (marks (offset + (text.length - opening.length)) opening)
  else none

end SchemaDrift
