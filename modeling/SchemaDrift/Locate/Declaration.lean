import SchemaDrift.Text.Blank
import SchemaDrift.Text.Name

/-!
# Declarations in a masked document

A declaration is a keyword, white space and a name, with no name character just
before or after; the keyword of a type may follow the word `extend`.

* `Declaration` — where a declaration stands.
* `TypeDeclaration.all` — the declarations of a type name, in order.
* `findType`, `findDirective` — the declaration that counts.
-/

namespace SchemaDrift

open Text

/-- Where a declaration stands in a text. -/
structure Declaration where
  /-- The offset of the keyword. -/
  start : Nat
  /-- The offset after the name. -/
  stop : Nat
  /-- Does it declare an enum? -/
  isEnum : Bool := false
  deriving DecidableEq, Repr

/-- The text after an opening that it starts with. -/
def afterOpening (opening text : List Char) : Option (List Char) :=
  if opening.isPrefixOf text then some (text.drop opening.length) else none

/-- Is a name character the first of the text? -/
def startsWithNameChar : List Char → Bool
  | [] => false
  | c :: _ => isNameChar c

/-! ## White space and a name -/

/-- The text after the name, if it starts with the name and no name character
follows. -/
def afterName (name text : List Char) : Option (List Char) :=
  (afterOpening name text).filter fun rest => !startsWithNameChar rest

/-- The text after white space and the name.  At least one blank is passed, and
as many as leave the name to be found. -/
def afterBlanksAndName (name : List Char) : List Char → Option (List Char)
  | [] => none
  | c :: rest =>
    if isBlank c then (afterBlanksAndName name rest).or (afterName name rest) else none

/-- The text after at least one blank and all that follow it. -/
def afterBlanks : List Char → Option (List Char)
  | [] => none
  | c :: rest => if isBlank c then some (skipBlanks rest) else none

/-! ## Declarations of types -/

/-- The keywords of type definitions. -/
def typeKeywords : List (List Char) :=
  ["type".toList, "interface".toList, "union".toList, "enum".toList, "input".toList,
   "scalar".toList]

/-- A declaration of a type, and whether it extends another one. -/
structure TypeDeclaration where
  declaration : Declaration
  extending : Bool
  deriving DecidableEq, Repr

/-- A keyword at the start of the text, with the text after it. -/
def keywordAt (text : List Char) : Option (List Char × List Char) :=
  typeKeywords.findSome? fun keyword =>
    (afterOpening keyword text).map fun rest => (keyword, rest)

/-- The declaration of the name whose keyword stands at the start of the text,
which is at the given offset. -/
def declarationAt (name : List Char) (offset : Nat) (text : List Char) :
    Option Declaration := do
  let (keyword, rest) ← keywordAt text
  let after ← afterBlanksAndName name rest
  return ⟨offset, offset + (text.length - after.length), keyword == "enum".toList⟩

/-- The declaration of the name that starts with the text, be it with a keyword
or with the word `extend`. -/
def typeDeclarationAt (name : List Char) (offset : Nat) (text : List Char) :
    Option TypeDeclaration :=
  match (afterOpening "extend".toList text).bind afterBlanks with
  | some rest =>
      (declarationAt name (offset + (text.length - rest.length)) rest).map (⟨·, true⟩)
  | none => (declarationAt name offset text).map (⟨·, false⟩)

/-- The declarations of the name from the given offset on.  The first so many
characters belong to a declaration already found; `inName` tells whether the
character before the text is a name character. -/
def typeDeclarationsFrom (name : List Char) : Nat → Nat → Bool → List Char →
    List TypeDeclaration
  | _, _, _, [] => []
  | taken + 1, offset, _, c :: rest =>
      typeDeclarationsFrom name taken (offset + 1) (isNameChar c) rest
  | 0, offset, inName, c :: rest =>
      match if inName then none else typeDeclarationAt name offset (c :: rest) with
      | some found =>
          found :: typeDeclarationsFrom name (found.declaration.stop - offset - 1)
            (offset + 1) (isNameChar c) rest
      | none => typeDeclarationsFrom name 0 (offset + 1) (isNameChar c) rest

/-- The declarations of a type name in a masked document, in order. -/
def TypeDeclaration.all (name text : List Char) : List TypeDeclaration :=
  typeDeclarationsFrom name 0 0 false text

/-- The declaration of a type that counts: the first that extends no other, or
else the first of all. -/
def findType (name text : List Char) : Option Declaration :=
  let found := TypeDeclaration.all name text
  ((found.find? fun d => !d.extending).or found.head?).map TypeDeclaration.declaration

/-! ## Declarations of directives -/

/-- The declaration of the directive that starts with the text. -/
def directiveAt (name : List Char) (offset : Nat) (text : List Char) :
    Option Declaration := do
  let rest ← (afterOpening "directive".toList text).bind afterBlanks
  let rest ← afterOpening ['@'] rest
  let after ← afterName name rest
  return ⟨offset, offset + (text.length - after.length), false⟩

/-- The first declaration of the directive from the given offset on. -/
def findDirectiveFrom (name : List Char) : Nat → Bool → List Char → Option Declaration
  | _, _, [] => none
  | offset, inName, c :: rest =>
      (if inName then none else directiveAt name offset (c :: rest)).or
        (findDirectiveFrom name (offset + 1) (isNameChar c) rest)

/-- The first declaration of a directive in a masked document. -/
def findDirective (name text : List Char) : Option Declaration :=
  findDirectiveFrom name 0 false text

end SchemaDrift
