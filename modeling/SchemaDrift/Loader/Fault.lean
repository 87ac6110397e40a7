import SchemaDrift.Sdl.Grammar
import SchemaDrift.Sdl.Meaning
import SchemaDrift.Sdl.Violation
import SchemaDrift.Text.Excerpt

/-!
# Why a text does not load

* `LoadFault` — why a text does not load, with its message and its line.
* `excerptAt` — the place of a spot in a text.
-/

namespace SchemaDrift

/-- Why a text does not load.  Arguments of standard directives that are no texts
stand with their places, if they have one. -/
inductive LoadFault where
  /-- It is no document. -/
  | grammar (fault : Sdl.LocatedFault)
  /-- It is a document that is not valid. -/
  | invalid (violations : List Sdl.Violation)
  /-- A scalar or directive has a remark that is no text. -/
  | unfit (fault : Sdl.Unfit) (place : Option Text.Excerpt)
  /-- A field of the type of the name has a remark that is no text. -/
  | unfitField (type : String) (fault : Sdl.Unfit) (place : Option Text.Excerpt)
  /-- An enum value has a remark that is no text.  This comes to light last, and it
  breaks off what the text is loaded for. -/
  | unfitValue (fault : Sdl.Unfit) (place : Option Text.Excerpt)
  /-- The schema has a type of an unknown class, which is shown like this.  So does this. -/
  | unsupported (shown : String)
  deriving DecidableEq, Repr, Inhabited

namespace LoadFault

/-- A message, with the place under the name of its text if there is one. -/
def placed (name message : String) (place : Option Text.Excerpt) : String :=
  match place with
  | none => message
  | some excerpt => message ++ "\n\n" ++ excerpt.shown name

/-- The message for a fault of a text of the given name. -/
def message (name : String) : LoadFault → String
  | grammar fault => fault.fault.message
  | invalid violations => Sdl.Violation.summary violations
  | unfit fault _ => fault.message
  | unfitField type fault place =>
      type ++ " fields cannot be resolved. " ++ placed name fault.message place
  | unfitValue fault place => placed name fault.message place
  | unsupported shown => "Unsupported GraphQL type: " ++ shown

/-- The line of a fault, if it has one. -/
def line : LoadFault → Option Nat
  | grammar fault => some fault.line
  | unfit _ place => place.map Text.Excerpt.line
  | _ => none

/-- Does the fault break off what the text is loaded for? -/
def isFatal : LoadFault → Bool
  | unfitValue .. | unsupported _ => true
  | _ => false

end LoadFault

/-- The place of a spot in a text. -/
def excerptAt (text : String) (spot : Sdl.Spot) : Option Text.Excerpt :=
  (Sdl.lexemeAt? (Sdl.lexemes text.toList) spot).map fun lexeme =>
    .around text.toList lexeme.line lexeme.offset

end SchemaDrift
