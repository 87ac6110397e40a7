import SchemaDrift.Locate.Declaration
import SchemaDrift.Locate.Marks
import SchemaDrift.Locate.Mask

/-!
# Locating a change in the sources

The path of a change names a definition, perhaps a member of it, perhaps an
argument of that.  It is looked up in the new source, and in the old one if the
new one does not declare the definition.

* `ChangePath` — the parts of a path.
* `Location` — a line and column in one of the sources, or the fallback.
* `Sources` — the texts of the two versions.
* `Sources.locate` — where the thing that a path names stands.
-/

namespace SchemaDrift

open Text

/-! ## Paths -/

/-- What a path names. -/
inductive ChangePath where
  /-- A directive, or the argument of the given name if that is not empty. -/
  | directive (name argument : List Char)
  /-- A type, or a member or its argument if their names are not empty. -/
  | type (name member argument : List Char)
  deriving DecidableEq, Repr

/-- The parts of a text before and after the first dot. -/
def splitAtDot (text : List Char) : List Char × List Char :=
  (text.takeWhile (· != '.'), (text.dropWhile (· != '.')).drop 1)

/-- The parts of a path; the empty path names nothing. -/
def ChangePath.ofText? : List Char → Option ChangePath
  | [] => none
  | '@' :: rest =>
      let (name, argument) := splitAtDot rest
      some (.directive name argument)
  | path =>
      let (name, rest) := splitAtDot path
      let (member, argument) := splitAtDot rest
      some (.type name member argument)

/-! ## Locations -/

/-- The source in which something was found. -/
inductive Origin where
  | new
  | old
  | fallback
  deriving DecidableEq, Repr

/-- The word for an origin. -/
def Origin.word : Origin → String
  | new => "new"
  | old => "old"
  | fallback => "fallback"

/-- A line and column, both counted from one, and where they were found. -/
structure Location where
  line : Nat
  column : Nat
  origin : Origin
  deriving DecidableEq, Repr

/-- The location of what is found nowhere. -/
def Location.fallback : Location := ⟨1, 1, .fallback⟩

/-- The line and column of an offset of a text. -/
def positionAt (offset : Nat) (text : List Char) : Nat × Nat :=
  let before := text.take offset
  (before.count '\n' + 1, (before.reverse.takeWhile (· != '\n')).length + 1)

/-! ## Searching one source -/

/-- The offset of what a path names in a masked text; the start of the
definition if the member or argument is not there. -/
def ChangePath.offsetIn (path : ChangePath) (text : List Char) : Option Nat :=
  match path with
  | .directive name argument =>
      (findDirective name text).map fun found =>
        if argument.isEmpty then found.start
        else (findArgument argument found.stop (text.drop found.stop)).getD found.start
  | .type name member argument =>
      (findType name text).map fun found =>
        if member.isEmpty then found.start
        else
          match findMember member found.isEnum found.stop (text.drop found.stop) with
          | none => found.start
          | some start =>
              if argument.isEmpty then start
              else
                let stop := start + member.length
                (findArgument argument stop (text.drop stop)).getD start

/-- The masked text of a source, with every line end a line feed. -/
def maskedSource (source : String) : List Char := mask (unifyBreaks source.toList)

/-- Where a path is found in a source, if there is a source and it declares the
definition. -/
def ChangePath.locateIn (path : ChangePath) (origin : Origin) (source : Option String) :
    Option Location := do
  let text := maskedSource (← source)
  let offset ← path.offsetIn text
  let position := positionAt offset text
  return ⟨position.1, position.2, origin⟩

/-! ## Searching both sources -/

/-- The texts of the two versions, each of which may be missing. -/
structure Sources where
  old : Option String
  new : Option String
  deriving DecidableEq, Repr, Inhabited

/-- Where the thing that a path names stands. -/
def Sources.locate (sources : Sources) (path : String) : Location :=
  match ChangePath.ofText? path.toList with
  | none => .fallback
  | some parts =>
      ((parts.locateIn .new sources.new).or (parts.locateIn .old sources.old)).getD .fallback

end SchemaDrift
