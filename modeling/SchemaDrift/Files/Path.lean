/-!
# Paths

A path names a file by the directories that lead to it.

* `Path.pieces` — the pieces of a path between slashes.
* `Path.normal` — a path without the pieces that lead nowhere.
* `Path.reach` — where one more piece leads.
* `Path.endsInDirectory` — does a path name a directory by its end?
-/

namespace SchemaDrift.Path

/-- The pieces of a text between slashes; there is always one. -/
def pieces : List Char → List (List Char)
  | [] => [[]]
  | c :: rest =>
    if c = '/' then [] :: pieces rest
    else match pieces rest with
      | [] => [[c]]
      | piece :: others => (c :: piece) :: others

/-- Does a piece lead nowhere: is it empty, or a dot? -/
def isIdle (piece : List Char) : Bool := piece.isEmpty || piece == ['.']

/-- The pieces of a path that lead somewhere. -/
def steps (path : List Char) : List (List Char) := (pieces path).filter fun piece => !isIdle piece

/-- The slashes before an absolute path.  Exactly two differ from one or more. -/
def root : List Char → List Char
  | '/' :: '/' :: '/' :: _ => ['/']
  | '/' :: '/' :: _ => ['/', '/']
  | '/' :: _ => ['/']
  | _ => []

/-- Pieces with slashes between them. -/
def join (parts : List (List Char)) : List Char := List.intercalate ['/'] parts

/-- A path without the pieces that lead nowhere; a dot if nothing else is left. -/
def normal (path : String) : String :=
  let text := path.toList
  match root text ++ join (steps text) with
  | [] => "."
  | found => String.ofList found

/-- The pieces reached by one more piece, the last one first.  Two dots lead back,
and from the working directory out of it. -/
def reach (absolute : Bool) (reached : List (List Char)) (piece : List Char) :
    List (List Char) :=
  if piece = ['.', '.'] then
    match reached with
    | [] => if absolute then [] else [piece]
    | last :: before => if last = ['.', '.'] then piece :: reached else before
  else piece :: reached

/-- Does a path name a directory by its end: a slash, or a dot? -/
def endsInDirectory (path : List Char) : Bool :=
  match (pieces path).getLast? with
  | none => true
  | some last => isIdle last

end SchemaDrift.Path
