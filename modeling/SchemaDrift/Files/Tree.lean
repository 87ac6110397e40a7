import SchemaDrift.Files.Path
import SchemaDrift.Keyed

/-!
# Trees of files

* `FileTree` — files by their paths, and the directories they are in.
* `FileTree.find?` — what stands at a path.
* `FileTree.canWrite`, `FileTree.write` — putting a file at a path.
-/

namespace SchemaDrift

/-- What stands at a path. -/
inductive Entry where
  | file (content : ByteArray)
  | directory

/-- Files by their paths without pieces that lead nowhere.  Directories are there
if there are files in them, or if they are named. -/
structure FileTree where
  files : Keyed String ByteArray := []
  directories : List String := []

namespace FileTree

/-- Is there a directory of the given path, which needs no resolving? -/
def hasDirectory (tree : FileTree) (path : String) : Bool :=
  path == "" || tree.directories.contains path
    || tree.files.any fun file => (path ++ "/").toList.isPrefixOf file.1.toList

/-- What stands at a path that needs no resolving. -/
def entry? (tree : FileTree) (path : String) : Option Entry :=
  match tree.files.get? path with
  | some content => some (.file content)
  | none => if tree.hasDirectory path then some .directory else none

/-- The path that the pieces reached so far make up. -/
def pathOf (start : List Char) (reached : List (List Char)) : String :=
  String.ofList (start ++ Path.join reached.reverse)

/-- The path that more pieces lead to.  Each of them has to start from a
directory. -/
def follow? (tree : FileTree) (start : List Char) :
    List (List Char) → List (List Char) → Option String
  | reached, [] => some (pathOf start reached)
  | reached, piece :: rest =>
    if tree.hasDirectory (pathOf start reached) then
      follow? tree start (Path.reach (!start.isEmpty) reached piece) rest
    else none

/-- The path of what a path names, without pieces that lead nowhere or back. -/
def resolve? (tree : FileTree) (path : String) : Option String :=
  let text := path.toList
  if text.isEmpty then none else tree.follow? (Path.root text) [] (Path.steps text)

/-- What stands at a path.  A path that ends in a slash names a directory only. -/
def find? (tree : FileTree) (path : String) : Option Entry :=
  match (tree.resolve? path).bind tree.entry? with
  | some (.file content) =>
      if Path.endsInDirectory path.toList then none else some (.file content)
  | found => found

/-- Can a file be put at a path: is it in a directory, and no directory itself? -/
def canWrite (tree : FileTree) (path : String) : Bool :=
  match tree.resolve? path with
  | none => false
  | some found => !tree.hasDirectory found

/-- The tree with a file at a path. -/
def write (tree : FileTree) (path : String) (content : ByteArray) : FileTree :=
  match tree.resolve? path with
  | none => tree
  | some found => { tree with files := tree.files.put found content }

end FileTree

end SchemaDrift
