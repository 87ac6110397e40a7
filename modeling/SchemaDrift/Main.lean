import SchemaDrift.Command.Run

/-!
# The program

Reads the files that a command line is about, runs it, and writes and prints what
the run comes to.
-/

namespace SchemaDrift.Program

/-- The variables that name settings. -/
def variableNames : List String :=
  ["SCHEMAGUARD_VERSION", "SCHEMAGUARD_DIFF", "SCHEMAGUARD_DIFF__FAIL_ON_DANGEROUS",
   "SCHEMAGUARD_DIFF__INTERCEPTOR", "SCHEMAGUARD_DIFF__INTERCEPTOR__TIMEOUT_SECONDS",
   "SCHEMAGUARD_DIFF__INTERCEPTOR__URL", "SCHEMAGUARD_OUTPUT", "SCHEMAGUARD_OUTPUT__FORMAT",
   "SCHEMAGUARD_OUTPUT__PATH_LABEL"]

/-- What stands at a path. -/
def lookAt (path : String) : IO (Option Entry) := do
  try
    return some (.file (← IO.FS.readBinFile path))
  catch
    | .noFileOrDirectory .. => return none
    | .inappropriateType .. => return some .directory
    | .permissionDenied .. => return none
    | _ => return none

/-- A tree with what stands at a path and on the way to it. -/
def explore (base : String) (tree : FileTree) (path : String) : IO FileTree := do
  let text := path.toList
  let start := Path.root text
  let mut tree := tree
  let mut reached : List (List Char) := []
  let mut place := if start.isEmpty then base else String.ofList start
  for piece in Path.steps text do
    reached := Path.reach (!start.isEmpty) reached piece
    place := place ++ "/" ++ String.ofList piece
    let key := FileTree.pathOf start reached
    match ← lookAt place with
    | some (.file content) => tree := { tree with files := tree.files.put key content }
    | some .directory => tree := { tree with directories := key :: tree.directories }
    | none => pure ()
  return tree

/-- The values of the variables that name settings. -/
def environment : IO Environment := do
  let found ← variableNames.mapM fun name => do
    return (← IO.getEnv name).map fun value => (name, value)
  return found.filterMap id

/-- All that a run with the given words depends on. -/
def surroundings (words : List String) : IO Surroundings := do
  let working := (← IO.getEnv "PWD").getD "."
  let home := (← IO.getEnv "HOME").getD "~"
  let paths := settingsFile :: (Invocation.ofWords words).paths
  return {
    working := ← paths.foldlM (explore working) { directories := ["/", ".."] }
    workingPath := working
    home := ← explore home {} settingsFile
    homePath := home
    environment := ← environment
    deliver := fun _ _ => .failed "there is no network"
    colored := ← (← IO.getStdout).isTty }

/-- Does what a run comes to. -/
def perform (run : Run) : IO UInt32 := do
  for (path, text) in run.written do
    IO.FS.writeFile path text
  for line in run.err do
    IO.eprintln line
  for line in run.out do
    IO.println line
  if run.misused then
    IO.eprintln "Usage: schemaguard [OPTIONS] COMMAND [ARGS]..."
  return UInt32.ofNat run.exit.number

end SchemaDrift.Program

/-- Runs the command line. -/
def main (words : List String) : IO UInt32 := do
  SchemaDrift.Program.perform ((← SchemaDrift.Program.surroundings words).run words)
