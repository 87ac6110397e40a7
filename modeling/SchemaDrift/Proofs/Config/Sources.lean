import SchemaDrift.Config.Load

/-!
# Where settings come from

Settings are read from at most one file, and from the variables where that gives nothing.

* `membersOfFile_text` — what a file of text holds.
* `Site.fileRead` — the file that is read.
* `Site.settings_eq` — the settings as what comes of its members.
-/

namespace SchemaDrift

theorem membersOfFile_text {content : ByteArray} {text : String}
    (h : String.fromUTF8? content = some text) (name : String) :
    membersOfFile name (.file content) = (Toml.read text).mapError (ConfigFault.ofToml name) := by
  rw [membersOfFile, h]

namespace Site

/-- The file from which settings are read, with its path: the one that is asked for, or if none
is, the one in the working directory, or else the one in the home directory. -/
def fileRead (site : Site) (path : Option String) : Option (String × Entry) :=
  match path.map Path.normal with
  | some path => (site.working.find? path).map (path, ·)
  | none =>
    ((site.working.find? settingsFile).map (site.workingPath ++ "/" ++ settingsFile, ·)).or
      ((site.home.find? settingsFile).map (site.homePath ++ "/" ++ settingsFile, ·))

/-- What is given in files: a file that is asked for has to be there. -/
def membersRead (site : Site) (path : Option String) :
    Except ConfigFault (List (String × Toml)) :=
  match site.fileRead path, path with
  | some (name, entry), _ => membersOfFile name entry
  | none, some path => .error (.missing (Path.normal path))
  | none, none => .ok []

theorem membersOfFirst_cons (path : String) (entry : Option Entry)
    (rest : List (String × Option Entry)) : membersOfFirst ((path, entry) :: rest) =
      entry.elim (membersOfFirst rest) (membersOfFile path) := by
  cases entry <;> rfl

theorem settings_eq (site : Site) (path : Option String) :
    site.settings path = site.membersRead path >>= site.settingsFrom := by
  cases path with
  | some path =>
    have hcandidates : site.candidates (some (Path.normal path)) =
        (Path.normal path, site.working.find? (Path.normal path)) :: site.candidates none := rfl
    unfold settings membersRead fileRead
    simp only [Option.map_some, hcandidates, membersOfFirst_cons]
    cases site.working.find? (Path.normal path) <;> rfl
  | none =>
    have hcandidates : site.candidates none =
        [(site.workingPath ++ "/" ++ settingsFile, site.working.find? settingsFile),
          (site.homePath ++ "/" ++ settingsFile, site.home.find? settingsFile)] := rfl
    unfold settings membersRead fileRead
    simp only [Option.map_none, hcandidates, membersOfFirst_cons]
    cases site.working.find? settingsFile with
    | some entry => rfl
    | none => cases site.home.find? settingsFile <;> rfl

variable {site : Site} {path : Option String} {name : String} {entry : Entry}

theorem membersRead_of_fileRead (h : site.fileRead path = some (name, entry)) :
    site.membersRead path = membersOfFile name entry := by
  unfold membersRead
  rw [h]

theorem membersRead_of_none (h : site.fileRead path = none) :
    site.membersRead path =
      path.elim (.ok []) fun path => .error (.missing (Path.normal path)) := by
  unfold membersRead
  rw [h]
  cases path <;> rfl

end Site

end SchemaDrift
