import SchemaDrift.Config.Template
import SchemaDrift.Proofs.Config.Sources
import SchemaDrift.Proofs.Config.Variables
import SchemaDrift.Proofs.Intercept.Wire
import SchemaDrift.Proofs.Toml.Documents
import SchemaDrift.Proofs.Toml.Strings

/-!
# A first file with settings is read back

The text of a first file is read line by line.  All of it but the endpoint is known; that stands
in a string of JSON, which is the same string in TOML unless the delete character is in it.

* `readStatement_endpoint` — the line on the endpoint.
* `comes_template`, `read_template` — the text as a document.
* `template_loads_back` — the settings that are loaded from it.
* `delete_in_endpoint_refused` — an endpoint for which nothing is loaded.
-/

namespace SchemaDrift

open Toml

/-! ## The text as a document -/

/-- What is read of the text before the endpoint. -/
def templateHead (failOnDangerous : Bool) : Outline where
  members :=
    [("version", .value (.text "1.0")),
     ("diff", .table (some 1) [("fail_on_dangerous", .value (.bool failOnDangerous)),
       ("interceptor", .table (some 2) [])])]
  header := ["diff", "interceptor"]
  block := 2

/-- What is read of the text with an endpoint. -/
def templateOutline (failOnDangerous : Bool) (url : String) : Outline where
  members :=
    [("version", .value (.text "1.0")),
     ("diff", .table (some 1) [("fail_on_dangerous", .value (.bool failOnDangerous)),
       ("interceptor", .table (some 2) [("url", .value (.text url)),
         ("timeout_seconds", .value (.real (.ofInt 10)))])]),
     ("output", .table (some 3) [("format", .value (.text "terminal"))])]
  header := ["output"]
  block := 3

/-- The lines after the endpoint. -/
def templateTail : List String :=
  ["timeout_seconds = 10.0", "", "[output]",
   "format = \"terminal\"  # terminal | json | markdown | annotations",
   "# path_label = \"schema.graphql\"", ""]

section Statements

variable (more : List Char)

theorem readStatement_version : readStatement ("version = \"1.0\"".toList ++ more) =
    .ok (.assign ⟨[], "version"⟩ (.text "1.0"), more) := by
  have hkey : readKey? ("version = \"1.0\"".toList ++ more) =
      some (⟨[], "version"⟩, "= \"1.0\"".toList ++ more) := rfl
  exact readAssignment_scalar hkey rfl ⟨nofun, nofun⟩

theorem readStatement_danger (failOnDangerous : Bool) :
    readStatement (("fail_on_dangerous = " ++ if failOnDangerous then "true" else "false").toList
      ++ more) = .ok (.assign ⟨[], "fail_on_dangerous"⟩ (.bool failOnDangerous), more) := by
  cases failOnDangerous with
  | false =>
    have hkey : readKey? ("fail_on_dangerous = false".toList ++ more) =
        some (⟨[], "fail_on_dangerous"⟩, "= false".toList ++ more) := rfl
    exact readAssignment_scalar hkey rfl ⟨nofun, nofun⟩
  | true =>
    have hkey : readKey? ("fail_on_dangerous = true".toList ++ more) =
        some (⟨[], "fail_on_dangerous"⟩, "= true".toList ++ more) := rfl
    exact readAssignment_scalar hkey rfl ⟨nofun, nofun⟩

theorem readStatement_seconds : readStatement ("timeout_seconds = 10.0".toList ++ '\n' :: more) =
    .ok (.assign ⟨[], "timeout_seconds"⟩ (.real (.ofInt 10)), '\n' :: more) := by
  have hkey : readKey? ("timeout_seconds = 10.0".toList ++ '\n' :: more) =
      some (⟨[], "timeout_seconds"⟩, "= 10.0".toList ++ '\n' :: more) := rfl
  have hdecimal : readDecimal? ("10.0".toList ++ '\n' :: more) =
      some (⟨none, ['1', '0'], some ['0'], none⟩, '\n' :: more) := rfl
  have hvalue : (⟨none, ['1', '0'], some ['0'], none⟩ : Numeral).toDouble = .ofInt 10 := by
    decide +kernel
  have hscalar : readScalar ("10.0".toList ++ '\n' :: more) =
      .ok (.real (.ofInt 10), '\n' :: more) := by
    show readNumber ("10.0".toList ++ '\n' :: more) = _
    unfold readNumber
    rw [show readMarked? ("10.0".toList ++ '\n' :: more) = none from rfl, hdecimal]
    show Except.ok (Toml.real (Numeral.toDouble ⟨none, ['1', '0'], some ['0'], none⟩), _) = _
    rw [hvalue]
  refine (readAssignment_scalar hkey rfl ⟨nofun, nofun⟩).trans ?_
  show Except.map _ (readScalar ("10.0".toList ++ '\n' :: more)) = _
  rw [hscalar]
  rfl

theorem readStatement_format : readStatement ("format = \"terminal\"".toList ++ more) =
    .ok (.assign ⟨[], "format"⟩ (.text "terminal"), more) := by
  have hkey : readKey? ("format = \"terminal\"".toList ++ more) =
      some (⟨[], "format"⟩, "= \"terminal\"".toList ++ more) := rfl
  exact readAssignment_scalar hkey rfl ⟨nofun, nofun⟩

theorem readStatement_diff : readStatement ("[diff]".toList ++ more) =
    .ok (.table ⟨[], "diff"⟩, more) := rfl

theorem readStatement_interceptor : readStatement ("[diff.interceptor]".toList ++ more) =
    .ok (.table ⟨["diff"], "interceptor"⟩, more) := rfl

theorem readStatement_output : readStatement ("[output]".toList ++ more) =
    .ok (.table ⟨[], "output"⟩, more) := rfl

/-- An endpoint that starts like a web address starts no long string. -/
theorem readQuoted?_writeText {value : List Char} (h : value.head? = some 'h') :
    readQuoted? (Json.writeText false value ++ '\n' :: more) =
      if '\x7f' ∈ value then none else some (value, '\n' :: more) := by
  rw [← readBasic_writeText value ('\n' :: more)]
  obtain ⟨rest, rfl⟩ : ∃ rest, value = 'h' :: rest := by
    cases value with
    | nil => exact absurd h nofun
    | cons c rest => exact ⟨rest, by rw [Option.some.inj h]⟩
  have hwritten : Json.writeChar false 'h' = ['h'] := rfl
  rw [Json.writeText, List.flatMap_cons, hwritten, List.append_assoc, List.cons_append,
    List.append_assoc]
  rfl

theorem readStatement_endpoint {url : String} (h : url.toList.head? = some 'h') :
    readStatement ((endpointLine (some url)).toList ++ '\n' :: more) =
      if '\x7f' ∈ url.toList then .error .malformed
      else .ok (.assign ⟨[], "url"⟩ (.text url), '\n' :: more) := by
  have hline : (endpointLine (some url)).toList ++ '\n' :: more =
      "url = ".toList ++ (Json.writeText false url.toList ++ '\n' :: more) := by
    simp only [endpointLine, String.toList_append, String.toList_ofList, List.append_assoc]
  have hkey : readKey? ("url = ".toList ++ (Json.writeText false url.toList ++ '\n' :: more)) =
      some (⟨[], "url"⟩, "= ".toList ++ (Json.writeText false url.toList ++ '\n' :: more)) := rfl
  have hscalar : readScalar (Json.writeText false url.toList ++ '\n' :: more) =
      require ((readQuoted? (Json.writeText false url.toList ++ '\n' :: more)).map fun found =>
        (.text (String.ofList found.1), found.2)) := rfl
  have hread :
      readStatement ("url = ".toList ++ (Json.writeText false url.toList ++ '\n' :: more)) =
      (readScalar (Json.writeText false url.toList ++ '\n' :: more)).map fun found =>
        (.assign ⟨[], "url"⟩ found.1, found.2) :=
    readAssignment_scalar hkey rfl ⟨nofun, nofun⟩
  rw [hline, hread, hscalar, readQuoted?_writeText more h]
  split
  · rfl
  · rw [Option.map_some, String.ofList_toList]
    rfl

end Statements

/-! ### The document -/

theorem comes_head {failOnDangerous : Bool} {url : Option String}
    {result : Except TomlFault Outline}
    (h : Comes (templateHead failOnDangerous) (textOf (endpointLine url :: templateTail)) result) :
    Comes {} (textOf (templateLines failOnDangerous url)) result := by
  have hdanger : ("fail_on_dangerous = " ++ if failOnDangerous then "true" else "false").toList =
      'f' :: ("ail_on_dangerous = " ++ if failOnDangerous then "true" else "false").toList := by
    cases failOnDangerous <;> rfl
  refine comes_comment_line rfl rfl (comes_blank_line ?_)
  refine comes_statement_line "version = \"1.0\"".toList [] rfl rfl (by decide)
    (fun _ => readStatement_version _) (fun _ => rfl) rfl (comes_blank_line ?_)
  refine comes_statement_line "[diff]".toList [] rfl rfl (by decide)
    (fun _ => readStatement_diff _) (fun _ => rfl) rfl ?_
  refine comes_statement_line _ "  # Dangerous changes fail the diff when true".toList
    (String.toList_append ..) hdanger (by decide) (fun _ => readStatement_danger _ _)
    (fun _ => rfl) rfl (comes_blank_line ?_)
  exact comes_statement_line "[diff.interceptor]".toList [] rfl rfl (by decide)
    (fun _ => readStatement_interceptor _) (fun _ => rfl) rfl h

theorem comes_tail (failOnDangerous : Bool) (url : String) {outline : Outline}
    (h : (templateHead failOnDangerous).add (.assign ⟨[], "url"⟩ (.text url)) = some outline) :
    Comes outline (textOf templateTail) (.ok (templateOutline failOnDangerous url)) := by
  obtain rfl := Option.some.inj h
  refine comes_statement_line "timeout_seconds = 10.0".toList [] rfl rfl (by decide)
    (fun _ => readStatement_seconds _) (fun _ => rfl) rfl (comes_blank_line ?_)
  refine comes_statement_line "[output]".toList [] rfl rfl (by decide)
    (fun _ => readStatement_output _) (fun _ => rfl) rfl ?_
  refine comes_statement_line "format = \"terminal\"".toList
    "  # terminal | json | markdown | annotations".toList rfl rfl (by decide)
    (fun _ => readStatement_format _) (fun _ => rfl) rfl ?_
  exact comes_comment_line rfl rfl (.nil _)

/-- The text with an endpoint is a document unless the delete character is in that. -/
theorem comes_template (failOnDangerous : Bool) {url : String} (h : url.toList.head? = some 'h') :
    Comes {} (textOf (templateLines failOnDangerous (some url)))
      (if '\x7f' ∈ url.toList then .error .malformed
        else .ok (templateOutline failOnDangerous url)) := by
  refine comes_head ?_
  have hline : (endpointLine (some url)).toList =
      'u' :: ("rl = ".toList ++ Json.writeText false url.toList) := by
    simp only [endpointLine, String.toList_append, String.toList_ofList]
    rfl
  have hread := fun more => readStatement_endpoint more h
  split
  case isTrue hdelete =>
    simp only [hdelete, if_true] at hread
    exact comes_fault_line hline (by decide) hread
  case isFalse hdelete =>
    simp only [hdelete, if_false] at hread
    exact comes_statement_line _ [] (List.append_nil _).symm hline (by decide) hread
      (fun _ => rfl) rfl (comes_tail failOnDangerous url rfl)

/-- No line ends with a carriage return. -/
theorem return_not_mem_templateLines (failOnDangerous : Bool) (url : String) :
    ∀ line ∈ templateLines failOnDangerous (some url), '\r' ∉ line.toList := by
  have hurl : '\r' ∉ (endpointLine (some url)).toList := by
    have hwritten : '\r' ∉ Json.writeText false url.toList := fun hmem =>
      absurd (Json.le_toNat_of_mem_writeText hmem) (by decide)
    rw [endpointLine, String.toList_append, List.mem_append, not_or]
    exact ⟨by decide, by rwa [String.toList_ofList]⟩
  cases failOnDangerous with
  | false => simp only [templateLines, List.forall_mem_cons, hurl]; decide
  | true => simp only [templateLines, List.forall_mem_cons, hurl]; decide

/-- What the text is read as. -/
theorem read_template (failOnDangerous : Bool) {url : String} (h : url.toList.head? = some 'h') :
    read (String.intercalate "\n" (templateLines failOnDangerous (some url))) =
      if '\x7f' ∈ url.toList then .error .malformed
      else .ok (Node.settleMembers (templateOutline failOnDangerous url).members) := by
  rw [read_of_comes (unixLines_of_not_mem (return_not_mem_textOf
    (return_not_mem_templateLines failOnDangerous url))) (comes_template failOnDangerous h)]
  split <;> rfl

/-! ## The settings -/

theorem settingsTemplate_of_isWebAddress {url : String} (h : isWebAddress url = true)
    (failOnDangerous : Bool) : settingsTemplate failOnDangerous (some url) =
      .ok (String.intercalate "\n" (templateLines failOnDangerous (some url))) := by
  unfold settingsTemplate
  rw [Option.filter_some, h]
  rfl

theorem head?_of_isWebAddress {url : String} (h : isWebAddress url = true) :
    url.toList.head? = some 'h' := by
  rcases Bool.or_eq_true_iff.1 h with hprefix | hprefix
  · obtain ⟨rest, hrest⟩ := List.isPrefixOf_iff_prefix.1 hprefix
    rw [← hrest]
    rfl
  · obtain ⟨rest, hrest⟩ := List.isPrefixOf_iff_prefix.1 hprefix
    rw [← hrest]
    rfl

/-- The settings that the text stands for. -/
theorem settingsFrom_template {site : Site} (h : site.environment.Unset) (failOnDangerous : Bool)
    (url : String) :
    site.settingsFrom (Node.settleMembers (templateOutline failOnDangerous url).members) =
      .ok { diff := { failOnDangerous, interceptor := { url := some url } } } := by
  have hgiven : site.environment.given {} = .ok [] := given_of_unset rfl h
  have hrules : VariableRules.ofToml
      (Node.settleMembers (templateOutline failOnDangerous url).members) = .ok {} := rfl
  unfold Site.settingsFrom
  rw [hrules]
  show ((site.environment.given {}).mapError ConfigFault.ofVariable).bind _ = _
  rw [hgiven]
  rfl

/-- What is loaded from a file with the text, where no variables are set. -/
theorem settings_of_template {site : Site} {path : Option String} {name url : String}
    {failOnDangerous : Bool} (hurl : isWebAddress url = true)
    (hfile : site.fileRead path = some (name, .file (String.intercalate "\n"
      (templateLines failOnDangerous (some url))).toUTF8))
    (hunset : site.environment.Unset) :
    site.settings path =
      if '\x7f' ∈ url.toList then .error (.notToml name)
      else .ok { diff := { failOnDangerous, interceptor := { url := some url } } } := by
  rw [Site.settings_eq, Site.membersRead_of_fileRead hfile,
    membersOfFile_text (fromUTF8?_toUTF8 _),
    read_template failOnDangerous (head?_of_isWebAddress hurl)]
  split
  · rfl
  · exact settingsFrom_template hunset failOnDangerous url

/-- **The first file is loaded back as what it was written for**, for every web address without
the delete character in it.  With one the file is no TOML. -/
theorem template_loads_back (failOnDangerous : Bool) {url : String}
    (h : isWebAddress url = true) :
    ∃ text, settingsTemplate failOnDangerous (some url) = .ok text ∧
      ∀ (site : Site) (path : Option String) (name : String),
        site.fileRead path = some (name, .file text.toUTF8) → site.environment.Unset →
          site.settings path =
            if '\x7f' ∈ url.toList then .error (.notToml name)
            else .ok { diff := { failOnDangerous, interceptor := { url := some url } } } :=
  ⟨_, settingsTemplate_of_isWebAddress h failOnDangerous,
    fun _ _ _ hfile hunset => settings_of_template h hfile hunset⟩

/-- The surroundings of a first file. -/
def Site.withSettings (text : String) : Site where
  working := { files := [(settingsFile, text.toUTF8)] }
  environment := [("PATH", "/bin")]

theorem Site.unset_withSettings (text : String) : (withSettings text).environment.Unset := by
  show Environment.Unset [("PATH", "/bin")]
  decide

/-- An endpoint with a quotation mark, a backslash, a line feed and a letter outside ASCII. -/
theorem quoted_endpoint_loads_back :
    ∃ text, settingsTemplate true (some "https://é.example/\"\\\n#") = .ok text ∧
      (Site.withSettings text).settings none =
        .ok { diff := { failOnDangerous := true
                        interceptor := { url := some "https://é.example/\"\\\n#" } } } := by
  obtain ⟨text, htext, hload⟩ := template_loads_back true
    (show isWebAddress "https://é.example/\"\\\n#" = true by decide)
  refine ⟨text, htext, ?_⟩
  rw [hload (.withSettings text) none ("./" ++ settingsFile) rfl (Site.unset_withSettings text)]
  decide

/-- **An endpoint with the delete character makes a file that is refused**: JSON lets the
character stand as it is, and TOML does not. -/
theorem delete_in_endpoint_refused :
    isWebAddress "http://\x7f" = true ∧
      ∃ text, settingsTemplate false (some "http://\x7f") = .ok text ∧
        (Site.withSettings text).settings none = .error (.notToml ("./" ++ settingsFile)) := by
  have hurl : isWebAddress "http://\x7f" = true := by decide
  refine ⟨hurl, _, settingsTemplate_of_isWebAddress hurl false, ?_⟩
  exact settings_of_template hurl rfl (Site.unset_withSettings _)

end SchemaDrift
