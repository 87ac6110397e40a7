import SchemaDrift.Config.Load
import SchemaDrift.Json.Writer

/-!
# A first file with settings

* `isWebAddress` — what an endpoint has to start with.
* `settingsTemplate` — the text of a file with settings to start from.
-/

namespace SchemaDrift

/-- Does an endpoint start like a web address? -/
def isWebAddress (url : String) : Bool :=
  "http://".toList.isPrefixOf url.toList || "https://".toList.isPrefixOf url.toList

/-- The line on the endpoint; without one it is an example in a comment.  The
escapes of JSON strings are escapes of TOML strings too. -/
def endpointLine : Option String → String
  | none => "# url = \"https://ci.example.com/schema-interceptor\""
  | some url => "url = " ++ String.ofList (Json.writeText false url.toList)

/-- The lines of a file with the two settings that can be chosen. -/
def templateLines (failOnDangerous : Bool) (url : Option String) : List String :=
  ["# schemaguard configuration",
   "",
   "version = \"1.0\"",
   "",
   "[diff]",
   "fail_on_dangerous = " ++ (if failOnDangerous then "true" else "false")
     ++ "  # Dangerous changes fail the diff when true",
   "",
   "[diff.interceptor]",
   endpointLine url,
   "timeout_seconds = 10.0",
   "",
   "[output]",
   "format = \"terminal\"  # terminal | json | markdown | annotations",
   "# path_label = \"schema.graphql\"",
   ""]

/-- The text of a file with settings to start from.  An endpoint has to be a web
address. -/
def settingsTemplate (failOnDangerous : Bool) (url : Option String) :
    Except ConfigFault String :=
  match url.filter fun url => !isWebAddress url with
  | some url => .error (.badEndpoint url)
  | none => .ok (String.intercalate "\n" (templateLines failOnDangerous url))

end SchemaDrift
