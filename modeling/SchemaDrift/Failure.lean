import SchemaDrift.Json.Display
import SchemaDrift.Keyed

/-!
# Failures

* `ExitCode` — what the program tells its caller.
* `Failure` — an error with its kind, message and details.
* `Failure.record` — a failure as JSON.
-/

namespace SchemaDrift

/-- What the program tells its caller. -/
inductive ExitCode where
  | success
  /-- The configuration has to be mended. -/
  | config
  /-- A schema cannot be loaded, or the command line is wrong. -/
  | schema
  /-- The program broke down. -/
  | fatal
  /-- The verdict is failure. -/
  | breaking
  deriving DecidableEq, Repr, Inhabited

/-- The number of an exit code. -/
def ExitCode.number : ExitCode → Nat
  | .success => 0
  | .config => 1
  | .schema => 2
  | .fatal => 3
  | .breaking => 4

/-- The kinds of failures. -/
inductive FailureKind where
  /-- A failure of no kind of its own. -/
  | general
  | config
  | schemaLoad
  | interceptor
  | unknownRule
  deriving DecidableEq, Repr, Inhabited

namespace FailureKind

/-- The name of a kind in records. -/
def name : FailureKind → String
  | general => "SchemaGuardError"
  | config => "ConfigError"
  | schemaLoad => "SchemaLoadError"
  | interceptor => "InterceptorError"
  | unknownRule => "UnknownRuleError"

/-- The kinds. -/
def all : List FailureKind := [general, config, schemaLoad, interceptor, unknownRule]

/-- The kind of a name. -/
def ofName? (text : String) : Option FailureKind := all.find? fun kind => kind.name == text

/-- The exit code of a program that ends with a failure of a kind. -/
def exitCode : FailureKind → ExitCode
  | config => .config
  | schemaLoad => .schema
  | _ => .fatal

end FailureKind

/-- An error with what there is to know about it. -/
structure Failure where
  kind : FailureKind
  /-- The message, which is a text if nothing went wrong with it. -/
  message : Json
  details : Keyed String Json := []

namespace Failure

/-- A schema that cannot be loaded from a file, perhaps with the line at fault. -/
def schemaLoad (message file line : Json) (details : Keyed String Json := []) : Failure :=
  ⟨.schemaLoad, message, [("file_path", file), ("line", line)] ++ details⟩

/-- The message about a rule without a level. -/
def unknownRuleMessage (ruleId : String) : String :=
  "No criticality registered for rule: " ++ ruleId

/-- A rule without a level. -/
def unknownRule (ruleId : Json) : Failure :=
  ⟨.unknownRule, .text (unknownRuleMessage ruleId.display), [("rule_id", ruleId)]⟩

/-- The message as it is shown. -/
def text (failure : Failure) : String := failure.message.display

/-- The exit code of a program that ends with a failure. -/
def exitCode (failure : Failure) : ExitCode := failure.kind.exitCode

/-- A failure with all its parts.  Details take the place of parts of the same
name. -/
def record (failure : Failure) : Keyed String Json :=
  Keyed.ofList ([
    ("error", .text failure.kind.name),
    ("message", failure.message),
    ("exit_code", .int failure.exitCode.number)] ++ failure.details)

end Failure

end SchemaDrift
