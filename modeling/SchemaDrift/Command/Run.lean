import SchemaDrift.Command.Invocation
import SchemaDrift.Config.Template
import SchemaDrift.Diff.Engine
import SchemaDrift.Failure
import SchemaDrift.Report.Markup
import SchemaDrift.Report.RuleTable
import SchemaDrift.Sdl.Load
import SchemaDrift.Text.ControlSequence
import SchemaDrift.Text.Lines

/-!
# Running a command

* `Run` — what a run comes to: its exit code, what it prints, what it writes.
* `Policy.ofSettings`, `labelOf`, `formatOf` — what holds for a comparison: the
  options of the command go before the settings.
* `Surroundings.run` — the run of a command line.
-/

namespace SchemaDrift

/-- All that a run depends on besides the command line. -/
structure Surroundings extends Site where
  /-- What comes of sending a request to an endpoint. -/
  deliver : String → Request → Delivery
  /-- Can what is printed have colours? -/
  colored : Bool := false

/-- What a run comes to. -/
structure Run where
  exit : ExitCode := .success
  /-- What is printed, line by line. -/
  out : List String := []
  /-- What is said about the run, line by line. -/
  err : List String := []
  /-- The files that are written in the working directory, with their texts. -/
  written : List (String × String) := []
  /-- Is the command line wrong? -/
  misused : Bool := false
  deriving DecidableEq, Repr, Inhabited

namespace Run

/-- The run of a wrong command line. -/
def misuse : Run := { exit := .schema, misused := true }

/-- A run with something printed before it. -/
def after (out err : List String) (run : Run) : Run :=
  { run with out := out ++ run.out, err := err ++ run.err }

/-- An error as it is shown. -/
def errorLine (message : String) : String := Markup.line "[red]Error:[/red] " message ""

/-- A warning as it is shown. -/
def warningLine (message : String) : String := Markup.line "[yellow]Warning:[/yellow] " message ""

/-- A success as it is shown. -/
def successLine (message : String) : String := Markup.line "[green]" message "[/green]"

/-- A remark as it is shown. -/
def infoLine (message : String) : String := Markup.line "" message ""

/-- A run that ends with an error. -/
def fail (exit : ExitCode) (message : String) : Run := { exit, err := [errorLine message] }

/-- A run that breaks down, perhaps with a message.  Of that only the lines after the
first are shown. -/
def breakdown (debug : Bool) (message : String := "") : Run where
  exit := .fatal
  out := ["", if debug then "Full traceback (--debug mode):"
    else "Run with --debug for full traceback."]
  err := [errorLine ("Error" ++ String.ofList (message.toList.dropWhile (· != '\n')))]

/-- A run that prints a report, without what a terminal would act on. -/
def print (exit : ExitCode) (text : String) : Run :=
  { exit, out := [String.ofList (Text.dropSequences text.toList)] }

end Run

/-! ## What holds for a comparison -/

/-- A text that is given and not empty. -/
def given? (text : Option String) : Option String := text.filter (· != "")

/-- The endpoint that is asked: that of the command, or else that of the settings. -/
def endpointOf (options : DiffOptions) (settings : Settings) : Option String :=
  given? ((given? options.interceptorUrl).or settings.diff.interceptor.url)

/-- What a comparison depends on. -/
def Policy.ofSettings (deliver : String → Request → Delivery) (options : DiffOptions)
    (settings : Settings) : Policy where
  failOnDangerous := options.failOnDangerous.getD settings.diff.failOnDangerous
  interceptor := (endpointOf options settings).map fun url => .remote url (deliver url)
  seconds := settings.diff.interceptor.seconds

/-- The words for the source in notes: those of the command, or else those of the
settings, or else the path of the new version. -/
def labelOf (options : DiffOptions) (settings : Settings) : String :=
  ((given? options.label).or (given? settings.output.label)).getD (Path.normal options.new)

/-- The format of the report: that of the command, or else that of the settings. -/
def formatOf (options : DiffOptions) (settings : Settings) : Format :=
  options.format.getD settings.output.format

/-! ## Comparing -/

/-- A log entry as it is shown. -/
def LogEntry.line (entry : LogEntry) : String :=
  let word := entry.severity.word
  word ++ String.ofList (List.replicate (9 - word.length) ' ') ++ entry.text

/-- The text of a schema file, whatever ends its lines; `none` if it is not
UTF-8. -/
def schemaText? (content : ByteArray) : Option String :=
  (String.fromUTF8? content).map fun text => String.ofList (Text.unifyBreaks text.toList)

/-- The run that ends because a schema cannot be loaded. -/
def Run.ofFault (debug : Bool) (path : String) (fault : LoadFault) : Run :=
  let name := Path.normal path
  let place :=
    match fault.line with
    | none => name
    | some line => name ++ ":" ++ toString line
  if fault.isFatal then .breakdown debug (fault.message name)
  else .fail .schema (place ++ ": " ++ fault.message name)

namespace Surroundings

/-- The report on a comparison: printed, or written to the file that the command
names. -/
def report (around : Surroundings) (debug : Bool) (options : DiffOptions)
    (settings : Settings) (result : DiffResult) : Run :=
  let view : View := {
    oldName := Path.normal options.old
    newName := Path.normal options.new
    colored := around.colored && !options.colorless && options.output.isNone }
  let text := (formatOf options settings).render view result
  let exit := if result.conclusion = .failure then .breaking else .success
  match options.output.map Path.normal with
  | none => .print exit text
  | some output =>
    if around.working.canWrite output then
      { exit, out := [Run.successLine ("Diff written to " ++ output)]
        written := [(output, text ++ "\n")] }
    else .breakdown debug

/-- The run that compares two texts. -/
def compare (around : Surroundings) (debug quiet : Bool) (options : DiffOptions)
    (settings : Settings) (old new : String) : Run :=
  match TypeMap.load old, TypeMap.load new with
  | .error fault, _ => .ofFault debug options.old fault
  | _, .error fault => .ofFault debug options.new fault
  | .ok before, .ok after =>
    let policy := Policy.ofSettings around.deliver options settings
    match policy.diff ⟨some old, some new⟩ (.ofTypeMaps before after)
        (.text (labelOf options settings)) with
    | none => .breakdown debug
    | some comparison =>
      (around.report debug options settings comparison.result).after []
        (if quiet then [] else comparison.log.map LogEntry.line)

/-- The run that compares two files, which have to be there. -/
def diff (around : Surroundings) (debug quiet : Bool) (settings : Except ConfigFault Settings)
    (options : DiffOptions) : Run :=
  match around.working.find? options.old, around.working.find? options.new with
  | some (.file old), some (.file new) =>
    match settings with
    | .error fault => .fail .config fault.message
    | .ok settings =>
      match schemaText? old, schemaText? new with
      | some old, some new => around.compare debug quiet options settings old new
      | _, _ => .breakdown debug
  | _, _ => .misuse

/-! ## The other commands -/

/-- The run that lists the rules. -/
def rules (options : RulesOptions) : Run :=
  let rows := RuleRow.ofLevel options.level
  if options.asJson then .print .success (RuleTable.record rows)
  else { out := RuleTable.lines rows }

/-- The remarks after a first file with settings was written. -/
def initRemarks (options : InitOptions) : List String :=
  [Run.infoLine ("Dangerous changes will " ++ (if options.failOnDangerous then "fail" else "pass")
    ++ " the diff.")]
  ++ ((given? options.interceptorUrl).toList.map fun url =>
    Run.infoLine ("Changes will be sent to " ++ url ++ " before the verdict."))
  ++ [Run.infoLine "Run 'schemaguard diff old.graphql new.graphql' in CI to gate merges."]

/-- The run that writes a first file with settings. -/
def init (around : Surroundings) (options : InitOptions) : Run :=
  let path := around.workingPath ++ "/" ++ settingsFile
  if (around.working.find? settingsFile).isSome && !options.force then
    { exit := .config
      out := [Run.infoLine "Use --force to overwrite"]
      err := [Run.warningLine ("Configuration file already exists: " ++ path)] }
  else
    match settingsTemplate options.failOnDangerous options.interceptorUrl with
    | .error fault => .fail .config fault.message
    | .ok text =>
      if around.working.canWrite settingsFile then
        { out := Run.successLine ("Created " ++ path) :: initRemarks options
          written := [(settingsFile, text)] }
      else
        .fail .config ("Failed to write " ++ path ++ ": [Errno 21] Is a directory: '"
          ++ path ++ "'")

/-! ## Command lines -/

/-- The run of an action with the settings, or with what is wrong with them. -/
def act (around : Surroundings) (debug quiet : Bool) (settings : Except ConfigFault Settings) :
    Action → Run
  | .diff options => around.diff debug quiet settings options
  | .rules options => rules options
  | .init options => around.init options
  | .help => {}
  | .wrong => .misuse

/-- The run of an action after the settings are loaded.  What is wrong with them is
said at once, and only a comparison cannot go on without them. -/
def command (around : Surroundings) (debug : Bool) (options : ProgramOptions)
    (action : Action) : Run :=
  if options.config.any fun path => (around.working.find? path).isNone then .misuse
  else
    match around.settings options.config with
    | .ok settings => around.act debug options.quiet (.ok settings) action
    | .error fault =>
      if fault.isExpected then
        (around.act debug options.quiet (.error fault) action).after []
          (if options.quiet then []
            else [Run.errorLine ("Failed to load configuration: " ++ fault.message)])
      else .breakdown debug

/-- The run of a command line. -/
def run (around : Surroundings) (words : List String) : Run :=
  match Invocation.ofWords words with
  | .version => { out := ["schemaguard, version 0.1.0"] }
  | .help => {}
  | .wrong => .misuse
  | .command options action =>
      around.command (words.contains "--debug") options action

end Surroundings

end SchemaDrift
