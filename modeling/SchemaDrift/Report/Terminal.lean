import SchemaDrift.Diff.Result

/-!
# Reports for a terminal

* `Ink` — the colours and weights of a terminal.
* `DiffResult.terminal` — the report, with or without colours.
-/

namespace SchemaDrift

/-- A colour or weight of text on a terminal. -/
inductive Ink where
  | bold
  | dim
  | red
  | green
  | yellow
  | blue
  deriving DecidableEq, Repr

namespace Ink

/-- The sequence of characters that sets a number of display attributes. -/
def sequence (code : String) : String := "\x1b[" ++ code ++ "m"

/-- The sequence that switches to an ink. -/
def start : Ink → String
  | bold => sequence "1"
  | dim => sequence "2"
  | red => sequence "31"
  | green => sequence "32"
  | yellow => sequence "33"
  | blue => sequence "34"

/-- The sequence that switches back. -/
def reset : String := sequence "0"

end Ink

/-- A text in inks, or plain if there is to be no colour. -/
def inked (colored : Bool) (inks : List Ink) (text : String) : String :=
  if colored then String.join (inks.map Ink.start) ++ text ++ Ink.reset else text

/-- The symbol for the level of a change. -/
def Change.symbol (colored : Bool) (change : Change) : String :=
  if change.isBreaking then inked colored [.red] "✖"
  else if change.isDangerous then inked colored [.yellow] "⚠"
  else inked colored [.green] "✔"

/-- The ink of a verdict. -/
def Conclusion.ink : Conclusion → Ink
  | .failure => .red
  | .neutral => .blue
  | .success => .green

/-- A number that is not zero with the word for what it counts. -/
def countPart (colored : Bool) (ink : Ink) (count : Int) (word : String) : List String :=
  if count = 0 then [] else [inked colored [ink] (toString count ++ " " ++ word)]

/-- The numbers of changes on one line. -/
def Stats.terminalLine (colored : Bool) (stats : Stats) : String :=
  "  " ++ String.intercalate ", "
    (countPart colored .red stats.breaking "breaking"
      ++ countPart colored .yellow stats.dangerous "dangerous"
      ++ countPart colored .green stats.nonBreaking "non-breaking")

/-- The lines about a change: what it is and where, and why it is breaking. -/
def changeLines (colored : Bool) (change : Change) (note : Note) : List String :=
  let place := "(" ++ change.path.written ++ ", line " ++ toString note.startLine ++ ")"
  let first := "  " ++ change.symbol colored ++ " " ++ change.message.written ++ " "
    ++ inked colored [.dim] place
  if change.reason.isGiven && change.isBreaking then
    [first, "      " ++ inked colored [.dim] change.reason.written]
  else [first]

namespace DiffResult

/-- The lines between the header and the verdict. -/
def terminalBody (colored : Bool) (result : DiffResult) : List String :=
  if !result.hasChanges then [inked colored [.dim] "No changes detected."]
  else
    [inked colored [.bold] "Summary:", result.stats.terminalLine colored, "",
      inked colored [.bold] "Changes:"]
    ++ (result.changes.zip result.notes).flatMap (fun pair =>
      changeLines colored pair.1 pair.2)
    ++ [""]

/-- The report for a terminal on versions of the given names. -/
def terminal (result : DiffResult) (oldName newName : String) (colored : Bool) : String :=
  let header := "Schema diff: " ++ oldName ++ " → " ++ newName
  let ruler := String.ofList (List.replicate header.length '=')
  let verdict := "Conclusion: " ++ result.conclusion.word
    ++ if result.intercepted then " (intercepted)" else ""
  String.intercalate "\n"
    ([inked colored [.bold] header, inked colored [.dim] ruler, ""]
      ++ result.terminalBody colored
      ++ [inked colored [result.conclusion.ink, .bold] verdict])

end DiffResult

end SchemaDrift
