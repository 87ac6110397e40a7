import SchemaDrift.Compare.Detect
import SchemaDrift.Locate.Locator
import SchemaDrift.Sdl.Load
import SchemaDrift.Diff.Engine
import SchemaDrift.Report.Format
import SchemaDrift.Config.Load
import SchemaDrift.Command.Run
import SchemaDrift.Main
import SchemaDrift.Proofs.Schema.WellFormed
import SchemaDrift.Proofs.Schema.Loosening
import SchemaDrift.Proofs.Compare.Reports
import SchemaDrift.Proofs.Compare.Detections
import SchemaDrift.Proofs.Compare.Completeness
import SchemaDrift.Proofs.Verdict.Compatibility
import SchemaDrift.Proofs.Verdict.Composition
import SchemaDrift.Proofs.Locate.Places
import SchemaDrift.Proofs.Compare.Justification
import SchemaDrift.Proofs.Compare.Containment
import SchemaDrift.Proofs.Compare.Families
import SchemaDrift.Proofs.Compare.Plan
import SchemaDrift.Proofs.Compare.Ordering
import SchemaDrift.Proofs.Compare.Pairings
import SchemaDrift.Proofs.Compare.Reversal
import SchemaDrift.Proofs.Compare.Reordering
import SchemaDrift.Proofs.Text.Lines
import SchemaDrift.Proofs.Locate.Masking
import SchemaDrift.Proofs.Locate.Positions
import SchemaDrift.Proofs.Locate.Declarations
import SchemaDrift.Proofs.Locate.Marks
import SchemaDrift.Proofs.Locate.Locations
import SchemaDrift.Proofs.Locate.Passages
import SchemaDrift.Proofs.Locate.Layout
import SchemaDrift.Proofs.Locate.Scanning
import SchemaDrift.Proofs.Locate.Searches
import SchemaDrift.Proofs.Sdl.Advances
import SchemaDrift.Proofs.Sdl.Statements
import SchemaDrift.Proofs.Locate.Openings
import SchemaDrift.Proofs.Sdl.Strings
import SchemaDrift.Proofs.Locate.Lexing
import SchemaDrift.Proofs.Locate.Definitions
import SchemaDrift.Proofs.Intercept.Wire
import SchemaDrift.Proofs.Intercept.Outcomes
import SchemaDrift.Proofs.Json.RoundTrip
import SchemaDrift.Proofs.Intercept.Echo
import SchemaDrift.Proofs.Report.Views
import SchemaDrift.Proofs.Sdl.Findings
import SchemaDrift.Proofs.Sdl.Uniqueness
import SchemaDrift.Proofs.Loader.Laws
import SchemaDrift.Proofs.Loader.Conversion
import SchemaDrift.Proofs.Loader.Relocation
import SchemaDrift.Proofs.Sdl.FrontEnd
import SchemaDrift.Proofs.Schema.Loaded
import SchemaDrift.Proofs.Config.Faults
import SchemaDrift.Proofs.Config.Template
import SchemaDrift.Proofs.Verdict.Reformatting
import SchemaDrift.Proofs.Schema.TypeChanges
import SchemaDrift.Proofs.Toml.Names
import SchemaDrift.Proofs.Config.Layers
import SchemaDrift.Proofs.Command.ExitCodes
import SchemaDrift.Proofs.Report.Record
import SchemaDrift.Proofs.Report.Bullets
import SchemaDrift.Proofs.Locate.MaskedLines
import SchemaDrift.Proofs.Compare.Required
import SchemaDrift.Proofs.Compare.Turns
import SchemaDrift.Proofs.Compare.Repeats
import SchemaDrift.Proofs.Compare.Accounting
import SchemaDrift.Proofs.Report.Inks
import SchemaDrift.Proofs.Schema.Notation
import SchemaDrift.Proofs.Compare.TypeMessages
