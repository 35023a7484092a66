import GradleLint.Main
import GradleLint.Model.Assign
import GradleLint.Proofs.Controller.Registry
import GradleLint.Proofs.Controller.Linked
import GradleLint.Proofs.Controller.Recorded
import GradleLint.Proofs.Controller.Operations
import GradleLint.Proofs.Controller.Soundness
import GradleLint.Proofs.Controller.Capture
import GradleLint.Proofs.Controller.Buffers
import GradleLint.Proofs.Controller.History
import GradleLint.Proofs.Controller.Origin
import GradleLint.Proofs.Controller.Entries
import GradleLint.Proofs.Model.Codec
import GradleLint.Proofs.Output.Records
import GradleLint.Proofs.Controller.Checked
import GradleLint.Proofs.Controller.Delivery
import GradleLint.Proofs.Controller.Completion
import GradleLint.Proofs.Controller.Sessions
import GradleLint.Proofs.Controller.Staleness
import GradleLint.Proofs.Controller.Isolation
import GradleLint.Proofs.Output.Kotlin
import GradleLint.Proofs.Output.Lines
import GradleLint.Proofs.Output.RoundTrip
import GradleLint.Proofs.Text.Fields
import GradleLint.Proofs.Text.Numeral
import GradleLint.Proofs.Text.NumeralForms
import GradleLint.Proofs.Position.Lines
import GradleLint.Proofs.Position.Before
import GradleLint.Proofs.Position.Address
import GradleLint.Proofs.Position.Span
import GradleLint.Proofs.Position.Order
import GradleLint.Proofs.Position.LineEnds
import GradleLint.Proofs.Position.Edits
import GradleLint.Proofs.Settings.Loading
import GradleLint.Proofs.Controller.FailedStarts
import GradleLint.Proofs.Controller.Callbacks
import GradleLint.Proofs.Controller.Kills
import GradleLint.Proofs.Controller.KillReplies
import GradleLint.Proofs.World.Spelling
import GradleLint.Proofs.Project.Executable
import GradleLint.Proofs.Cli.OneBuild
import GradleLint.Proofs.Cli.Setup
import GradleLint.Proofs.Cli.Command
import GradleLint.Proofs.Cli.ExitStatus
import GradleLint.Proofs.Output.Verdicts
import GradleLint.Proofs.Output.Relevance
import GradleLint.Proofs.Project.Climb
import GradleLint.Proofs.Settings.Failures
import GradleLint.Proofs.Project.SourceSets
import GradleLint.Proofs.Project.Nearest
import GradleLint.Proofs.Project.Discovery
import GradleLint.Proofs.Cli.ExplicitRoot
import GradleLint.Proofs.Build.Failure
import GradleLint.Proofs.Settings.Overrides
import GradleLint.Proofs.Settings.Spelling
import GradleLint.Proofs.World.Routes
import GradleLint.Proofs.World.Journey
import GradleLint.Proofs.World.Reach
import GradleLint.Proofs.Project.Tool
import GradleLint.Proofs.Data.Validated
import GradleLint.Proofs.Model.Assignment
import GradleLint.Proofs.Model.Outcome
import GradleLint.Proofs.World.Document
import GradleLint.Proofs.Console.Styles
import GradleLint.Proofs.Console.Report
