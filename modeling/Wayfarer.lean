import Wayfarer.Action
import Wayfarer.Command.Job
import Wayfarer.Definitions.Cycle
import Wayfarer.Files.Change
import Wayfarer.Loop
import Wayfarer.Main
import Wayfarer.Page.Narrated
import Wayfarer.Page.Scripted
import Wayfarer.Pattern
import Wayfarer.Pockets
import Wayfarer.Run
import Wayfarer.Walk
import Wayfarer.Walker
import Wayfarer.Workspace.Init
import Wayfarer.Workspace.Report
import Wayfarer.Proofs.Json.Grammar
import Wayfarer.Proofs.Json.Lexing
import Wayfarer.Proofs.Json.Printing
import Wayfarer.Proofs.Json.RoundTrip
import Wayfarer.Proofs.Files
import Wayfarer.Proofs.Numeral
import Wayfarer.Proofs.Octets
import Wayfarer.Proofs.Partial
import Wayfarer.Proofs.Workspace
import Wayfarer.Proofs.Cursor
import Wayfarer.Proofs.Spot
import Wayfarer.Proofs.Spot.Dotted
import Wayfarer.Proofs.Ident
import Wayfarer.Proofs.CursorFile
import Wayfarer.Proofs.RecordFiles
import Wayfarer.Proofs.Arm
import Wayfarer.Proofs.Pockets
import Wayfarer.Proofs.Pockets.History
import Wayfarer.Proofs.Action
import Wayfarer.Proofs.Calls
import Wayfarer.Proofs.Typing
import Wayfarer.Proofs.Definitions.Search
import Wayfarer.Proofs.Definitions.Cycle
import Wayfarer.Proofs.Definitions.Expansion
import Wayfarer.Proofs.Definitions.Check
import Wayfarer.Proofs.Definitions.Faults
import Wayfarer.Proofs.Definitions.Files
import Wayfarer.Proofs.Walk.Decision
import Wayfarer.Proofs.Walk.Past
import Wayfarer.Proofs.Walk.Turn
import Wayfarer.Proofs.Walk.Stack
import Wayfarer.Proofs.Walk.Budget
import Wayfarer.Proofs.Walk.MoreBudget
import Wayfarer.Proofs.Walk.Resume
import Wayfarer.Proofs.Walk.References
import Wayfarer.Proofs.Walk.Deeds
import Wayfarer.Proofs.Walk.Termination
import Wayfarer.Proofs.Walk.Progress
import Wayfarer.Proofs.Walk.Plain
import Wayfarer.Proofs.Walk.Rerun
import Wayfarer.Proofs.Walk.Recovery
import Wayfarer.Proofs.Walk.Forward
import Wayfarer.Proofs.Walk.Reordering
import Wayfarer.Proofs.Walk.Additions
import Wayfarer.Proofs.Walk.Tandem
import Wayfarer.Proofs.Walk.Sight
import Wayfarer.Proofs.Walk.Waiting
import Wayfarer.Proofs.Walk.Depth
import Wayfarer.Proofs.Walk.Recoveries
import Wayfarer.Proofs.Walk.TrailingZeros
import Wayfarer.Proofs.Walk.Store
import Wayfarer.Proofs.Walker
import Wayfarer.Proofs.Walk.Counters
import Wayfarer.Proofs.Walk.Addresses
import Wayfarer.Proofs.Run.Checkpoint
import Wayfarer.Proofs.Run.Flag
import Wayfarer.Proofs.Run.Validated
import Wayfarer.Proofs.Run.Idle
import Wayfarer.Proofs.Run.WriteAhead
import Wayfarer.Proofs.Run.Frame
import Wayfarer.Proofs.Run.Remains
import Wayfarer.Proofs.Run.Restart
import Wayfarer.Proofs.Run.Company
import Wayfarer.Proofs.Run.Arming
import Wayfarer.Proofs.Walk.Expansion
import Wayfarer.Proofs.Loop
import Wayfarer.Proofs.Delay
import Wayfarer.Proofs.Renewal
import Wayfarer.Proofs.Routine
import Wayfarer.Proofs.Walk.DryRun
import Wayfarer.Proofs.Toml.Lines
import Wayfarer.Proofs.Settings
