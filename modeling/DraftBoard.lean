import DraftBoard.Title
import DraftBoard.Text.Quoted
import DraftBoard.Text.Percent
import DraftBoard.Text.Base64
import DraftBoard.Number.Shortest
import DraftBoard.Json.Printer
import DraftBoard.Json.Shape
import DraftBoard.Dashboard.Selection
import DraftBoard.Dashboard.Codec
import DraftBoard.Transfer.Promote
import DraftBoard.Transfer.Save
import DraftBoard.Shelf
import DraftBoard.Http.Script
import DraftBoard.Remote
import DraftBoard.Toml.Parser
import DraftBoard.Settings.Load
import DraftBoard.CommandLine.Parser
import DraftBoard.CommandLine.Help
import DraftBoard.Log.Filter
import DraftBoard.Outcome
import DraftBoard.Http.Wire
import DraftBoard.Log.Stamp
import DraftBoard.Main
import DraftBoard.Proofs.Dashboard.Codec
import DraftBoard.Proofs.Dashboard.Edits
import DraftBoard.Proofs.Dashboard.Selections
import DraftBoard.Proofs.Dashboard.Resetting
import DraftBoard.Proofs.Files.Paths
import DraftBoard.Proofs.Files.Writing
import DraftBoard.Proofs.Json.Writing
import DraftBoard.Proofs.Text.Percent
import DraftBoard.Proofs.Title.Marks
import DraftBoard.Proofs.Transfer.Cycle
import DraftBoard.Proofs.Transfer.Hosting
import DraftBoard.Proofs.Transfer.Lookup
import DraftBoard.Proofs.Transfer.Provisioning
import DraftBoard.Proofs.Transfer.Runs
import DraftBoard.Proofs.Transfer.Saving
import DraftBoard.Proofs.Transfer.Simulation
import DraftBoard.Proofs.Transfer.Courses
import DraftBoard.Proofs.Transfer.Bookkeeping
import DraftBoard.Proofs.Transfer.Calls
import DraftBoard.Proofs.Transfer.Exchanges
import DraftBoard.Proofs.Transfer.Statuses
import DraftBoard.Proofs.Transfer.Reading
import DraftBoard.Proofs.Transfer.SavedText
import DraftBoard.Proofs.Transfer.Secrecy
import DraftBoard.Proofs.Transfer.SavedFolder
import DraftBoard.Proofs.Settings.Runs
import DraftBoard.Proofs.Transfer.Numbers
import DraftBoard.Proofs.Transfer.WriteFrame
import DraftBoard.Proofs.Json.Passing
import DraftBoard.Proofs.Json.Agreement
import DraftBoard.Proofs.Dashboard.Decoding
import DraftBoard.Proofs.Transfer.LookupOutcomes
import DraftBoard.Proofs.Dashboard.Editing
import DraftBoard.Proofs.Url.Directories
import DraftBoard.Proofs.Transfer.Targets
import DraftBoard.Proofs.Title.Scan
import DraftBoard.Proofs.Transfer.Identity
import DraftBoard.Proofs.Transfer.Placement
import DraftBoard.Proofs.Transfer.ExactLookups
import DraftBoard.Proofs.Dashboard.KnownFields
import DraftBoard.Proofs.Title.Bytes
