import Scratchpad.Text.Blank
import Scratchpad.Text.Cut
import Scratchpad.Text.Utf8
import Scratchpad.Text.Printable
import Scratchpad.Text.Quoted
import Scratchpad.Text.Similar
import Scratchpad.Text.Controls
import Scratchpad.Text.Numeral
import Scratchpad.Text.Shortest
import Scratchpad.Path
import Scratchpad.Framework
import Scratchpad.Failure
import Scratchpad.Settings
import Scratchpad.Program
import Scratchpad.LineEdit
import Scratchpad.Elapsed
import Scratchpad.Value
import Scratchpad.Value.Display
import Scratchpad.Value.Inspect
import Scratchpad.Json
import Scratchpad.Json.Fault
import Scratchpad.Json.Number
import Scratchpad.Json.Reader
import Scratchpad.Snapshot.Fault
import Scratchpad.Snapshot.Node
import Scratchpad.Snapshot.Decode
import Scratchpad.Snapshot.Encode
import Scratchpad.Snippet
import Scratchpad.SourceUnit
import Scratchpad.Harness
import Scratchpad.Engine
import Scratchpad.Input
import Scratchpad.Command
import Scratchpad.Session
import Scratchpad.Console.Desk
import Scratchpad.Console.Transcript
import Scratchpad.Console.Evaluation
import Scratchpad.Console.Help
import Scratchpad.Console.Execute
import Scratchpad.Console.Draft
import Scratchpad.Console.Loop
import Scratchpad.Toolchain.Environment
import Scratchpad.Toolchain.Report
import Scratchpad.Toolchain.Host
import Scratchpad.Toolchain.Engine
import Scratchpad.Identifier
import Scratchpad.Console.OneShot
import Scratchpad.Startup.Options
import Scratchpad.Startup.Suggestion
import Scratchpad.Startup.Messages
import Scratchpad.Startup.Plan
import Scratchpad.Main
import Scratchpad.Proofs.Json.Document
import Scratchpad.Proofs.Json.Nesting
import Scratchpad.Proofs.Snapshot.RoundTrip
import Scratchpad.Proofs.Console.Action
import Scratchpad.Proofs.Console.Execute
import Scratchpad.Proofs.Console.Atomicity
import Scratchpad.Proofs.Console.Accounting
import Scratchpad.Proofs.Console.LastWriter
import Scratchpad.Proofs.Console.SettingsRecord
import Scratchpad.Proofs.Console.Evaluation
import Scratchpad.Proofs.Console.Calls
import Scratchpad.Proofs.Console.Twins
import Scratchpad.Proofs.Console.Display
import Scratchpad.Proofs.Console.OneShot
import Scratchpad.Proofs.Text.Ends
import Scratchpad.Proofs.Command
import Scratchpad.Proofs.Console.Continuation
import Scratchpad.Proofs.Startup.Arrangement
import Scratchpad.Proofs.Json.Limit
import Scratchpad.Proofs.Snapshot.Tree
import Scratchpad.Proofs.Snapshot.Places
import Scratchpad.Proofs.Snapshot.Rearranged
import Scratchpad.Proofs.Text.Lines
import Scratchpad.Proofs.Toolchain.Report
import Scratchpad.Proofs.Toolchain.Verdict
import Scratchpad.Proofs.Toolchain.Leftover
import Scratchpad.Proofs.Console.Outcome
import Scratchpad.Proofs.Console.EditLines
import Scratchpad.Proofs.Text.Numeral
import Scratchpad.Proofs.Console.Stream
import Scratchpad.Proofs.Value.Levels
import Scratchpad.Proofs.Elapsed
