import KeyScript.Script.Command
import KeyScript.Completion.Candidates
import KeyScript.Text.Lines
import KeyScript.Json.Printer
import KeyScript.Json.Reader
import KeyScript.Decimal.Layout
import KeyScript.Text.Quoted
import KeyScript.Text.Utf8
import KeyScript.Fault
import KeyScript.Reply.Value
import KeyScript.Toml.Reader
import KeyScript.Toml.Printer
import KeyScript.Settings.Load
import KeyScript.Connection.Server
import KeyScript.CommandLine.Options
import KeyScript.CommandLine.Parser
import KeyScript.CommandLine.Shell
import KeyScript.CommandLine.Start
import KeyScript.CommandLine.Task
import KeyScript.Editor.Documents
import KeyScript.Editor.Frame
import KeyScript.Editor.Message
import KeyScript.Editor.Server
import KeyScript.Log.Activity
import KeyScript.Log.Filter
import KeyScript.Log.Noted
import KeyScript.Main
import KeyScript.Store.Prepared
import KeyScript.Proofs.Script.Reading
import KeyScript.Proofs.Script.Cutting
import KeyScript.Proofs.Script.Merging
import KeyScript.Proofs.Script.Splitting
import KeyScript.Proofs.Script.Seams
import KeyScript.Proofs.Script.WordScan
import KeyScript.Proofs.Script.Columns
import KeyScript.Proofs.Script.Coverage
import KeyScript.Proofs.Script.Partition
import KeyScript.Proofs.Script.Rendering
import KeyScript.Proofs.Script.Sequencing
import KeyScript.Proofs.Script.Coordinates
import KeyScript.Proofs.Completion.Naming
import KeyScript.Proofs.Completion.Prepending
import KeyScript.Proofs.Completion.LineLocal
import KeyScript.Proofs.Completion.Resolving
import KeyScript.Proofs.Completion.Typing
import KeyScript.Proofs.Completion.Triggering
import KeyScript.Proofs.Completion.Commands
import KeyScript.Proofs.Store.Using
import KeyScript.Proofs.Connection.LifeCycle
import KeyScript.Proofs.Editor.Isolation
import KeyScript.Proofs.Settings.Starting
import KeyScript.Proofs.Script.Extent
import KeyScript.Proofs.Completion.Preceding
import KeyScript.Proofs.Script.Alignment
import KeyScript.Proofs.Script.Leftmost
import KeyScript.Proofs.Script.Grammar
import KeyScript.Proofs.Store.Stopping
import KeyScript.Proofs.Text.Bytes
import KeyScript.Proofs.Text.Units
import KeyScript.Proofs.Connection.Addresses
import KeyScript.Proofs.Completion.Ordering
import KeyScript.Proofs.Text.Numerals
import KeyScript.Proofs.Completion.Ownership
import KeyScript.Proofs.Connection.Display
import KeyScript.Proofs.Toml.Quoting
import KeyScript.Proofs.Toml.Values
import KeyScript.Proofs.Toml.Documents
import KeyScript.Proofs.Settings.Written
import KeyScript.Proofs.Text.Decoding
import KeyScript.Proofs.Text.Lines
import KeyScript.Proofs.Disk.Children
import KeyScript.Proofs.Manual.Fetching
import KeyScript.Proofs.Script.Progress
