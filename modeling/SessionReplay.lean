import SessionReplay.Command
import SessionReplay.CommandLine.Display
import SessionReplay.CommandLine.Operation
import SessionReplay.CommandLine.Reader
import SessionReplay.CommandLine.Run
import SessionReplay.CommandLine.Style
import SessionReplay.CommandLine.Usage
import SessionReplay.CommandLine.Verb
import SessionReplay.Conversion.Basic
import SessionReplay.Conversion.Batch
import SessionReplay.Conversion.Log
import SessionReplay.Decimal.Double
import SessionReplay.Decimal.Shortest
import SessionReplay.FileStem
import SessionReplay.Host
import SessionReplay.Identifier
import SessionReplay.Job.Basic
import SessionReplay.Job.Submission
import SessionReplay.Job.Wire
import SessionReplay.Json.Basic
import SessionReplay.Json.Decode
import SessionReplay.Json.Fault
import SessionReplay.Json.Lexeme
import SessionReplay.Json.Node
import SessionReplay.Json.Print
import SessionReplay.Json.Reader
import SessionReplay.Json.Record
import SessionReplay.Main
import SessionReplay.Net.MediaType
import SessionReplay.Net.Message
import SessionReplay.Net.Percent
import SessionReplay.Net.Url
import SessionReplay.Pipeline.Basic
import SessionReplay.Pipeline.Report
import SessionReplay.Pipeline.Run
import SessionReplay.Program.Basic
import SessionReplay.Program.Duration
import SessionReplay.Program.Shell.Arithmetic
import SessionReplay.Program.Shell.Builtin
import SessionReplay.Program.Shell.Fields
import SessionReplay.Program.Shell.Nested
import SessionReplay.Program.Shell.Pattern
import SessionReplay.Program.Shell.Printf
import SessionReplay.Program.Shell.Reader
import SessionReplay.Program.Shell.Redirect
import SessionReplay.Program.Shell.Run
import SessionReplay.Program.Shell.State
import SessionReplay.Program.Shell.Syntax
import SessionReplay.Program.Shell.Token
import SessionReplay.Program.Shell.Tool
import SessionReplay.Program.Shell.Tool.Basic
import SessionReplay.Program.Shell.Tool.Condition
import SessionReplay.Program.Shell.Tool.File
import SessionReplay.Program.Shell.Tool.Process
import SessionReplay.Program.Shell.Tool.Search
import SessionReplay.Program.Shell.Tool.Text
import SessionReplay.Program.Standard
import SessionReplay.Proofs.Conversion.Account
import SessionReplay.Proofs.Conversion.File
import SessionReplay.Proofs.Conversion.Folder
import SessionReplay.Proofs.Conversion.LogLines
import SessionReplay.Proofs.Conversion.Logging
import SessionReplay.Proofs.Conversion.Names
import SessionReplay.Proofs.Conversion.Partition
import SessionReplay.Proofs.Conversion.Recordings
import SessionReplay.Proofs.Conversion.Rerun
import SessionReplay.Proofs.Conversion.Stuck
import SessionReplay.Proofs.Conversion.Unobserved
import SessionReplay.Proofs.Decimal.Rounding
import SessionReplay.Proofs.Json.Bearing
import SessionReplay.Proofs.Json.Closing
import SessionReplay.Proofs.Json.Deciding
import SessionReplay.Proofs.Json.Equality
import SessionReplay.Proofs.Json.Flattened
import SessionReplay.Proofs.Json.OneLine
import SessionReplay.Proofs.Json.Order
import SessionReplay.Proofs.Json.Reading
import SessionReplay.Proofs.Json.Rereading
import SessionReplay.Proofs.Json.Telling
import SessionReplay.Proofs.Json.Viewing
import SessionReplay.Proofs.Json.Writing
import SessionReplay.Proofs.Net.Address
import SessionReplay.Proofs.Pipeline.Exits
import SessionReplay.Proofs.Pipeline.Fresh
import SessionReplay.Proofs.Pipeline.OwnScript
import SessionReplay.Proofs.Pipeline.Reports
import SessionReplay.Proofs.Pipeline.Session
import SessionReplay.Proofs.Pipeline.Stems
import SessionReplay.Proofs.Queue.Aborted
import SessionReplay.Proofs.Queue.Draining
import SessionReplay.Proofs.Queue.Exchange
import SessionReplay.Proofs.Queue.Fifo
import SessionReplay.Proofs.Queue.History
import SessionReplay.Proofs.Queue.Policy
import SessionReplay.Proofs.Queue.Recent
import SessionReplay.Proofs.Queue.Showing
import SessionReplay.Proofs.Queue.Starting
import SessionReplay.Proofs.Queue.Submitting
import SessionReplay.Proofs.Queue.Turn
import SessionReplay.Proofs.Queue.Waiting
import SessionReplay.Proofs.Recording.Acceptance
import SessionReplay.Proofs.Recording.Dimensions
import SessionReplay.Proofs.Recording.Grammar
import SessionReplay.Proofs.Recording.Normal
import SessionReplay.Proofs.Report.Cases
import SessionReplay.Proofs.Report.Clearing
import SessionReplay.Proofs.Report.Counting
import SessionReplay.Proofs.Report.CutImages
import SessionReplay.Proofs.Report.Delivery
import SessionReplay.Proofs.Report.Publish
import SessionReplay.Proofs.Report.Purge
import SessionReplay.Proofs.Report.Screenshots
import SessionReplay.Proofs.Report.Sending
import SessionReplay.Proofs.Script.Blocks
import SessionReplay.Proofs.Script.Comments
import SessionReplay.Proofs.Script.Framing
import SessionReplay.Proofs.Script.Isolation
import SessionReplay.Proofs.Script.Kinds
import SessionReplay.Proofs.Script.Lexer
import SessionReplay.Proofs.Script.Lookups
import SessionReplay.Proofs.Script.Pieces
import SessionReplay.Proofs.Script.Preference
import SessionReplay.Proofs.Script.Problems
import SessionReplay.Proofs.Script.Quoting
import SessionReplay.Proofs.Script.Requirements
import SessionReplay.Proofs.Script.Steps
import SessionReplay.Proofs.Script.Viewports
import SessionReplay.Proofs.Script.WellFormed
import SessionReplay.Proofs.Service.Nameless
import SessionReplay.Proofs.Service.Saving
import SessionReplay.Proofs.Storage.Again
import SessionReplay.Proofs.Storage.Alike
import SessionReplay.Proofs.Storage.Appending
import SessionReplay.Proofs.Storage.Change
import SessionReplay.Proofs.Storage.Locate
import SessionReplay.Proofs.Storage.Lookup
import SessionReplay.Proofs.Storage.Making
import SessionReplay.Proofs.Storage.Parent
import SessionReplay.Proofs.Storage.Reach
import SessionReplay.Proofs.Storage.Removal
import SessionReplay.Proofs.Storage.Tidying
import SessionReplay.Proofs.Text.Base64
import SessionReplay.Proofs.Text.CommandLines
import SessionReplay.Proofs.Text.Lines
import SessionReplay.Proofs.Text.Lossy
import SessionReplay.Queue.Api
import SessionReplay.Queue.Basic
import SessionReplay.Queue.Call
import SessionReplay.Queue.Rehearsal
import SessionReplay.Queue.Status
import SessionReplay.Queue.System
import SessionReplay.Recording.Basic
import SessionReplay.Recording.Step
import SessionReplay.Report.Basic
import SessionReplay.Report.Build
import SessionReplay.Report.Entry
import SessionReplay.Report.Publish
import SessionReplay.Report.Purge
import SessionReplay.Report.Results
import SessionReplay.Report.Screenshot
import SessionReplay.Script.Assembly
import SessionReplay.Script.Frame
import SessionReplay.Script.Instruction
import SessionReplay.Script.Literal
import SessionReplay.Script.Selector
import SessionReplay.Service.Download
import SessionReplay.Service.Failure
import SessionReplay.Service.Remote
import SessionReplay.Service.Reporting
import SessionReplay.Settings.Basic
import SessionReplay.Settings.SocketAddress
import SessionReplay.Storage.Disk
import SessionReplay.Storage.Fault
import SessionReplay.Storage.Path
import SessionReplay.Storage.Stray
import SessionReplay.Text.Base64
import SessionReplay.Text.Blank
import SessionReplay.Text.Lossy
import SessionReplay.Text.Printable
import SessionReplay.Text.Quoted
import SessionReplay.Time.Calendar
import SessionReplay.Time.Instant
import SessionReplay.Trouble
