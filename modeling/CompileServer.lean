import CompileServer.Actor.Basic
import CompileServer.Actor.Settle
import CompileServer.Binary64.Basic
import CompileServer.Binary64.Shortest
import CompileServer.CommandLine.Identifier
import CompileServer.CommandLine.Invocation
import CompileServer.CommandLine.Run
import CompileServer.CommandLine.Settings
import CompileServer.Compile.AnalysisFile
import CompileServer.Compile.Decision
import CompileServer.Compile.Error
import CompileServer.Compile.Host
import CompileServer.Compile.Job
import CompileServer.Compile.Loading
import CompileServer.Compile.Prepare
import CompileServer.Compile.Serving
import CompileServer.Compile.Session
import CompileServer.Compile.Task
import CompileServer.Config.Basic
import CompileServer.Config.Document
import CompileServer.Config.Lookup
import CompileServer.Config.Record
import CompileServer.FileSystem.Basic
import CompileServer.FileSystem.Extend
import CompileServer.FileSystem.Fault
import CompileServer.FileSystem.Listing
import CompileServer.FileSystem.Save
import CompileServer.Json.Basic
import CompileServer.Json.Decode
import CompileServer.Json.Draft
import CompileServer.Json.Printer
import CompileServer.Json.Record
import CompileServer.Json.Scanner
import CompileServer.Log
import CompileServer.Main
import CompileServer.Path.Basic
import CompileServer.Path.Order
import CompileServer.Path.Set
import CompileServer.Program.Exit
import CompileServer.Program.Machine
import CompileServer.Project.Basic
import CompileServer.Project.Store
import CompileServer.Proofs.Actor.Atomicity
import CompileServer.Proofs.Actor.Delivery
import CompileServer.Proofs.Actor.Filing
import CompileServer.Proofs.Actor.History
import CompileServer.Proofs.Actor.Replies
import CompileServer.Proofs.Actor.Reports
import CompileServer.Proofs.Actor.Schedule
import CompileServer.Proofs.Actor.Surroundings
import CompileServer.Proofs.Actor.Waiting
import CompileServer.Proofs.CommandLine.NamedSource
import CompileServer.Proofs.Compile.Answers
import CompileServer.Proofs.Compile.Coherence
import CompileServer.Proofs.Compile.Conversation
import CompileServer.Proofs.Compile.Diagnostics
import CompileServer.Proofs.Compile.Docket
import CompileServer.Proofs.Compile.DumpFile
import CompileServer.Proofs.Compile.DumpRequest
import CompileServer.Proofs.Compile.Handling
import CompileServer.Proofs.Compile.Incremental
import CompileServer.Proofs.Compile.Independence
import CompileServer.Proofs.Compile.Ledger
import CompileServer.Proofs.Compile.Libraries
import CompileServer.Proofs.Compile.Lineage
import CompileServer.Proofs.Compile.Listing
import CompileServer.Proofs.Compile.LoadOnce
import CompileServer.Proofs.Compile.Loading
import CompileServer.Proofs.Compile.Membership
import CompileServer.Proofs.Compile.Overheard
import CompileServer.Proofs.Compile.Ownership
import CompileServer.Proofs.Compile.Preparation
import CompileServer.Proofs.Compile.Provenance
import CompileServer.Proofs.Compile.Questions
import CompileServer.Proofs.Compile.Recorded
import CompileServer.Proofs.Compile.Resolution
import CompileServer.Proofs.Compile.Respelling
import CompileServer.Proofs.Compile.Sample
import CompileServer.Proofs.Compile.Sequence
import CompileServer.Proofs.Compile.Views
import CompileServer.Proofs.Compile.Watch
import CompileServer.Proofs.Compile.Work
import CompileServer.Proofs.Config.Overlay
import CompileServer.Proofs.Config.Printed
import CompileServer.Proofs.FileSystem.NormalForms
import CompileServer.Proofs.FileSystem.Walk
import CompileServer.Proofs.Json.Canonical
import CompileServer.Proofs.Json.OneLine
import CompileServer.Proofs.Path.Spelling
import CompileServer.Proofs.Project.Recollection
import CompileServer.Proofs.Project.Replacement
import CompileServer.Proofs.Project.Store
import CompileServer.Proofs.Server.Bookkeeping
import CompileServer.Proofs.Server.Framing
import CompileServer.Proofs.Server.Lines
import CompileServer.Proofs.Server.Malformed
import CompileServer.Proofs.Server.Moves
import CompileServer.Proofs.Server.Pairing
import CompileServer.Proofs.Server.Progress
import CompileServer.Proofs.Server.Service
import CompileServer.Proofs.Server.Slips
import CompileServer.Proofs.Server.Transcript
import CompileServer.Proofs.Server.Undisturbed
import CompileServer.Proofs.Toml.Sections
import CompileServer.Proofs.Toml.Values
import CompileServer.Proofs.Wire.Format
import CompileServer.Proofs.Wire.RoundTrip
import CompileServer.Scripted.Actor
import CompileServer.Scripted.Host
import CompileServer.Scripted.World
import CompileServer.Server.Basic
import CompileServer.Server.Frame
import CompileServer.Server.Run
import CompileServer.Shell.Builtin
import CompileServer.Shell.Condition
import CompileServer.Shell.Edit
import CompileServer.Shell.EditScript
import CompileServer.Shell.Expansion
import CompileServer.Shell.FileUtility
import CompileServer.Shell.Flags
import CompileServer.Shell.Format
import CompileServer.Shell.Formula
import CompileServer.Shell.Glyph
import CompileServer.Shell.Number
import CompileServer.Shell.PathPattern
import CompileServer.Shell.Pattern
import CompileServer.Shell.Process
import CompileServer.Shell.Program
import CompileServer.Shell.Reader
import CompileServer.Shell.Redirecting
import CompileServer.Shell.Regex
import CompileServer.Shell.Run
import CompileServer.Shell.Script
import CompileServer.Shell.Search
import CompileServer.Shell.TextUtility
import CompileServer.Shell.Token
import CompileServer.Shell.Utility
import CompileServer.Shell.WordReader
import CompileServer.SourceKind
import CompileServer.Text.Blank
import CompileServer.Text.Lossy
import CompileServer.Text.Printable
import CompileServer.Text.Quoted
import CompileServer.Toml.Document
import CompileServer.Toml.Printer
import CompileServer.Toml.Quoted
import CompileServer.Toml.Scalar
import CompileServer.Toml.Value
import CompileServer.Tool.Call
import CompileServer.Tool.Host
import CompileServer.Tool.Library
import CompileServer.Tool.ObjectFile
import CompileServer.Wire.Decode
import CompileServer.Wire.Encode
import CompileServer.Wire.Message
