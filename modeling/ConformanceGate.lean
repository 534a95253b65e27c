import ConformanceGate.CaseId.Basic
import ConformanceGate.CaseId.Sort
import ConformanceGate.CommandLine.Arguments
import ConformanceGate.CommandLine.Commands
import ConformanceGate.Comparison.Diff
import ConformanceGate.Comparison.Normal
import ConformanceGate.Comparison.Verdict
import ConformanceGate.Config.Basic
import ConformanceGate.Config.Decode
import ConformanceGate.Document.Decode
import ConformanceGate.Document.Mismatch
import ConformanceGate.Document.Written
import ConformanceGate.Failure
import ConformanceGate.Json.Basic
import ConformanceGate.Json.Printer
import ConformanceGate.Json.Reader
import ConformanceGate.Keyed
import ConformanceGate.Machine.Arithmetic
import ConformanceGate.Machine.Basic
import ConformanceGate.Machine.Expansion
import ConformanceGate.Machine.Files
import ConformanceGate.Machine.Fraction
import ConformanceGate.Machine.Host
import ConformanceGate.Machine.Lookup
import ConformanceGate.Machine.Octets
import ConformanceGate.Machine.Pattern
import ConformanceGate.Machine.Process
import ConformanceGate.Machine.Programs.Awk.Basic
import ConformanceGate.Machine.Programs.Awk.Reader
import ConformanceGate.Machine.Programs.Awk.Run
import ConformanceGate.Machine.Programs.Awk.State
import ConformanceGate.Machine.Programs.Awk.Token
import ConformanceGate.Machine.Programs.Awk.Value
import ConformanceGate.Machine.Programs.Catalog
import ConformanceGate.Machine.Programs.Condition
import ConformanceGate.Machine.Programs.Duration
import ConformanceGate.Machine.Programs.Edit
import ConformanceGate.Machine.Programs.Evaluate
import ConformanceGate.Machine.Programs.Format
import ConformanceGate.Machine.Programs.Lines
import ConformanceGate.Machine.Programs.Options
import ConformanceGate.Machine.Programs.Outcome
import ConformanceGate.Machine.Programs.Places
import ConformanceGate.Machine.Programs.Search
import ConformanceGate.Machine.Programs.Tree
import ConformanceGate.Machine.Regular
import ConformanceGate.Machine.Running
import ConformanceGate.Machine.Script.Basic
import ConformanceGate.Machine.Script.Reader
import ConformanceGate.Machine.Shell.Basic
import ConformanceGate.Machine.Shell.Builtins
import ConformanceGate.Machine.Shell.Commands
import ConformanceGate.Machine.Shell.Control
import ConformanceGate.Machine.Shell.Preparation
import ConformanceGate.Machine.Shell.Variables
import ConformanceGate.Machine.Steps
import ConformanceGate.Machine.Streams
import ConformanceGate.Main
import ConformanceGate.Number.Double
import ConformanceGate.Number.Shortest
import ConformanceGate.Path.Basic
import ConformanceGate.Proofs.CaseId.Order
import ConformanceGate.Proofs.CaseId.Sort
import ConformanceGate.Proofs.CaseId.Spelling
import ConformanceGate.Proofs.CommandLine.ExitCodes
import ConformanceGate.Proofs.CommandLine.Failures
import ConformanceGate.Proofs.CommandLine.Init
import ConformanceGate.Proofs.CommandLine.Steps
import ConformanceGate.Proofs.Comparison.Affected
import ConformanceGate.Proofs.Comparison.Canonical
import ConformanceGate.Proofs.Comparison.Changes
import ConformanceGate.Proofs.Comparison.Differences
import ConformanceGate.Proofs.Comparison.Order
import ConformanceGate.Proofs.Comparison.Relaxation
import ConformanceGate.Proofs.Comparison.Shown
import ConformanceGate.Proofs.Comparison.Verdict
import ConformanceGate.Proofs.Comparison.Walk
import ConformanceGate.Proofs.Config.Overlay
import ConformanceGate.Proofs.Document.Records
import ConformanceGate.Proofs.Document.Tables
import ConformanceGate.Proofs.Document.Writing
import ConformanceGate.Proofs.Except
import ConformanceGate.Proofs.Json.Places
import ConformanceGate.Proofs.Json.Reading
import ConformanceGate.Proofs.Json.RoundTrip
import ConformanceGate.Proofs.Json.Scanning
import ConformanceGate.Proofs.Json.Spelling
import ConformanceGate.Proofs.Keyed
import ConformanceGate.Proofs.Machine.Files
import ConformanceGate.Proofs.Machine.Tree
import ConformanceGate.Proofs.Path.Locations
import ConformanceGate.Proofs.Report.Agreement
import ConformanceGate.Proofs.Report.Counts
import ConformanceGate.Proofs.Report.Entities
import ConformanceGate.Proofs.Report.Page
import ConformanceGate.Proofs.Report.Sections
import ConformanceGate.Proofs.Report.Views
import ConformanceGate.Proofs.Results.Document
import ConformanceGate.Proofs.Results.Loading
import ConformanceGate.Proofs.Results.RoundTrip
import ConformanceGate.Proofs.Results.TestCase
import ConformanceGate.Proofs.Run.Attempts
import ConformanceGate.Proofs.Run.Child
import ConformanceGate.Proofs.Run.Deadlines
import ConformanceGate.Proofs.Run.Endpoint
import ConformanceGate.Proofs.Run.Failures
import ConformanceGate.Proofs.Run.Gate
import ConformanceGate.Proofs.Run.Interrupts
import ConformanceGate.Proofs.Run.Launch
import ConformanceGate.Proofs.Run.Locations
import ConformanceGate.Proofs.Run.Orchestrator
import ConformanceGate.Proofs.Run.Precedence
import ConformanceGate.Proofs.Run.Readiness
import ConformanceGate.Proofs.Run.Requests
import ConformanceGate.Proofs.Run.Results
import ConformanceGate.Proofs.Run.Rounds
import ConformanceGate.Proofs.Run.Stopping
import ConformanceGate.Proofs.Run.Supervision
import ConformanceGate.Proofs.Run.Teardown
import ConformanceGate.Proofs.Spec.Address
import ConformanceGate.Proofs.Spec.Authority
import ConformanceGate.Proofs.Storage.Blessing
import ConformanceGate.Proofs.Storage.Specs
import ConformanceGate.Proofs.System.Clock
import ConformanceGate.Proofs.System.FileSystem
import ConformanceGate.Proofs.System.FileTree
import ConformanceGate.Proofs.System.Outcomes
import ConformanceGate.Proofs.System.Traces
import ConformanceGate.Proofs.System.Visits
import ConformanceGate.Proofs.Text.Decimal
import ConformanceGate.Proofs.Text.Split
import ConformanceGate.Proofs.Toml.Trees
import ConformanceGate.Report.Page
import ConformanceGate.Report.Summary
import ConformanceGate.Report.Terminal
import ConformanceGate.Report.Timestamp
import ConformanceGate.Results.Document
import ConformanceGate.Results.Status
import ConformanceGate.Results.TestCase
import ConformanceGate.Run.Child
import ConformanceGate.Run.Endpoint
import ConformanceGate.Run.Gate
import ConformanceGate.Run.Interrupts
import ConformanceGate.Run.Orchestrator
import ConformanceGate.Run.Readiness
import ConformanceGate.Run.Supervision
import ConformanceGate.Spec.Address
import ConformanceGate.Spec.Basic
import ConformanceGate.Spec.Codec
import ConformanceGate.Storage.Documents
import ConformanceGate.Storage.Settings
import ConformanceGate.System.Error
import ConformanceGate.System.ExitStatus
import ConformanceGate.System.Program
import ConformanceGate.System.Request
import ConformanceGate.Text.Blank
import ConformanceGate.Text.Decimal
import ConformanceGate.Text.Hexadecimal
import ConformanceGate.Text.Hidden
import ConformanceGate.Text.Quoted
import ConformanceGate.Text.Split
import ConformanceGate.Toml.Reader
import ConformanceGate.Toml.Scalar
import ConformanceGate.Toml.Table
