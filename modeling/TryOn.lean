import TryOn.Audit
import TryOn.Conversion.Basic
import TryOn.Conversion.Encoding
import TryOn.Conversion.Patch
import TryOn.Conversion.Status
import TryOn.Data.Basic
import TryOn.Data.Decode
import TryOn.Data.Json
import TryOn.Data.Overlay
import TryOn.Data.Toml.Document
import TryOn.Data.Toml.Node
import TryOn.Data.Toml.Printer
import TryOn.Data.Toml.Scalar
import TryOn.Decimal.Nearest
import TryOn.Decimal.Shortest
import TryOn.Decimal.Text
import TryOn.Duration
import TryOn.Identifier
import TryOn.Image
import TryOn.Listing.Basic
import TryOn.Listing.Encoding
import TryOn.LogFilter.Basic
import TryOn.LogFilter.Directive
import TryOn.LogLine
import TryOn.Metrics
import TryOn.Notice
import TryOn.Processor
import TryOn.Proofs.Admission.AllOrNothing
import TryOn.Proofs.Admission.Alone
import TryOn.Proofs.Admission.CalledOff
import TryOn.Proofs.Admission.Engine
import TryOn.Proofs.Admission.Gates
import TryOn.Proofs.Admission.Overlap
import TryOn.Proofs.Contention.Foreseen
import TryOn.Proofs.Contention.Forward
import TryOn.Proofs.Contention.Lawful
import TryOn.Proofs.Contention.Linear
import TryOn.Proofs.Contention.Step
import TryOn.Proofs.Conversion.PatchText
import TryOn.Proofs.Counting
import TryOn.Proofs.Data.JsonText
import TryOn.Proofs.Data.Table
import TryOn.Proofs.Decimal.Rational
import TryOn.Proofs.Faults.Run
import TryOn.Proofs.Faults.Step
import TryOn.Proofs.Interleaving.Attempts
import TryOn.Proofs.Interleaving.Conduct
import TryOn.Proofs.Interleaving.Exchange
import TryOn.Proofs.Interleaving.Plain
import TryOn.Proofs.Interleaving.Play
import TryOn.Proofs.Interleaving.Protocol
import TryOn.Proofs.Interleaving.Quiet
import TryOn.Proofs.Interleaving.Scene
import TryOn.Proofs.Interleaving.Solo
import TryOn.Proofs.Interleaving.Trace
import TryOn.Proofs.Ledger.Balance
import TryOn.Proofs.Ledger.Exact
import TryOn.Proofs.Ledger.Life
import TryOn.Proofs.Ledger.Past
import TryOn.Proofs.Ledger.Sinks
import TryOn.Proofs.Ledger.Story
import TryOn.Proofs.Ledger.Told
import TryOn.Proofs.Listing.Pages
import TryOn.Proofs.Processing.AtMostOnce
import TryOn.Proofs.Processing.Channels
import TryOn.Proofs.Processing.Conduct
import TryOn.Proofs.Processing.Course
import TryOn.Proofs.Processing.EndToEnd
import TryOn.Proofs.Processing.Hold
import TryOn.Proofs.Processing.Move
import TryOn.Proofs.Processing.Run
import TryOn.Proofs.Processing.Script
import TryOn.Proofs.Processing.Skipped
import TryOn.Proofs.Processing.Stages
import TryOn.Proofs.Quota.Admission
import TryOn.Proofs.Quota.Conservation
import TryOn.Proofs.Quota.Reset
import TryOn.Proofs.RateLimit.ComeBack
import TryOn.Proofs.RateLimit.Recent
import TryOn.Proofs.RateLimit.Unpruned
import TryOn.Proofs.Record.Conduct
import TryOn.Proofs.Record.History
import TryOn.Proofs.Record.Labels
import TryOn.Proofs.Record.Origin
import TryOn.Proofs.Record.Restyle
import TryOn.Proofs.Retry.Clockwork
import TryOn.Proofs.Retry.Exact
import TryOn.Proofs.Retry.LastFailure
import TryOn.Proofs.Retry.Listed
import TryOn.Proofs.Retry.Pauses
import TryOn.Proofs.Separation.Engine
import TryOn.Proofs.Separation.Users
import TryOn.Proofs.Settings.LetterCase
import TryOn.Proofs.Settings.Paths
import TryOn.Proofs.Store.Alike
import TryOn.Proofs.Store.Owned
import TryOn.Proofs.Store.Patches
import TryOn.Proofs.Store.Visit
import TryOn.Proofs.Text.FinalSigma
import TryOn.Proofs.Text.Numeral
import TryOn.Proofs.Timestamp.Date
import TryOn.Proofs.Timestamp.Month
import TryOn.Proofs.Timestamp.Text
import TryOn.Proofs.Watch.Answer
import TryOn.Proofs.Watch.Course
import TryOn.Proofs.Watch.Loop
import TryOn.Proofs.Watch.Timeline
import TryOn.Proofs.Worker.Account
import TryOn.Proofs.Worker.Dispatch
import TryOn.Proofs.Worker.Flow
import TryOn.Proofs.Worker.Shift
import TryOn.Quota.Basic
import TryOn.Quota.Encoding
import TryOn.RateLimit
import TryOn.Retry.Backoff
import TryOn.Retry.Classification
import TryOn.Retry.Execution
import TryOn.Retry.Policies
import TryOn.Retry.Policy
import TryOn.Retry.Timeline
import TryOn.Schema
import TryOn.Service.Admission
import TryOn.Service.Basic
import TryOn.Service.Failure
import TryOn.Service.Lifecycle
import TryOn.Service.Operations
import TryOn.Service.Program
import TryOn.Service.Watch
import TryOn.Service.Worker
import TryOn.Settings.Basic
import TryOn.Settings.Encoding
import TryOn.Settings.Environment
import TryOn.Settings.Loading
import TryOn.Settings.Wrapping
import TryOn.Simulation.Alone
import TryOn.Simulation.Fault
import TryOn.Simulation.Label
import TryOn.Simulation.Report
import TryOn.Simulation.Run
import TryOn.Simulation.Strand
import TryOn.Simulation.World
import TryOn.Store.Basic
import TryOn.Store.Call
import TryOn.Store.Error
import TryOn.Table
import TryOn.Text.Alphanumeric
import TryOn.Text.Blank
import TryOn.Text.CaseData
import TryOn.Text.Digits
import TryOn.Text.LowerCase
import TryOn.Text.Ranges
import TryOn.Text.Search
import TryOn.Timestamp.Basic
import TryOn.Timestamp.Civil
import TryOn.Timestamp.Text
import TryOn.Uuid
import TryOn.Violation
import TryOn.WorkQueue
