import SyscallProfiler.Artifact
import SyscallProfiler.Campaign
import SyscallProfiler.Collector
import SyscallProfiler.CommandLine.Options
import SyscallProfiler.CommandLine.Run
import SyscallProfiler.Decode
import SyscallProfiler.Duration
import SyscallProfiler.Failure
import SyscallProfiler.Files.Basic
import SyscallProfiler.Files.Listing
import SyscallProfiler.Files.Path
import SyscallProfiler.Files.Tree
import SyscallProfiler.Host.Program
import SyscallProfiler.Host.Request
import SyscallProfiler.Host.Status
import SyscallProfiler.Host.Watch
import SyscallProfiler.Invocation.Interpreter
import SyscallProfiler.Invocation.Script
import SyscallProfiler.Json.Basic
import SyscallProfiler.Json.Number
import SyscallProfiler.Json.Printer
import SyscallProfiler.Json.Reader
import SyscallProfiler.Loader.Native
import SyscallProfiler.Loader.NativeUnit
import SyscallProfiler.Machine.ArgumentTools
import SyscallProfiler.Machine.Assigning
import SyscallProfiler.Machine.Builtins
import SyscallProfiler.Machine.Control
import SyscallProfiler.Machine.Demand
import SyscallProfiler.Machine.FileTools
import SyscallProfiler.Machine.Filtering
import SyscallProfiler.Machine.Filters
import SyscallProfiler.Machine.Filters.Basic
import SyscallProfiler.Machine.Filters.Characters
import SyscallProfiler.Machine.Filters.Counting
import SyscallProfiler.Machine.Filters.Editor
import SyscallProfiler.Machine.Filters.Lines
import SyscallProfiler.Machine.Filters.Order
import SyscallProfiler.Machine.Filters.Search
import SyscallProfiler.Machine.Inspect
import SyscallProfiler.Machine.Launch
import SyscallProfiler.Machine.Matching
import SyscallProfiler.Machine.Process
import SyscallProfiler.Machine.Redirection
import SyscallProfiler.Machine.Schedule
import SyscallProfiler.Machine.Setup
import SyscallProfiler.Machine.Shell
import SyscallProfiler.Machine.Signals
import SyscallProfiler.Machine.Simulation
import SyscallProfiler.Machine.State
import SyscallProfiler.Machine.Tools
import SyscallProfiler.Machine.Waiting
import SyscallProfiler.Machine.Watching
import SyscallProfiler.Main
import SyscallProfiler.Number.Binary64
import SyscallProfiler.Number.Places
import SyscallProfiler.Number.Shortest
import SyscallProfiler.OsError
import SyscallProfiler.Outcome
import SyscallProfiler.Pass.Attach
import SyscallProfiler.Pass.Spawn
import SyscallProfiler.PassResult
import SyscallProfiler.Payload
import SyscallProfiler.Proofs.Campaign.Custody
import SyscallProfiler.Proofs.Files.Tree
import SyscallProfiler.Proofs.Host.Course
import SyscallProfiler.Proofs.Host.Custody
import SyscallProfiler.Proofs.Host.Log
import SyscallProfiler.Proofs.Host.Presence
import SyscallProfiler.Proofs.Host.Watch
import SyscallProfiler.Proofs.Invocation.Chatter
import SyscallProfiler.Proofs.Invocation.Interpreter
import SyscallProfiler.Proofs.Invocation.Recovery
import SyscallProfiler.Proofs.Invocation.Script
import SyscallProfiler.Proofs.Decode
import SyscallProfiler.Proofs.Json.Exact
import SyscallProfiler.Proofs.Json.Layout
import SyscallProfiler.Proofs.Json.RoundTrip
import SyscallProfiler.Proofs.Json.Scalars
import SyscallProfiler.Proofs.Json.Shape
import SyscallProfiler.Proofs.Outcome
import SyscallProfiler.Proofs.Pass.Artifacts
import SyscallProfiler.Proofs.Pass.Course
import SyscallProfiler.Proofs.Pass.Custody
import SyscallProfiler.Proofs.Pass.Modes
import SyscallProfiler.Proofs.Pass.Protocol
import SyscallProfiler.Proofs.Pass.Requests
import SyscallProfiler.Proofs.Pass.Results
import SyscallProfiler.Proofs.Session.Course
import SyscallProfiler.Proofs.Text.Lines
import SyscallProfiler.Proofs.Text.Octets
import SyscallProfiler.Proofs.Workload.Discovery
import SyscallProfiler.Report
import SyscallProfiler.Session
import SyscallProfiler.Settings
import SyscallProfiler.Shell.Arithmetic
import SyscallProfiler.Shell.Condition
import SyscallProfiler.Shell.Expansion
import SyscallProfiler.Shell.Fields
import SyscallProfiler.Shell.Grammar
import SyscallProfiler.Shell.Listing
import SyscallProfiler.Shell.Pattern
import SyscallProfiler.Shell.Printing
import SyscallProfiler.Shell.Reader
import SyscallProfiler.Shell.Variables
import SyscallProfiler.Text.Blank
import SyscallProfiler.Text.Invisible
import SyscallProfiler.Text.Joining
import SyscallProfiler.Text.Octets
import SyscallProfiler.Text.Printable
import SyscallProfiler.Text.Quoting
import SyscallProfiler.Text.Utf8
import SyscallProfiler.Toml.Choice
import SyscallProfiler.Toml.Datetime
import SyscallProfiler.Toml.Document
import SyscallProfiler.Toml.Scalar
import SyscallProfiler.Window
import SyscallProfiler.Workload.Basic
import SyscallProfiler.Workload.Discovery
import SyscallProfiler.Workload.Registry
import SyscallProfiler.Proofs.Campaign.Course
import SyscallProfiler.Proofs.Campaign.Shape
import SyscallProfiler.Proofs.PassResult
import SyscallProfiler.Proofs.PassResult.Normal
import SyscallProfiler.Proofs.Pass.Windows
import SyscallProfiler.Proofs.Campaign.Report
import SyscallProfiler.Proofs.Host.Directory
import SyscallProfiler.Proofs.Pass.Footprint
import SyscallProfiler.Proofs.Campaign.Windows
import SyscallProfiler.Proofs.Campaign.Stages
import SyscallProfiler.Proofs.Workload.Selection
import SyscallProfiler.Proofs.Pass.Runs
import SyscallProfiler.Proofs.Pass.Kept
import SyscallProfiler.Proofs.Outcome.Evidence
import SyscallProfiler.Proofs.Text.Utf8
import SyscallProfiler.Proofs.Loader.Delivery
import SyscallProfiler.Proofs.Pass.Unattached
import SyscallProfiler.Proofs.Toml.Document
import SyscallProfiler.Proofs.CommandLine.Settings
import SyscallProfiler.Proofs.Json.Bindings
import SyscallProfiler.Proofs.Json.Canonical
import SyscallProfiler.Proofs.Payload
import SyscallProfiler.Proofs.Window
import SyscallProfiler.Proofs.Workload.Resolution
import SyscallProfiler.Proofs.Search
import SyscallProfiler.Proofs.Settings
import SyscallProfiler.Proofs.Host.Polling
import SyscallProfiler.Proofs.Session.Escalation
import SyscallProfiler.Proofs.Session.Readiness
import SyscallProfiler.Proofs.Files.Lookup
import SyscallProfiler.Proofs.Artifact
import SyscallProfiler.Proofs.Campaign.Artifacts
import SyscallProfiler.Proofs.Collector
import SyscallProfiler.Proofs.Files.Path
import SyscallProfiler.Proofs.Files.Creation
import SyscallProfiler.Proofs.Machine.Simulation
