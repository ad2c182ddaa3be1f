import NodePressure.Agent.Ask
import NodePressure.Agent.Fault
import NodePressure.Agent.Router
import NodePressure.Cluster.Address
import NodePressure.Cluster.Client
import NodePressure.Cluster.Exchange
import NodePressure.Cluster.Fault
import NodePressure.Cluster.Objects
import NodePressure.Cluster.Shape
import NodePressure.Cluster.Shape.Container
import NodePressure.Cluster.Shape.Node
import NodePressure.Cluster.Shape.Pod
import NodePressure.Cluster.Shape.Volume
import NodePressure.Command.Arguments
import NodePressure.Command.Launch
import NodePressure.Command.LogFilter
import NodePressure.Command.LogLine
import NodePressure.Command.Parameter
import NodePressure.Condition.Fault
import NodePressure.Condition.Manager
import NodePressure.Controller.System
import NodePressure.Dispatch.Basic
import NodePressure.Files.Tree
import NodePressure.Host.Counters
import NodePressure.Host.Sampler
import NodePressure.Host.Usage
import NodePressure.Json.Basic
import NodePressure.Json.Decode
import NodePressure.Json.Reader
import NodePressure.Json.Writer
import NodePressure.Main
import NodePressure.NameMap
import NodePressure.Node.Availability
import NodePressure.Node.Form
import NodePressure.Node.Resource
import NodePressure.Node.TaintFlags
import NodePressure.Number.Binary
import NodePressure.Number.Decimal
import NodePressure.Number.Digits
import NodePressure.Number.Radix
import NodePressure.Pressure.Loop
import NodePressure.Pressure.State
import NodePressure.Pressure.Tick
import NodePressure.Program
import NodePressure.Proofs.Agent.Paths
import NodePressure.Proofs.Agent.Probes
import NodePressure.Proofs.Cluster.Calls
import NodePressure.Proofs.Cluster.Clearing
import NodePressure.Proofs.Cluster.NodeServer
import NodePressure.Proofs.Cluster.PodServer
import NodePressure.Proofs.Cluster.Requests
import NodePressure.Proofs.Condition.Reload
import NodePressure.Proofs.Condition.Scene
import NodePressure.Proofs.Condition.Snapshot
import NodePressure.Proofs.Condition.Starts
import NodePressure.Proofs.Conduct
import NodePressure.Proofs.Controller.Accounts
import NodePressure.Proofs.Controller.Backpressure
import NodePressure.Proofs.Controller.Conduct
import NodePressure.Proofs.Controller.Ledger
import NodePressure.Proofs.Controller.LifeCycle
import NodePressure.Proofs.Controller.Pace
import NodePressure.Proofs.Controller.Steps
import NodePressure.Proofs.Dispatch.Attempts
import NodePressure.Proofs.Dispatch.Escalation
import NodePressure.Proofs.Dispatch.Protection
import NodePressure.Proofs.Except
import NodePressure.Proofs.Execution
import NodePressure.Proofs.Host.History
import NodePressure.Proofs.Host.Interfaces
import NodePressure.Proofs.Host.ProcessorTime
import NodePressure.Proofs.Host.Samples
import NodePressure.Proofs.Host.TotalsLine
import NodePressure.Proofs.Host.Traffic
import NodePressure.Proofs.Json.Codec
import NodePressure.Proofs.Json.Forms
import NodePressure.Proofs.Json.RoundTrip
import NodePressure.Proofs.NameMap
import NodePressure.Proofs.Number.Digits
import NodePressure.Proofs.Number.Floats
import NodePressure.Proofs.Number.Sums
import NodePressure.Proofs.Pressure.Accounts
import NodePressure.Proofs.Pressure.Agreement
import NodePressure.Proofs.Pressure.Calls
import NodePressure.Proofs.Pressure.Clocks
import NodePressure.Proofs.Pressure.Edges
import NodePressure.Proofs.Pressure.Health
import NodePressure.Proofs.Pressure.Hysteresis
import NodePressure.Proofs.Pressure.Independence
import NodePressure.Proofs.Pressure.Latency
import NodePressure.Proofs.Pressure.Pacing
import NodePressure.Proofs.Pressure.Signals
import NodePressure.Proofs.Pressure.Ticks
import NodePressure.Proofs.Pressure.Watch
import NodePressure.Proofs.Taint.Edits
import NodePressure.Proofs.Taint.Form
import NodePressure.Proofs.Telemetry.Books
import NodePressure.Proofs.Telemetry.Reports
import NodePressure.Proofs.Telemetry.Totals
import NodePressure.Proofs.Telemetry.Verdict
import NodePressure.Proofs.Text.Utf8
import NodePressure.Proofs.Time.Utc
import NodePressure.Proofs.Workload.Amounts
import NodePressure.Proofs.Workload.Choice
import NodePressure.Proofs.Workload.Contest
import NodePressure.Proofs.Workload.Quantity
import NodePressure.Proofs.Workload.Rank
import NodePressure.Proofs.Workload.Ties
import NodePressure.Rehearsal.Play
import NodePressure.Rehearsal.Stage
import NodePressure.Rehearsal.World
import NodePressure.Settings.Basic
import NodePressure.Settings.Fault
import NodePressure.Settings.Form
import NodePressure.Settings.Format.Ini
import NodePressure.Settings.Format.Json
import NodePressure.Settings.Format.Json5
import NodePressure.Settings.Format.Ron
import NodePressure.Settings.Format.Toml
import NodePressure.Settings.Format.Toml.DateTime
import NodePressure.Settings.Format.Toml.Table
import NodePressure.Settings.Format.Toml.Text
import NodePressure.Settings.Format.Toml.Value
import NodePressure.Settings.Format.Yaml
import NodePressure.Settings.Format.Yaml.Cursor
import NodePressure.Settings.Format.Yaml.Node
import NodePressure.Settings.Format.Yaml.Scalar
import NodePressure.Settings.Format.Yaml.Token
import NodePressure.Settings.Reading
import NodePressure.Settings.Source
import NodePressure.Settings.Tree
import NodePressure.Taint.Basic
import NodePressure.Taint.Form
import NodePressure.Telemetry.Basic
import NodePressure.Telemetry.Exposition
import NodePressure.Telemetry.Form
import NodePressure.Telemetry.Health
import NodePressure.Telemetry.LogRecord
import NodePressure.Telemetry.Metrics
import NodePressure.Text.Blank
import NodePressure.Text.FormValue
import NodePressure.Text.Letter
import NodePressure.Text.Pattern
import NodePressure.Text.Printable
import NodePressure.Text.Quoted
import NodePressure.Text.Ranges
import NodePressure.Text.Utf8
import NodePressure.Time.Span
import NodePressure.Time.Utc
import NodePressure.Workload.Basic
import NodePressure.Workload.Form
import NodePressure.Workload.Policy
import NodePressure.Workload.Quantity
