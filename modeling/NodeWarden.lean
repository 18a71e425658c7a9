import NodeWarden.Agent.Basic
import NodeWarden.Agent.Note
import NodeWarden.Agent.Run
import NodeWarden.Agent.Tick
import NodeWarden.Cluster.Api
import NodeWarden.Cluster.Memory
import NodeWarden.Cluster.Node
import NodeWarden.CommandLine
import NodeWarden.Config.Basic
import NodeWarden.Config.Reader
import NodeWarden.ConfigError
import NodeWarden.Device.Basic
import NodeWarden.Device.Sources
import NodeWarden.Executor.Apply
import NodeWarden.Executor.Basic
import NodeWarden.Executor.Config
import NodeWarden.Executor.Note
import NodeWarden.Json.Basic
import NodeWarden.Json.Parser
import NodeWarden.Kubernetes.Client
import NodeWarden.Kubernetes.Failure
import NodeWarden.Kubernetes.Object
import NodeWarden.Kubernetes.Request
import NodeWarden.Kubernetes.Schema
import NodeWarden.Launch.Basic
import NodeWarden.Launch.Ending
import NodeWarden.Launch.Note
import NodeWarden.Launch.Run
import NodeWarden.Log.Directive
import NodeWarden.Log.Entry
import NodeWarden.Log.Filter
import NodeWarden.Log.Pattern
import NodeWarden.Main
import NodeWarden.Mask.Basic
import NodeWarden.Mask.Parser
import NodeWarden.Metrics.Basic
import NodeWarden.Metrics.Endpoint
import NodeWarden.Metrics.Exposition
import NodeWarden.Metrics.Series
import NodeWarden.Number.Binary
import NodeWarden.Number.Decimal
import NodeWarden.Number.Saturating
import NodeWarden.Policy.Basic
import NodeWarden.Policy.Evaluator
import NodeWarden.Policy.Note
import NodeWarden.Policy.Scoring
import NodeWarden.Proofs.Agent.Accounting
import NodeWarden.Proofs.Agent.Attended
import NodeWarden.Proofs.Agent.Conduct
import NodeWarden.Proofs.Agent.InStep
import NodeWarden.Proofs.Agent.Lifecycle
import NodeWarden.Proofs.Agent.Run
import NodeWarden.Proofs.Agent.Shutdown
import NodeWarden.Proofs.Agent.Tick
import NodeWarden.Proofs.Agent.TwoPhase
import NodeWarden.Proofs.Agent.Undisturbed
import NodeWarden.Proofs.Agent.Worlds
import NodeWarden.Proofs.Cluster.Alike
import NodeWarden.Proofs.Cluster.Delayed
import NodeWarden.Proofs.Cluster.FaultQueues
import NodeWarden.Proofs.Cluster.Observed
import NodeWarden.Proofs.Cluster.Steady
import NodeWarden.Proofs.Config.DomainName
import NodeWarden.Proofs.Config.LabelKeys
import NodeWarden.Proofs.Config.Layering
import NodeWarden.Proofs.Device.Sampling
import NodeWarden.Proofs.Executor.AnyWorld
import NodeWarden.Proofs.Executor.Application
import NodeWarden.Proofs.Executor.Away
import NodeWarden.Proofs.Executor.Backoff
import NodeWarden.Proofs.Executor.Confinement
import NodeWarden.Proofs.Executor.Confirmation
import NodeWarden.Proofs.Executor.Course
import NodeWarden.Proofs.Executor.DeletionMemory
import NodeWarden.Proofs.Executor.Healing
import NodeWarden.Proofs.Executor.Idempotence
import NodeWarden.Proofs.Executor.LabelCache
import NodeWarden.Proofs.Executor.LabelPatches
import NodeWarden.Proofs.Executor.Latch
import NodeWarden.Proofs.Executor.LateChanges
import NodeWarden.Proofs.Executor.Neighbours
import NodeWarden.Proofs.Executor.Outcome
import NodeWarden.Proofs.Executor.Pace
import NodeWarden.Proofs.Executor.Rehearsal
import NodeWarden.Proofs.Executor.Return
import NodeWarden.Proofs.Executor.Run
import NodeWarden.Proofs.Executor.Shift
import NodeWarden.Proofs.Executor.TwoPhase
import NodeWarden.Proofs.Executor.UnconfirmedCordon
import NodeWarden.Proofs.Executor.Undisturbed
import NodeWarden.Proofs.Executor.Worlds
import NodeWarden.Proofs.History
import NodeWarden.Proofs.Json.RoundTrip
import NodeWarden.Proofs.Kubernetes.InMemory
import NodeWarden.Proofs.Kubernetes.MergePatch
import NodeWarden.Proofs.Kubernetes.Refusal
import NodeWarden.Proofs.Kubernetes.Server
import NodeWarden.Proofs.Kubernetes.TableServer
import NodeWarden.Proofs.Launch.CommandLine
import NodeWarden.Proofs.Launch.Gate
import NodeWarden.Proofs.Mask.RoundTrip
import NodeWarden.Proofs.Policy.Classification
import NodeWarden.Proofs.Policy.Scoring
import NodeWarden.Proofs.Policy.Table
import NodeWarden.Sample
import NodeWarden.Simulation.Directory
import NodeWarden.Simulation.Machine
import NodeWarden.Simulation.Network
import NodeWarden.Simulation.World
import NodeWarden.Text.Blank
import NodeWarden.Text.Bytes
import NodeWarden.Text.Digit
import NodeWarden.Text.Graphic
import NodeWarden.Text.Letter
import NodeWarden.Text.Quoted
import NodeWarden.Text.Ranges
import NodeWarden.Time.Clock
import NodeWarden.Time.Duration
import NodeWarden.Time.Span
import NodeWarden.Time.Timestamp
import NodeWarden.Time.Timestamp.Parser
import NodeWarden.Yaml.Character
import NodeWarden.Yaml.Node
import NodeWarden.Yaml.Scalar
import NodeWarden.Yaml.Token
import NodeWarden.Yaml.Value
