import BalancerSync.Cloud.Action
import BalancerSync.Cloud.Call
import BalancerSync.Cloud.Change
import BalancerSync.Cloud.Inventory
import BalancerSync.Cloud.LoadBalancer
import BalancerSync.Cloud.Options
import BalancerSync.Cloud.Request
import BalancerSync.Cloud.Wire.Answer
import BalancerSync.Cloud.Wire.Connection
import BalancerSync.Cloud.Wire.Message
import BalancerSync.Cloud.Wire.Options
import BalancerSync.Cloud.Wire.Resource
import BalancerSync.Cloud.World
import BalancerSync.Error
import BalancerSync.Cluster.Request
import BalancerSync.Cluster.Manifest
import BalancerSync.Cluster.Object
import BalancerSync.Cluster.Schema
import BalancerSync.Cluster.Time
import BalancerSync.Cluster.Wire
import BalancerSync.Cluster.World
import BalancerSync.CommandLine
import BalancerSync.Config
import BalancerSync.Control.Election
import BalancerSync.Control.Loop
import BalancerSync.Control.NodeChanges
import BalancerSync.Control.Reconcile
import BalancerSync.Decimal
import BalancerSync.Desired.Balancer
import BalancerSync.Desired.Ports
import BalancerSync.Desired.Targets
import BalancerSync.Duration.Basic
import BalancerSync.Duration.Parser
import BalancerSync.Engine.Identity
import BalancerSync.Engine.Operations
import BalancerSync.Engine.Steps
import BalancerSync.Http
import BalancerSync.Json.Basic
import BalancerSync.Json.Number
import BalancerSync.Json.Printer
import BalancerSync.Json.Reader
import BalancerSync.Json.Record
import BalancerSync.Labels
import BalancerSync.Main
import BalancerSync.Monitoring.Endpoint
import BalancerSync.Monitoring.Exposition
import BalancerSync.Net
import BalancerSync.Program
import BalancerSync.Selector.Basic
import BalancerSync.Selector.Parser
import BalancerSync.Setting
import BalancerSync.Startup
import BalancerSync.Text.Lines
import BalancerSync.Text.Quoted
import BalancerSync.Text.Numeral
import BalancerSync.Proofs.Cloud.Inventory
import BalancerSync.Proofs.Cloud.Revision
import BalancerSync.Proofs.Cloud.Exactness
import BalancerSync.Proofs.Engine.Discipline
import BalancerSync.Proofs.Engine.HealthChecks
import BalancerSync.Proofs.Engine.Uniqueness
import BalancerSync.Proofs.Json.MergePatch
import BalancerSync.Proofs.Cloud.Run
import BalancerSync.Proofs.Cloud.Plan
import BalancerSync.Proofs.Desired.Reading
import BalancerSync.Proofs.Engine.Plan
import BalancerSync.Proofs.Cloud.Convergence
import BalancerSync.Proofs.Desired.Targets
import BalancerSync.Proofs.Engine.Steps
import BalancerSync.Proofs.Engine.Networks
import BalancerSync.Proofs.Engine.Targets
import BalancerSync.Proofs.Engine.Services
import BalancerSync.Proofs.Desired.Wishes
import BalancerSync.Proofs.Engine.Pass
import BalancerSync.Proofs.Engine.Settled
import BalancerSync.Proofs.Engine.Lookup
import BalancerSync.Proofs.Engine.Start
import BalancerSync.Proofs.Cloud.Preservation
import BalancerSync.Proofs.Engine.Ensure
import BalancerSync.Proofs.Engine.Passes
import BalancerSync.Proofs.Engine.Requests
import BalancerSync.Proofs.Engine.Isolation
import BalancerSync.Proofs.Cluster.LeaseServer
import BalancerSync.Proofs.Control.Replicas
import BalancerSync.Proofs.Control.NodeWatch
import BalancerSync.Proofs.Program.Safety
import BalancerSync.Proofs.Cluster.ServiceObject
import BalancerSync.Proofs.Engine.Deletion
import BalancerSync.Proofs.Control.Finalizer
import BalancerSync.Proofs.Control.Release
import BalancerSync.Proofs.Cloud.Frame
import BalancerSync.Proofs.Engine.Frame
import BalancerSync.Proofs.Engine.GuardedDeletion
import BalancerSync.Proofs.Engine.RepeatedDeletion
import BalancerSync.Proofs.Engine.Commuting
import BalancerSync.Proofs.Cluster.LeaseVersions
import BalancerSync.Proofs.Control.Takeover
import BalancerSync.Proofs.Desired.Readers
import BalancerSync.Proofs.Engine.Changed
import BalancerSync.Proofs.Cloud.Turns
import BalancerSync.Proofs.Engine.Ports
import BalancerSync.Proofs.Engine.Minimality
import BalancerSync.Proofs.Text.Numeral
import BalancerSync.Proofs.Duration.Language
import BalancerSync.Proofs.Desired.Precedence
import BalancerSync.Proofs.Selector.Terms
import BalancerSync.Proofs.Selector.Grammar
import BalancerSync.Proofs.Selector.Spelling
import BalancerSync.Proofs.Selector.RoundTrip
import BalancerSync.Proofs.Cloud.Waiting
import BalancerSync.Proofs.Engine.Selection
import BalancerSync.Proofs.Desired.ReadingOnce
import BalancerSync.Proofs.Desired.Stages
import BalancerSync.Proofs.Control.NodeReports
import BalancerSync.Proofs.Config.Loading
import BalancerSync.Proofs.Config.Secrecy
import BalancerSync.Proofs.Json.Fields
import BalancerSync.Proofs.Cloud.ServiceBodies
import BalancerSync.Proofs.Desired.Sending
import BalancerSync.Proofs.Desired.Names
import BalancerSync.Proofs.Desired.PortNumbers
import BalancerSync.Proofs.Cloud.Atomicity
