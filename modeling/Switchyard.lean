import Switchyard.Balance.Balancer
import Switchyard.Balance.Callers
import Switchyard.Balance.Fingerprint
import Switchyard.Balance.Rotation
import Switchyard.Balance.Table
import Switchyard.Balance.Usage
import Switchyard.Config.Loading
import Switchyard.Config.Reading
import Switchyard.Config.Settings
import Switchyard.Config.Validation
import Switchyard.Dispatch.Attempt
import Switchyard.Dispatch.Dispatcher
import Switchyard.Dispatch.Error
import Switchyard.Dispatch.Execution
import Switchyard.Dispatch.Failure
import Switchyard.Dispatch.Ledger
import Switchyard.Dispatch.Sharing
import Switchyard.Dispatch.Traffic
import Switchyard.Endpoint
import Switchyard.Gateway.Handler
import Switchyard.Gateway.Inbound
import Switchyard.Gateway.Launch
import Switchyard.Gateway.Layer
import Switchyard.Gateway.Options
import Switchyard.Gateway.Server
import Switchyard.Gateway.Site
import Switchyard.Gateway.Status
import Switchyard.Http.Message
import Switchyard.Http.Uri
import Switchyard.Main
import Switchyard.Metrics
import Switchyard.Proofs.Agreement
import Switchyard.Proofs.Aiming
import Switchyard.Proofs.Attempts
import Switchyard.Proofs.Backoff
import Switchyard.Proofs.CallOrder
import Switchyard.Proofs.Calls
import Switchyard.Proofs.Conservation
import Switchyard.Proofs.Correlation
import Switchyard.Proofs.Crossing
import Switchyard.Proofs.CursorCount
import Switchyard.Proofs.DirectoryStep
import Switchyard.Proofs.EndpointSchemes
import Switchyard.Proofs.Failover
import Switchyard.Proofs.FairShare
import Switchyard.Proofs.FixedList
import Switchyard.Proofs.Freshness
import Switchyard.Proofs.Lap
import Switchyard.Proofs.LastPublished
import Switchyard.Proofs.Launch
import Switchyard.Proofs.MissedWatchers
import Switchyard.Proofs.Naming
import Switchyard.Proofs.PushedFirst
import Switchyard.Proofs.QueueAnswers
import Switchyard.Proofs.QueueBreakdown
import Switchyard.Proofs.QueueClosing
import Switchyard.Proofs.QueueDrain
import Switchyard.Proofs.QueuePlaces
import Switchyard.Proofs.QueueRest
import Switchyard.Proofs.QueueStep
import Switchyard.Proofs.References
import Switchyard.Proofs.Refusals
import Switchyard.Proofs.RegisterKind
import Switchyard.Proofs.Replay
import Switchyard.Proofs.Retargeting
import Switchyard.Proofs.RetryBudget
import Switchyard.Proofs.Rotation
import Switchyard.Proofs.Routing
import Switchyard.Proofs.SceneStep
import Switchyard.Proofs.Seeding
import Switchyard.Proofs.Selection
import Switchyard.Proofs.SiteStep
import Switchyard.Proofs.Subscriptions
import Switchyard.Proofs.Targets
import Switchyard.Proofs.TrafficLedger
import Switchyard.Proofs.TrafficStep
import Switchyard.Proofs.Transparency
import Switchyard.Proofs.Trimming
import Switchyard.Proofs.Unbroken
import Switchyard.Proofs.UnknownNames
import Switchyard.Queue.Channel
import Switchyard.Queue.Pool
import Switchyard.Queue.Refusal
import Switchyard.Queue.Service
import Switchyard.Queue.Submission
import Switchyard.Rehearsal.Floor
import Switchyard.Rehearsal.Script
import Switchyard.Rehearsal.Stage
import Switchyard.Retry.Backoff
import Switchyard.Retry.Policy
import Switchyard.Retry.Tries
import Switchyard.Signal
import Switchyard.Span
import Switchyard.Store
import Switchyard.Text.Blank
import Switchyard.Text.JsonText
import Switchyard.Text.Quoted
import Switchyard.Text.Split
import Switchyard.Toml.Blank
import Switchyard.Toml.Document
import Switchyard.Toml.Moment
import Switchyard.Toml.Number
import Switchyard.Toml.Quoted
import Switchyard.Toml.Table
import Switchyard.Toml.Value
import Switchyard.Topology.Cache
import Switchyard.Topology.Directory
import Switchyard.Topology.Faults
import Switchyard.Topology.Follower
import Switchyard.Topology.History
import Switchyard.Topology.Instance
import Switchyard.Topology.Registry
import Switchyard.Topology.Scene
import Switchyard.Transport.Client
import Switchyard.Unicode.Bidi
import Switchyard.Unicode.CombiningClass
import Switchyard.Unicode.Decomposition
import Switchyard.Unicode.DomainMapping
import Switchyard.Unicode.Hangul
import Switchyard.Unicode.Joining
import Switchyard.Unicode.Mark
import Switchyard.Unicode.Normal
import Switchyard.Unicode.RunTable
import Switchyard.Unicode.Visible
import Switchyard.Url.Authority
import Switchyard.Url.Domain
import Switchyard.Url.Fault
import Switchyard.Url.Ipv4
import Switchyard.Url.Ipv6
import Switchyard.Url.Percent
import Switchyard.Url.Punycode
import Switchyard.Url.Retarget
import Switchyard.Url.Scheme
