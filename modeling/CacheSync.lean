import CacheSync.Cache.Apply
import CacheSync.Cache.Call
import CacheSync.Cache.Guarded
import CacheSync.Cache.Shelf
import CacheSync.Cache.Store
import CacheSync.Channel.Basic
import CacheSync.Channel.Error
import CacheSync.Channel.Hub
import CacheSync.Cluster.Basic
import CacheSync.Cluster.Course
import CacheSync.Cluster.Feeding
import CacheSync.Cluster.Request
import CacheSync.Cluster.Run
import CacheSync.Cluster.Scene
import CacheSync.Cluster.Schedule
import CacheSync.Cluster.Sending
import CacheSync.Cluster.Session
import CacheSync.Cluster.Thread
import CacheSync.Config.Bus
import CacheSync.Config.Cache
import CacheSync.Config.Dispatch
import CacheSync.Config.Error
import CacheSync.Config.Policy
import CacheSync.Config.Recovery
import CacheSync.Decimal.Binary64
import CacheSync.Decimal.Layout
import CacheSync.Decimal.Reader
import CacheSync.Decimal.Shortest
import CacheSync.Event.Basic
import CacheSync.Event.Hash
import CacheSync.Health
import CacheSync.Json.Access
import CacheSync.Json.Number
import CacheSync.Json.Octet
import CacheSync.Json.Printer
import CacheSync.Json.Reader
import CacheSync.Json.Text
import CacheSync.Json.Tree
import CacheSync.Json.Value
import CacheSync.Metric.Catalogue
import CacheSync.Metric.Meter
import CacheSync.Node.Basic
import CacheSync.Node.Core
import CacheSync.Node.Demand
import CacheSync.Node.Error
import CacheSync.Node.Exchange
import CacheSync.Node.Sending
import CacheSync.Recovery.Call
import CacheSync.Recovery.Ledger
import CacheSync.Recovery.Rehearsal
import CacheSync.Recovery.Rescue
import CacheSync.Recovery.Retry
import CacheSync.Recovery.Signal
import CacheSync.Report
import CacheSync.Ring.Basic
import CacheSync.Ring.Shift
import CacheSync.Ring.Striped
import CacheSync.Ring.Waiting
import CacheSync.Ring.Workers
import CacheSync.Settings.Basic
import CacheSync.Settings.Draft
import CacheSync.Settings.Environment
import CacheSync.Settings.Error
import CacheSync.Settings.Level
import CacheSync.Settings.Path
import CacheSync.Settings.Setting
import CacheSync.Side
import CacheSync.Table
import CacheSync.Text.Blank
import CacheSync.Text.Utf8
import CacheSync.Time.Clock
import CacheSync.Time.Duration
import CacheSync.Time.Moment
import CacheSync.Timestamps
import CacheSync.Toml.Calendar
import CacheSync.Toml.Document
import CacheSync.Toml.Reader
import CacheSync.Toml.Scalar
import CacheSync.Toml.Text
import CacheSync.Toml.Value
import CacheSync.Wire.Decode
import CacheSync.Wire.Encode
import CacheSync.Wire.Message
import CacheSync.Proofs.Json.Nesting
import CacheSync.Proofs.Json.Portable
import CacheSync.Proofs.Json.Scalars
import CacheSync.Proofs.Json.Trees
import CacheSync.Proofs.Json.Spelling
import CacheSync.Proofs.Json.Literals
import CacheSync.Proofs.Json.Skipping
import CacheSync.Proofs.Json.Keeping
import CacheSync.Proofs.Time.Calendar
import CacheSync.Proofs.Wire.RoundTrip
import CacheSync.Proofs.Wire.Arrival
import CacheSync.Proofs.Wire.Refusal
import CacheSync.Proofs.Wire.Fields
import CacheSync.Proofs.Wire.Tolerance
import CacheSync.Proofs.Cache.Changes
import CacheSync.Proofs.Cache.Alterations
import CacheSync.Proofs.Config.Validated
import CacheSync.Proofs.Config.Rules
import CacheSync.Proofs.Config.Acceptance
import CacheSync.Proofs.Node.View
import CacheSync.Proofs.Node.Replication
import CacheSync.Proofs.Node.Telling
import CacheSync.Proofs.Node.Spreading
import CacheSync.Proofs.Node.Fates
import CacheSync.Proofs.Coherence.Exchange
import CacheSync.Proofs.Cluster.Run
import CacheSync.Proofs.Cluster.Sending
import CacheSync.Proofs.Cluster.Traffic
import CacheSync.Proofs.Cluster.NoEcho
import CacheSync.Proofs.Coherence.Replicated
import CacheSync.Proofs.Ring.Queue
import CacheSync.Proofs.Ring.Shift
import CacheSync.Proofs.Ring.Stripes
import CacheSync.Proofs.Coherence.Route
import CacheSync.Proofs.Coherence.Striped
import CacheSync.Proofs.Coherence.Installed
import CacheSync.Proofs.Cluster.Feeding
import CacheSync.Proofs.Node.Latest
import CacheSync.Proofs.Node.Invalidation
import CacheSync.Proofs.Coherence.Invalidated
import CacheSync.Proofs.Ring.Load
import CacheSync.Proofs.Node.Working
import CacheSync.Proofs.Node.Life
import CacheSync.Proofs.Node.Rosters
import CacheSync.Proofs.Node.Demands
import CacheSync.Proofs.Node.Hooks
import CacheSync.Proofs.Cluster.Working
import CacheSync.Proofs.Cluster.Course
import CacheSync.Proofs.Cluster.Passage
import CacheSync.Proofs.Cluster.Life
import CacheSync.Proofs.Cluster.Wellness
import CacheSync.Proofs.Cluster.Outbox
import CacheSync.Proofs.Cluster.Account
import CacheSync.Proofs.Cluster.Attempts
import CacheSync.Proofs.Cluster.Strides
import CacheSync.Proofs.Cluster.Producing
import CacheSync.Proofs.Cluster.Solo
import CacheSync.Proofs.Cluster.Apart
import CacheSync.Proofs.Cluster.Losses
import CacheSync.Proofs.Cluster.Partings
import CacheSync.Proofs.Cluster.Scenes
import CacheSync.Proofs.Cluster.Motions
import CacheSync.Proofs.Cluster.Toll
import CacheSync.Proofs.Secrecy.Values
import CacheSync.Proofs.Secrecy.Crews
import CacheSync.Proofs.Secrecy.Nodes
import CacheSync.Proofs.Secrecy.Steps
import CacheSync.Proofs.Secrecy.Threads
import CacheSync.Proofs.Secrecy.Requests
import CacheSync.Proofs.Secrecy.Courses
import CacheSync.Proofs.Cache.Outcomes
import CacheSync.Proofs.Cache.Journal
import CacheSync.Proofs.Timestamps.History
import CacheSync.Proofs.Timestamps.Upkeep
import CacheSync.Proofs.Ring.Layout
import CacheSync.Proofs.Ring.Lanes
import CacheSync.Proofs.Ring.Refinement
import CacheSync.Proofs.Recovery.Backoff
import CacheSync.Proofs.Recovery.Retries
import CacheSync.Proofs.Recovery.Rescue
import CacheSync.Proofs.Recovery.Shares
import CacheSync.Proofs.Recovery.Bookkeeping
