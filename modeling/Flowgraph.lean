import Flowgraph.CommandLine.Host
import Flowgraph.Gateway.Basic
import Flowgraph.Log.Basic
import Flowgraph.Main
import Flowgraph.Schedule.Scheduler
import Flowgraph.Proofs.Concurrent.Events
import Flowgraph.Proofs.Concurrent.Isolation
import Flowgraph.Proofs.Concurrent.LastRun
import Flowgraph.Proofs.Concurrent.Lifecycle
import Flowgraph.Proofs.Concurrent.Reused
import Flowgraph.Proofs.Concurrent.Running
import Flowgraph.Proofs.Concurrent.Session
import Flowgraph.Proofs.Concurrent.StoredGraphs
import Flowgraph.Proofs.Concurrent.Updates
import Flowgraph.Proofs.Gateway.Refusals
import Flowgraph.Proofs.Graph.Submitted
import Flowgraph.Proofs.Run.Cancellation
import Flowgraph.Proofs.Session.Interchangeable
import Flowgraph.Proofs.Store.Log
import Flowgraph.Proofs.Graph.Specified
import Flowgraph.Proofs.Store.Damaged
import Flowgraph.Proofs.Store.ReadBack
import Flowgraph.Proofs.Concurrent.Undisturbed
import Flowgraph.Proofs.Session.Background
import Flowgraph.Proofs.Concurrent.Played
import Flowgraph.Proofs.Schedule.Firing
import Flowgraph.Proofs.Schedule.Runs
import Flowgraph.Proofs.Schedule.FirstTick
import Flowgraph.Proofs.Flow.InMemory
import Flowgraph.Proofs.Flow.Resubmit
import Flowgraph.Proofs.Flow.Update
import Flowgraph.Proofs.Run.Limit
import Flowgraph.Proofs.Run.Routing
import Flowgraph.Proofs.Handler.Catalog
import Flowgraph.Proofs.Handler.Template
import Flowgraph.Proofs.Handler.Condition
import Flowgraph.Proofs.Config.Variables
import Flowgraph.Proofs.Agent.Transient
import Flowgraph.Proofs.Agent.Waits
import Flowgraph.Proofs.Agent.Conversation
import Flowgraph.Proofs.Number.Shortest
import Flowgraph.Proofs.Json.ReadBack
import Flowgraph.Proofs.Log.Complete
import Flowgraph.Proofs.Json.Bounds
import Flowgraph.Proofs.Store.Reread
import Flowgraph.Proofs.CommandLine.Import
