import MissionControl.Json.Basic
import MissionControl.Json.Read
import MissionControl.Text.Printable
import MissionControl.Text.Letter
import MissionControl.Text.Upper
import MissionControl.Text.Blank
import MissionControl.Text.Case
import MissionControl.Text.Quoted
import MissionControl.Text.Bytes
import MissionControl.Number.Shortest
import MissionControl.Number.Format
import MissionControl.Number.Decimal
import MissionControl.Time.Duration
import MissionControl.Bus.Value
import MissionControl.Bus.Properties
import MissionControl.Bus.Signal
import MissionControl.Bus.Backoff
import MissionControl.Bus.Reply
import MissionControl.Bus.Scripted
import MissionControl.Client.Name
import MissionControl.Client.Filter
import MissionControl.Client.Proxy
import MissionControl.Log.Level
import MissionControl.Config.Service
import MissionControl.Readiness.Descriptor
import MissionControl.Readiness.Status
import MissionControl.Account.Props
import MissionControl.Account.Chain
import MissionControl.Account.Connector
import MissionControl.Account.Session
import MissionControl.Registry.Handlers
import MissionControl.Hub.World
import MissionControl.Hub.Settle
import MissionControl.Hub.Proxies
import MissionControl.Hub.Step
import MissionControl.Hub.Snapshot
import MissionControl.Hub.Run
import MissionControl.Hub.Session
import MissionControl.Event.Handlers
import MissionControl.Event.Session
import MissionControl.Loop.Queue
import MissionControl.Loop.Session
import MissionControl.Request.Notation
import MissionControl.Request.Pure
import MissionControl.Request.Answer
import MissionControl.Cli.Configgen
import MissionControl.Cli.Flags
import MissionControl.Cli.Missionctl
import MissionControl.Cli.Outcome
import MissionControl.Config.Load
import MissionControl.Config.Template
import MissionControl.Files.Tree
import MissionControl.Http.Listen
import MissionControl.Http.Target
import MissionControl.Http.Header
import MissionControl.Http.Request
import MissionControl.Http.Router
import MissionControl.Hub.Link
import MissionControl.Hub.Transport
import MissionControl.Proofs.Hub.Triple
import MissionControl.Log.Event
import MissionControl.Log.Session
import MissionControl.Log.Setup
import MissionControl.Main
import MissionControl.Request.Files
import MissionControl.Request.Programs
import MissionControl.Service.Run
import MissionControl.Toml.Document
import MissionControl.Toml.Lex
import MissionControl.Toml.Scalar
import MissionControl.Toml.Value
import MissionControl.Net.Ip
import MissionControl.Net.Port
import MissionControl.Net.Host
import MissionControl.Wire.Address
import MissionControl.Wire.Daemon
import MissionControl.Wire.Names
import MissionControl.Wire.Value
import MissionControl.Proofs.Hub.Invariant
import MissionControl.Proofs.Hub.Books
import MissionControl.Proofs.Hub.Settling
import MissionControl.Proofs.Hub.Requests
import MissionControl.Proofs.Hub.Broker
import MissionControl.Proofs.Hub.Sessions
import MissionControl.Proofs.Hub.Startup
import MissionControl.Proofs.Hub.Footprint
import MissionControl.Proofs.Hub.Watches
import MissionControl.Proofs.Hub.Subscriptions
import MissionControl.Proofs.Hub.Housekeeping
import MissionControl.Proofs.Event.Emission
import MissionControl.Proofs.Hub.ClosedOwners
import MissionControl.Proofs.Account.Attempts
import MissionControl.Proofs.Hub.Listings
import MissionControl.Proofs.Hub.Hearings
import MissionControl.Proofs.Hub.StartupLock
import MissionControl.Proofs.Hub.WaiterLists
import MissionControl.Proofs.Hub.Completion
import MissionControl.Proofs.Client.Matching
import MissionControl.Proofs.Registry.Ranking
import MissionControl.Proofs.Wire.Unwrap
import MissionControl.Proofs.Account.Online
import MissionControl.Proofs.Readiness.Descriptors
import MissionControl.Proofs.Bus.Signals
import MissionControl.Proofs.Client.Names
import MissionControl.Proofs.Loop.Dispatch
import MissionControl.Proofs.Hub.Introspection
