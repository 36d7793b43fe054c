import Rendezvous.Address.Ip
import Rendezvous.Address.List
import Rendezvous.Address.Multiaddr
import Rendezvous.Bytes.Base58
import Rendezvous.Bytes.Base64
import Rendezvous.Bytes.Basic
import Rendezvous.Bytes.Der
import Rendezvous.Bytes.Multibase
import Rendezvous.Bytes.Percent
import Rendezvous.Bytes.Utf8
import Rendezvous.Bytes.Varint
import Rendezvous.Cli.Execution
import Rendezvous.Cli.Flag
import Rendezvous.Cli.Invocation
import Rendezvous.Cli.Parse
import Rendezvous.Cli.Usage
import Rendezvous.Config.Basic
import Rendezvous.Config.FlagFile
import Rendezvous.Config.Problem
import Rendezvous.Curve.Edwards
import Rendezvous.Curve.Weierstrass
import Rendezvous.Data.Table
import Rendezvous.Digest.Sha1
import Rendezvous.Digest.Sha2
import Rendezvous.Discovery.Conversation
import Rendezvous.Discovery.Error
import Rendezvous.Discovery.Message
import Rendezvous.Discovery.Service
import Rendezvous.Json.Debug
import Rendezvous.Json.Decode
import Rendezvous.Json.Node
import Rendezvous.Json.Reader
import Rendezvous.Json.Value
import Rendezvous.Key.Envelope
import Rendezvous.Key.Kind
import Rendezvous.Key.Private
import Rendezvous.Key.Rsa
import Rendezvous.Lifecycle.Crash
import Rendezvous.Lifecycle.Shutdown
import Rendezvous.Lifecycle.State
import Rendezvous.Lifecycle.Supervisor
import Rendezvous.Lifecycle.Timeline
import Rendezvous.Logging.Filter
import Rendezvous.Logging.Settings
import Rendezvous.Machine.Files
import Rendezvous.Machine.Scrapes
import Rendezvous.Machine.Serve
import Rendezvous.Machine.Session
import Rendezvous.Machine.Site
import Rendezvous.Machine.Sockets
import Rendezvous.Machine.Streams
import Rendezvous.Main
import Rendezvous.Metrics.Node
import Rendezvous.Metrics.Registry
import Rendezvous.Metrics.Scrape
import Rendezvous.Net.Bandwidth
import Rendezvous.Net.Binding
import Rendezvous.Net.Connections
import Rendezvous.Net.Framing
import Rendezvous.Net.IdleWatch
import Rendezvous.Net.Listener
import Rendezvous.Net.Negotiation
import Rendezvous.Net.Pipe
import Rendezvous.Net.WebSocket
import Rendezvous.Node.Assembly
import Rendezvous.Node.Error
import Rendezvous.Node.Run
import Rendezvous.Number.Binary64
import Rendezvous.Number.Decimal
import Rendezvous.Number.Modular
import Rendezvous.Pattern.Basic
import Rendezvous.Pattern.Brackets
import Rendezvous.Pattern.Escape
import Rendezvous.Pattern.Reader
import Rendezvous.Pattern.Usable
import Rendezvous.Peer.Id
import Rendezvous.Peer.Identity
import Rendezvous.Proofs.Address.List
import Rendezvous.Proofs.Bytes.Base58
import Rendezvous.Proofs.Bytes.Base64
import Rendezvous.Proofs.Bytes.Basic
import Rendezvous.Proofs.Bytes.Der
import Rendezvous.Proofs.Bytes.Varint
import Rendezvous.Proofs.Cli.Dashes
import Rendezvous.Proofs.Cli.Precedence
import Rendezvous.Proofs.Cli.Spelling
import Rendezvous.Proofs.Config.FlagFile
import Rendezvous.Proofs.Config.PlainFile
import Rendezvous.Proofs.Config.Problem
import Rendezvous.Proofs.Data.Outcome
import Rendezvous.Proofs.Data.Table
import Rendezvous.Proofs.Discovery.Addressing
import Rendezvous.Proofs.Discovery.Answers
import Rendezvous.Proofs.Discovery.Convergence
import Rendezvous.Proofs.Discovery.DefaultLifetime
import Rendezvous.Proofs.Discovery.Dispatch
import Rendezvous.Proofs.Discovery.Lifetimes
import Rendezvous.Proofs.Discovery.Message
import Rendezvous.Proofs.Discovery.Mirror
import Rendezvous.Proofs.Json.Decode
import Rendezvous.Proofs.Json.Number
import Rendezvous.Proofs.Json.Order
import Rendezvous.Proofs.Json.Reader
import Rendezvous.Proofs.Json.Tells
import Rendezvous.Proofs.Json.Text
import Rendezvous.Proofs.Key.Envelope
import Rendezvous.Proofs.Key.Fields
import Rendezvous.Proofs.Key.Private
import Rendezvous.Proofs.Lifecycle.FirstEnding
import Rendezvous.Proofs.Lifecycle.Supervision
import Rendezvous.Proofs.Net.Bandwidth
import Rendezvous.Proofs.Net.IdleWatch
import Rendezvous.Proofs.Node.Assembly
import Rendezvous.Proofs.Peer.Id
import Rendezvous.Proofs.Peer.Identity
import Rendezvous.Proofs.Relay.CircuitId
import Rendezvous.Proofs.Relay.Message
import Rendezvous.Proofs.Relay.Pairing
import Rendezvous.Proofs.Relay.Places
import Rendezvous.Proofs.Relay.Reservations
import Rendezvous.Proofs.Relay.Splice
import Rendezvous.Proofs.Relay.Turns
import Rendezvous.Proofs.Relay.View
import Rendezvous.Proofs.Retry.Attempts
import Rendezvous.Proofs.Retry.Backoff
import Rendezvous.Proofs.Retry.Delays
import Rendezvous.Proofs.Store.Change
import Rendezvous.Proofs.Store.Disk
import Rendezvous.Proofs.Store.Durability
import Rendezvous.Proofs.Store.Horizon
import Rendezvous.Proofs.Store.Invariants
import Rendezvous.Proofs.Store.Journal
import Rendezvous.Proofs.Store.Numbering
import Rendezvous.Proofs.Store.Operations
import Rendezvous.Proofs.Store.Pages
import Rendezvous.Proofs.Store.Record
import Rendezvous.Proofs.Store.Redelivery
import Rendezvous.Proofs.Store.Removal
import Rendezvous.Proofs.Store.Reopening
import Rendezvous.Proofs.Store.Representation
import Rendezvous.Proofs.Store.Rereading
import Rendezvous.Proofs.Store.Restarts
import Rendezvous.Proofs.Store.Standing
import Rendezvous.Proofs.Store.Sweeping
import Rendezvous.Proofs.Store.Volume
import Rendezvous.Proofs.Sync.Abandonment
import Rendezvous.Proofs.Sync.Delivery
import Rendezvous.Proofs.Sync.Endurance
import Rendezvous.Proofs.Sync.Message
import Rendezvous.Proofs.Sync.Turns
import Rendezvous.Proofs.Text.Blank
import Rendezvous.Proofs.Wire.RoundTrip
import Rendezvous.Relay.Agenda
import Rendezvous.Relay.CircuitId
import Rendezvous.Relay.Contest
import Rendezvous.Relay.Limits
import Rendezvous.Relay.Message
import Rendezvous.Relay.Service
import Rendezvous.Relay.Splice
import Rendezvous.Retry.Backoff
import Rendezvous.Retry.Policy
import Rendezvous.Store.Archive
import Rendezvous.Store.Basic
import Rendezvous.Store.Disk
import Rendezvous.Store.Record
import Rendezvous.Store.Shelf
import Rendezvous.Store.Sweeper
import Rendezvous.Store.Volume
import Rendezvous.Sync.Broker
import Rendezvous.Sync.Driver
import Rendezvous.Sync.Event
import Rendezvous.Sync.Frame
import Rendezvous.Sync.Handshake
import Rendezvous.Text.Blank
import Rendezvous.Text.Capital
import Rendezvous.Text.Composed
import Rendezvous.Text.Cut
import Rendezvous.Text.Letter
import Rendezvous.Text.Mark
import Rendezvous.Text.Plain
import Rendezvous.Text.Printable
import Rendezvous.Text.Quoted
import Rendezvous.Text.Ranges
import Rendezvous.Time.Duration
import Rendezvous.Toml.Reader
import Rendezvous.Toml.Value
import Rendezvous.Url.Direction
import Rendezvous.Url.Fold
import Rendezvous.Url.Host
import Rendezvous.Url.Joining
import Rendezvous.Url.Name
import Rendezvous.Url.Punycode
import Rendezvous.Url.Socket
