import Rendezvous.Lifecycle.State
import Rendezvous.Net.Listener
import Rendezvous.Node.Error
import Rendezvous.Relay.Service
import Rendezvous.Sync.Broker

/-!
# Rendezvous.Node.Assembly

A node is put together from its settings, part by part. The first part that cannot be made
is the error, and what was opened before it is closed. Two parts may be missing: without the
broker a node that need not have it runs alone, and without a place to serve them there are
no metrics.

* `Surroundings`: what a node finds where it is assembled;
* `Node`, `Node.assemble`.
-/

namespace Rendezvous

/-- What a node finds where it is assembled. -/
structure Surroundings where
  now : Instant
  /-- Bytes for a new key. -/
  random : Bytes
  /-- Binds a socket while others are bound, and answers which it is: port 0 stands for any
  free one. -/
  bind : (bound : List SocketAddress) → SocketAddress → Except BindFault SocketAddress
  /-- Opens a session with a broker. -/
  dial : Sync.BrokerConfig → SocketUrl → Except String Unit

/-- A node, put together and not yet running. -/
structure Node where
  config : NodeConfig
  identity : Identity
  listeners : List Listener
  /-- The addresses that other nodes are told. -/
  announced : List Multiaddr
  store : Store
  /-- The driver for the broker; without it nothing is carried. -/
  broker : Option Sync.Broker
  relay : Relay.Service
  /-- Where the metrics are served. -/
  exporter : Option SocketAddress
  state : Lifecycle

namespace Node

/-- Checks the settings. -/
def checkConfig (c : NodeConfig) : Except NodeError Unit :=
  match c.problems with
  | [] => .ok ()
  | ps => .error (.config (.invalid ps))

/-- The identity for a key, or a new one. -/
def identityFor (w : Surroundings) (c : IdentityConfig) : Except NodeError Identity :=
  (match c.privateKey with
    | some key => Identity.load key
    | none => Identity.generate .ed25519 0 w.random).mapError .identity

/-- The addresses of a list. -/
def addresses (list : String) : Except NodeError (List Multiaddr) :=
  (Multiaddr.parseList list).mapError .address

/-- Binds a socket. -/
def bindSocket (w : Surroundings) (bound : List SocketAddress) (s : SocketAddress) :
    Except NodeError SocketAddress :=
  (w.bind bound s).mapError fun fault => .host (.cannotBind s fault)

/-- Binds the addresses at which a node can listen, behind some listeners that it has. The
others are left out. -/
def listenAt (w : Surroundings) (maxConnections : Nat) :
    List Listener → List Multiaddr → Except (Stop NodeError) (List Listener)
  | ls, [] => .ok ls
  | ls, a :: rest =>
    match a.socket with
    | .error _ => listenAt w maxConnections ls rest
    | .ok s => do
      let bound ← orStop (bindSocket w (ls.map (·.socket)) s)
      let l ← Listener.make bound maxConnections
      listenAt w maxConnections (ls ++ [l]) rest

/-- The listeners of a node: one at least. -/
def listenersFor (w : Surroundings) (maxConnections : Nat) (addrs : List Multiaddr) :
    Except (Stop NodeError) (List Listener) := do
  match ← listenAt w maxConnections [] addrs with
  | [] => .error (.error (.host .noListeners))
  | l :: ls => return l :: ls

/-- The settings of the driver for the broker, if there is to be one. -/
def brokerConfig? (c : EmitterConfig) (peer : PeerId) : Option Sync.BrokerConfig :=
  match c.isEnabled, c.server, c.adminKey with
  | true, some server, some key =>
    some { Sync.BrokerConfig.usual server key peer.toText with
           publicAddr := c.publicAddr, mandatory := c.mandatory, retry := c.retry,
           connectTimeout := .ofSecs c.connectTimeoutSecs, queueCapacity := c.queueCapacity }
  | _, _, _ => none

/-- An error of the driver for the broker. -/
def brokerError (e : Sync.DriverError) : NodeError := .driver Sync.Broker.name e

/-- The driver with its session. Without one it is an error if the node is to have it. -/
def connectBroker (w : Surroundings) (b : Sync.Broker) : Except NodeError Sync.Broker :=
  match w.dial b.config b.url with
  | .ok () => .ok { b with hasSession := true }
  | .error reason =>
    if b.config.mandatory then .error (brokerError (b.connectError reason)) else .ok b

/-- The driver for the broker, if there is to be one. It is to hear of changes. -/
def brokerFor (w : Surroundings) (c : EmitterConfig) (peer : PeerId) :
    Except (Stop NodeError) (Option Sync.Broker) :=
  match brokerConfig? c peer with
  | none => .ok none
  | some bc =>
    match Sync.Broker.make bc with
    | .error (.crash cause) => .error (.crash cause)
    | .error (.error e) => .error (.error (brokerError e))
    | .ok b => orStop ((connectBroker w b).map fun b => some { b with subscribed := true })

/-- Where the metrics are served, if they can be. -/
def exporterFor (w : Surroundings) (bound : List SocketAddress) (c : MetricsConfig) :
    Option SocketAddress := do
  let s ← SocketAddress.parse? (← c.listen)
  (w.bind bound s).toOption

/-- What comes before the store is opened: the identity, the listeners and the addresses to
announce. -/
def prepare (w : Surroundings) (c : NodeConfig) :
    Except (Stop NodeError) (Identity × List Listener × List Multiaddr) := do
  orStop (checkConfig c)
  let identity ← orStop (identityFor w c.identity)
  let listen ← orStop (addresses c.network.listen)
  let announce ← orStop (addresses c.network.announce)
  let listeners ← listenersFor w c.network.maxConnections listen
  return (identity, listeners,
    if announce.isEmpty then listeners.map fun l => .ofSocket l.socket else announce)

/-- Puts a node together. -/
def assemble (w : Surroundings) (v : Volume) (c : NodeConfig) :
    Volume × Except (Stop NodeError) Node :=
  match prepare w c with
  | .error e => (v, .error e)
  | .ok (identity, listeners, announced) =>
    match v.openStore c.store.location c.store.maxTtl w.now with
    | (v, .error e) => (v, .error (.error (.store c.store.location e)))
    | (v, .ok store) =>
      match brokerFor w c.emitter identity.peerId with
      | .error e => ((v.closeStore store).1, .error e)
      | .ok broker =>
        (v, .ok
          { config := c, identity, listeners, announced, store, broker,
            relay := .start (.ofConfig c.relay),
            exporter := exporterFor w (listeners.map (·.socket)) c.metrics,
            state := .unstarted })

/-! ### Views -/

/-- The names of the drivers. -/
def driverNames (n : Node) : List String :=
  [if n.broker.isSome then Sync.Broker.name else "noop"]

/-- Where clients reach the backends of the drivers. -/
def endpoints (n : Node) : List Sync.Endpoint := (n.broker.map Sync.Broker.endpoint).toList

/-- The sockets at which the node listens. -/
def sockets (n : Node) : List SocketAddress := n.listeners.map (·.socket)

end Node

end Rendezvous
