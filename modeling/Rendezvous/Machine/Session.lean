import Rendezvous.Machine.Site
import Rendezvous.Net.WebSocket
import Rendezvous.Sync.Handshake
import Std.Async.DNS

/-!
# Rendezvous.Machine.Session

Sessions with a broker, and the driver that has them.

* `Session`, `Session.dial`;
* `Site.drive`: the driver of a running node.
-/

namespace Rendezvous.Machine

open Std.Async

/-- A session with a broker. -/
structure Session where
  wire : Wire
  inbox : IO.Ref WebSocket.Inbox

namespace Session

/-- Sends a message. Answers whether that was possible. -/
def send (s : Session) (kind : WebSocket.Kind) (payload : Bytes) : IO Bool := do
  s.wire.put (WebSocket.encode (← IO.getRandomBytes 4).toList kind payload)

/-- Sends a message of the driver. -/
def say (s : Session) (f : Sync.Frame) : IO Bool := s.send .text (Bytes.ofString f.render)

/-- What a message is to the driver. -/
def arrival : WebSocket.Message → Sync.Arrival
  | .text t => .text t
  | .binary _ | .ping _ | .pong => .other
  | .close => .close
  | .malformed => .failure "malformed message"

/-- What has arrived, if anything has. -/
partial def arrived? (s : Session) : IO (Option Sync.Arrival) := do
  s.wire.look
  match WebSocket.next (← s.wire.arrived.get) with
  | .malformed => return some (.failure "malformed message")
  | .incomplete =>
    match ← s.wire.reception.get with
    | .going => return none
    | .ended => return some .ended
    | .broken => return some (.failure "connection lost")
  | .piece p rest =>
    s.wire.arrived.set rest
    match ← s.inbox.modifyGet fun i => let (i, m) := i.add p; (m, i) with
    | none => s.arrived?
    | some m =>
      if let .ping bytes := m then discard (s.send .pong bytes)
      return some (arrival m)

/-- Takes leave of the broker. -/
def finish (s : Session) : IO Unit := do
  discard (s.send .close [])
  s.wire.abandon

/-- What comes of something that takes time, if it comes before a moment. -/
partial def await {α : Type} (task : AsyncTask α) (deadline : Nat) :
    IO (Except String α) := do
  if ← IO.hasFinished task then
    return (← EIO.toBaseIO task.block).mapError toString
  if deadline ≤ (← IO.monoMsNow) then return .error "timed out"
  IO.sleep pause
  await task deadline

/-- The addresses of a host. -/
def resolve (host : Url.Host) (deadline : Nat) : IO (Except String (List Std.Net.IPAddr)) := do
  let name := (host.toText.dropWhile (· = '[')).copy.dropEndWhile (· = ']') |>.copy
  match ← EIO.toBaseIO (EAsync.asTask (DNS.getAddrInfo name "")) with
  | .error e => return .error (toString e)
  | .ok task => return (← await task deadline).map Array.toList

/-- The address of a port. -/
def atPort (port : Nat) : Std.Net.IPAddr → Std.Net.SocketAddress
  | .v4 a => .v4 ⟨a, UInt16.ofNat port⟩
  | .v6 a => .v6 ⟨a, UInt16.ofNat port⟩

/-- Connects to the first of some addresses that can be reached. -/
def connect (deadline : Nat) : List Std.Net.SocketAddress →
    IO (Except String TCP.Socket.Client)
  | [] => return .error "no address to connect to"
  | a :: rest => do
    let client ← TCP.Socket.Client.mk
    match ← EIO.toBaseIO (EAsync.asTask (client.connect a)) with
    | .error e => return .error (toString e)
    | .ok task =>
      match ← await task deadline, rest with
      | .ok (), _ => return .ok client
      | .error e, [] => return .error e
      | .error _, rest => connect deadline rest

/-- Waits for the head of the answer to a request, and checks it. -/
partial def begun (w : Wire) (key : String) (deadline : Nat) : IO (Except String Unit) := do
  w.look
  match WebSocket.splitHead? [] (← w.arrived.get) with
  | some (head, rest) =>
    w.arrived.set rest
    return WebSocket.check key ((Bytes.toString? head).getD "")
  | none =>
    if (← w.reception.get) ≠ .going then return .error "connection closed"
    if deadline ≤ (← IO.monoMsNow) then return .error "timed out"
    IO.sleep pause
    begun w key deadline

/-- Waits until the broker lets the driver in or turns it away. -/
partial def admitted (s : Session) (deadline : Nat) : IO (Except String Unit) := do
  match ← s.arrived? with
  | some .other => s.admitted deadline
  | some a => return Sync.Handshake.outcome [a]
  | none =>
    if deadline ≤ (← IO.monoMsNow) then return Sync.Handshake.outcome []
    IO.sleep pause
    s.admitted deadline

/-- Says what a driver says first, and waits for what comes of it. -/
def introduce (s : Session) (c : Sync.BrokerConfig) (deadline : Nat) :
    IO (Except String Unit) := do
  unless ← s.say (Sync.Handshake.greeting c.adminKey c.origin) do return .error "connection lost"
  match ← s.admitted deadline with
  | .error e => return .error e
  | .ok () =>
    if ← s.say Sync.Handshake.subscription then return .ok () else return .error "connection lost"

/-- Opens a session on a connection. -/
def establish (c : Sync.BrokerConfig) (u : SocketUrl) (client : TCP.Socket.Client)
    (deadline : Nat) : IO (Except String Session) := do
  let w ← Wire.ofClient client fun _ _ _ => return ()
  let key := Base64.encode (← IO.getRandomBytes 16).toList
  unless ← w.put (Bytes.ofString (WebSocket.request u key)) do return .error "connection lost"
  match ← begun w key deadline with
  | .error e => return .error e
  | .ok () =>
    let s : Session := ⟨w, ← IO.mkRef .empty⟩
    return (← s.introduce c deadline).map fun () => s

/-- Opens a session with a broker. -/
def dial (c : Sync.BrokerConfig) (u : SocketUrl) : IO (Except String Session) := do
  let deadline := (← IO.monoMsNow) + c.connectTimeout.millis
  match ← resolve u.host deadline with
  | .error e => return .error e
  | .ok addrs =>
    match ← connect deadline (addrs.map (atPort (u.port.getD SocketUrl.usualPort))) with
    | .error e => return .error e
    | .ok client => establish c u client deadline

end Session

namespace Site

/-- Waits for a time, or until there is no use in it. -/
partial def rest (deadline : Nat) (stop : IO Bool) : IO Unit := do
  if (← IO.monoMsNow) < deadline then
    unless ← stop do
      IO.sleep pause
      rest deadline stop

/-- Stops the driver. -/
def halt (s : Site) (session : Option Session) : IO Unit := do
  session.forM Session.finish
  discard (s.brokerTurn .cancel)
  discard (s.brokerTurn .learn)
  discard (s.brokerTurn .halt)

/-- What the driver does next while it has a session and sends nothing. -/
def listen (s : Site) (session : Session) : IO Unit := do
  match ← session.arrived? with
  | some a => discard (s.brokerTurn (.arrive a))
  | none => unless ← s.brokerTurn .take do IO.sleep pause

/-- Goes without the broker until a moment. -/
partial def goWithout (s : Site) (deadline : Nat) (stop : IO Bool) : IO Unit := do
  if ← stop then return
  if deadline ≤ (← IO.monoMsNow) then discard (s.brokerTurn .resume)
  else
    unless ← s.brokerTurn .discard do IO.sleep pause
    s.goWithout deadline stop

/-- Waits as long as is due before an attempt to open a session, and begins it. -/
def prepareDial (s : Site) (b : Sync.Broker) (attempt : Nat) (stop : IO Bool) : IO Unit := do
  let most := Backoff.jitterRange attempt b.config.retry.baseDelay b.config.retry.maxDelay
  let jitter ← IO.rand 0 (most - 1)
  let delay := (b.config.retry.delay? attempt jitter).getD 0
  rest ((← IO.monoMsNow) + delay) stop
  unless ← stop do discard (s.brokerTurn (.dial jitter))

/-- Runs the driver until it has ended, or is to stop. -/
partial def drive (s : Site) (session : Option Session) (stop : IO Bool) :
    IO Ending := do
  match ← s.broker.get with
  | none => return .ok
  | some b =>
    match b.phase, session with
    | .finished (.error e), _ => return .error e.message
    | .finished (.ok ()), _ => return .ok
    | .crashed _, _ => return .panicked (some "attempt to add with overflow")
    | .ready, _ =>
      discard (s.brokerTurn .start)
      s.drive session stop
    | .waiting _, some session =>
      session.wire.abandon
      s.drive none stop
    | .waiting attempt, none =>
      if ← stop then s.halt none else s.prepareDial b attempt stop
      s.drive none stop
    | .dialing _, _ =>
      let dialled ← Session.dial b.config b.url
      discard (s.brokerTurn (.answer (dialled.map fun _ => ())))
      s.drive dialled.toOption stop
    | .connected, some session =>
      if ← stop then s.halt session else s.listen session
      s.drive session stop
    | .sending, some session =>
      let sent ← b.pending.elim (return false) fun o => session.say o.frame
      discard (s.brokerTurn (.deliver sent))
      s.drive session stop
    | .connected, none =>
      discard (s.brokerTurn (.arrive .ended))
      s.drive none stop
    | .sending, none =>
      discard (s.brokerTurn (.deliver false))
      s.drive none stop
    | .localOnly, _ =>
      if ← stop then s.halt none
      else s.goWithout ((← IO.monoMsNow) + b.config.localOnlyRetry.millis) stop
      s.drive none stop

end Site

end Rendezvous.Machine
