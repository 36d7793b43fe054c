import Rendezvous.Machine.Sockets
import Rendezvous.Metrics.Node
import Rendezvous.Net.Connections
import Rendezvous.Node.Run
import Rendezvous.Relay.Agenda
import Rendezvous.Discovery.Conversation
import Std.Time

/-!
# Rendezvous.Machine.Site

A running node: its parts, each in a place where the tasks and connections of the node find
it and change it, one at a time.

* `Site`, `Site.ofNode`;
* `Site.publish`, `Site.relayTurn`, `Site.brokerTurn`: changes, with what is counted of them.
-/

namespace Rendezvous.Machine

/-- The time of day. -/
def timeOfDay : IO Instant := do
  return (← Std.Time.Timestamp.now).toMillisecondsSinceUnixEpoch.toInt.toNat

/-- A running node. -/
structure Site where
  node : Node
  /-- When it began, by the machine's clock. -/
  started : Nat
  store : IO.Ref Store
  relay : IO.Ref Relay.Service
  /-- The streams of the relay's handlers. -/
  wires : IO.Ref (Table Nat Wire)
  broker : IO.Ref (Option Sync.Broker)
  connections : IO.Ref Connections
  bandwidth : IO.Ref Bandwidth
  registry : IO.Ref Registry

namespace Site

/-- A node that begins to run. -/
def ofNode (n : Node) : IO Site :=
  return { node := n, started := ← IO.monoMsNow, store := ← IO.mkRef n.store,
           relay := ← IO.mkRef n.relay, wires := ← IO.mkRef [], broker := ← IO.mkRef n.broker,
           connections := ← IO.mkRef .none,
           bandwidth := ← IO.mkRef (.withPeerLimit Bandwidth.defaultPeerLimit),
           registry := ← IO.mkRef Registry.empty.describeAll.buildInfo }

/-- Counts bytes of a connection. -/
def countBytes (s : Site) (d : Direction) (peer : Option String) (n : Nat) : IO Unit :=
  s.bandwidth.modify fun b => b.record d peer n

/-! ### The broker -/

/-- A driver that has forgotten what it did. -/
def withoutHistory (b : Sync.Broker) : Sync.Broker :=
  { b with accepted := [], sent := [], dropped := [], refused := 0, tries := [], handled := [] }

/-- The metrics of what a driver did. -/
def countChanges (b : Sync.Broker) (r : Registry) : Registry :=
  let name := Sync.Broker.name
  let r := b.sent.foldl (fun r o => r.syncEvent name "out" o.event.kind) r
  let r := b.handled.foldl (fun r e => r.syncEvent name "in" e.kind) r
  let r := b.dropped.foldl (fun r d => r.syncDropped name d.2.name) r
  (List.range b.refused).foldl (fun r _ => r.syncDropped name Sync.DropReason.queueFull.name) r

/-- Takes over what was done on other nodes. -/
def applyAll (now : Instant) (s : Store) (es : List Sync.Event) : Store :=
  es.foldl (fun s e => (Discovery.applyEvent s now e).1) s

/-- Counts what the driver did, and makes it forget. -/
def settleBroker (s : Site) : IO Unit := do
  let done ← s.broker.modifyGet fun b => (b, b.map withoutHistory)
  if let some b := done then
    let now ← timeOfDay
    s.registry.modify (countChanges b)
    unless b.handled.isEmpty do s.store.modify fun store => applyAll now store b.handled

/-- Takes a turn of the driver, if it can be taken. Answers whether it was. -/
def brokerTurn (s : Site) (t : Sync.Broker.BrokerTurn) : IO Bool := do
  let taken ← s.broker.modifyGet fun b =>
    match b.bind (·.step? t) with
    | some b => (true, some b)
    | none => (false, b)
  s.settleBroker
  return taken

/-- Tells the driver of a change. -/
def publish (s : Site) (a : Sync.Announcement) : IO Unit := discard (s.brokerTurn (.publish a))

/-! ### The relay -/

/-- Counts what the relay did, and makes it forget. -/
def settleRelay (s : Site) : IO Unit := do
  let r ← s.relay.modifyGet fun r => (r, { r with told := [], pairs := [], outcomes := [] })
  s.registry.modify fun g =>
    (r.outcomes.foldl (fun g o => g.circuit o.name) g).relayActive r.slots.active
      r.reservations.length

/-- Takes the first of some turns of the relay that can be taken. Answers whether there was
one. -/
def relayTurn (s : Site) (turns : List Relay.RelayTurn) : IO Bool := do
  let taken ← s.relay.modifyGet fun r =>
    match r.first? turns with
    | some r => (true, r)
    | none => (false, r)
  s.settleRelay
  return taken

end Site

end Rendezvous.Machine
