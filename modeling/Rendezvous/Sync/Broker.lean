import Rendezvous.Lifecycle.Crash
import Rendezvous.Retry.Policy
import Rendezvous.Sync.Driver
import Rendezvous.Sync.Handshake
import Rendezvous.Url.Socket

/-!
# Rendezvous.Sync.Broker

The driver that carries changes through a broker. A change is queued at once and sent when
there is a session. A lost session is followed by attempts at a new one, as many as the retry
policy allows; after that a driver that the node cannot do without fails, and any other drops
what is queued for a while and then tries again.

The driver, the broker and the node take turns in any order. Each turn is a
`BrokerTurn`; `Broker.step?` says when it can be taken and what it does.

* `BrokerConfig`, `Broker`, `Broker.make`;
* `Broker.publish`, `Broker.heard?`: what the node asks of the driver, and what it hears;
* `Broker.step?`, `Broker.run?`: the turns.
-/

namespace Rendezvous.Sync

/-- The settings of the driver. -/
structure BrokerConfig where
  /-- The address of the broker. -/
  server : String
  adminKey : String
  /-- What clients are told in place of the address. -/
  publicAddr : Option String
  /-- The name by which the node's own changes are known. -/
  origin : String
  /-- Whether the node is to end when the broker cannot be reached. -/
  mandatory : Bool
  retry : RetryPolicy
  connectTimeout : Duration
  queueCapacity : Nat
  /-- How long a node goes without the broker before it tries again. -/
  localOnlyRetry : Duration
deriving Repr, DecidableEq, Inhabited

namespace BrokerConfig

/-- The settings for a broker with a key, and usual ones besides. -/
def usual (server adminKey origin : String) : BrokerConfig :=
  { server, adminKey, publicAddr := none, origin, mandatory := false, retry := .usual,
    connectTimeout := .ofSecs 10, queueCapacity := 1024, localOnlyRetry := .ofSecs 60 }

/-- How many changes the queue holds: one at least. -/
def places (c : BrokerConfig) : Nat := Nat.max c.queueCapacity 1

end BrokerConfig

/-- A change that was taken into the queue. -/
structure Outbound where
  /-- How many were taken before it. -/
  number : Nat
  event : Event
  /-- How often it could not be sent. -/
  failures : Nat
deriving DecidableEq

/-- The message that carries a change. -/
def Outbound.frame (o : Outbound) : Frame :=
  .publish (channelFor o.event.record.namespaceName) o.event.payload

/-- Why a change is dropped. -/
inductive DropReason where
  /-- There was no place in the queue. -/
  | queueFull
  /-- It could not be sent, as often as is allowed. -/
  | retriesExhausted
  /-- There was no session, nor a prospect of one. -/
  | disconnected
deriving Repr, DecidableEq, Inhabited

/-- The word for a reason. -/
def DropReason.name : DropReason → String
  | .queueFull => "queue_full"
  | .retriesExhausted => "retries_exhausted"
  | .disconnected => "disconnected"

/-- What the driver is doing. -/
inductive BrokerPhase where
  /-- It was not started. -/
  | ready
  /-- It will try to open a session; so many attempts have failed. -/
  | waiting (attempt : Nat)
  /-- It tries to open a session. -/
  | dialing (attempt : Nat)
  /-- There is a session, and nothing is being sent. -/
  | connected
  /-- The pending change is being sent. -/
  | sending
  /-- It goes without the broker for a while. -/
  | localOnly
  | finished (result : Except DriverError Unit)
  | crashed (cause : Crash)

/-- A driver. -/
structure Broker where
  config : BrokerConfig
  url : SocketUrl
  phase : BrokerPhase
  /-- Whether there is a session from before the start. -/
  hasSession : Bool
  /-- The changes that wait, the oldest first. -/
  queue : List Outbound
  /-- The change that was taken out of the queue and is neither sent nor dropped. -/
  pending : Option Outbound
  /-- Whether what is heard is handed on. -/
  subscribed : Bool
  closed : Bool
  /-- Whether the node has asked the driver to stop. -/
  cancelled : Bool
  /-- Whether the driver knows that it is to stop. -/
  stopping : Bool
  /-- The changes taken into the queue so far, the oldest first. -/
  accepted : List Event
  /-- The changes that were sent, in order. -/
  sent : List Outbound
  /-- The changes that were taken into the queue and dropped, in order. -/
  dropped : List (Outbound × DropReason)
  /-- How many changes found no place in the queue. -/
  refused : Nat
  /-- The numbers of changes, one for each time that one was tried. -/
  tries : List Nat
  /-- What was handed on, in order. -/
  handled : List Event

namespace Broker

/-- A driver for a broker. -/
def make (c : BrokerConfig) : Except (Stop DriverError) Broker := do
  match SocketUrl.ofServer c.server with
  | .error e => .error (.error (.badEndpoint e.text))
  | .ok url =>
    Places.demand c.places
    return { config := c, url, phase := .ready, hasSession := false, queue := [],
             pending := none, subscribed := false, closed := false, cancelled := false,
             stopping := false, accepted := [], sent := [], dropped := [], refused := 0,
             tries := [], handled := [] }

/-- The name under which a node has the driver. -/
def name : String := "broker"

/-- Where clients reach the broker. -/
def endpoint (b : Broker) : Endpoint := ⟨name, b.config.publicAddr.getD b.config.server⟩

/-- Why there is no session, with the address that was tried. -/
def connectError (b : Broker) (reason : String) : DriverError := .connect b.url.toText reason

/-! ### Changes of this node -/

/-- Whether the queue takes nothing more, because the driver was closed or has ended. -/
def isOver (b : Broker) : Bool :=
  b.closed || match b.phase with
    | .finished _ | .crashed _ => true
    | _ => false

/-- Takes a change into the queue. One that finds no place is dropped, which is no error. -/
def publish (b : Broker) (a : Announcement) : Broker × Except DriverError Unit :=
  if b.isOver then (b, .error .closed)
  else if b.config.places ≤ b.queue.length then ({ b with refused := b.refused + 1 }, .ok ())
  else
    let event := a.toEvent b.config.origin
    ({ b with queue := b.queue ++ [⟨b.accepted.length, event, 0⟩],
              accepted := b.accepted ++ [event] }, .ok ())

/-- The driver as a node has it; the world that it changes is its own state. -/
def driver (b : Broker) : Driver Broker :=
  { name, capability := .both, url := some b.endpoint.url, publish := fun a b => b.publish a }

/-! ### Changes of other nodes -/

/-- Whether one text begins with another. -/
def beginsWith (start s : String) : Bool := start.toList.isPrefixOf s.toList

/-- The change that a text from the broker tells of, if it is another node's. -/
def heard? (origin text : String) : Option Event :=
  match Frame.read text with
  | .ok (.message channel payload) =>
    if beginsWith channelStart channel then
      match Json.decodeValue Event.decoder payload with
      | .ok event => if event.origin = origin then none else some event
      | .error _ => none
    else none
  | _ => none

/-- Hands on what a text from the broker tells. -/
def hear (b : Broker) (text : String) : Broker :=
  match heard? b.config.origin text with
  | some event => if b.subscribed then { b with handled := b.handled ++ [event] } else b
  | none => b

/-! ### Turns -/

/-- A turn of the driver, the broker or the node. -/
inductive BrokerTurn where
  /-- The node tells of a change. -/
  | publish (a : Announcement)
  /-- The node wants to hear of changes. -/
  | subscribe
  /-- The node has the driver open a session before the start. -/
  | connect (outcome : Except String Unit)
  /-- The node starts the driver. -/
  | start
  /-- The node asks the driver to stop. -/
  | cancel
  /-- The node closes the driver. -/
  | close
  /-- The driver learns that the node has asked it to stop. -/
  | learn
  /-- The driver ends, because it is to stop. -/
  | halt
  /-- The driver begins to open a session, after a delay to which this much was added. -/
  | dial (jitter : Nat)
  /-- The attempt comes to something. -/
  | answer (outcome : Except String Unit)
  /-- The driver takes the next change out of the queue. -/
  | take
  /-- The sending of the pending change comes to something. -/
  | deliver (success : Bool)
  /-- Something comes from the broker. -/
  | arrive (a : Arrival)
  /-- The driver goes without the broker, and drops the next change. -/
  | discard
  /-- The time without the broker is over. -/
  | resume

/-- The changes that are dropped when the driver goes without the broker. -/
def dropPending (b : Broker) (reason : DropReason) : Broker :=
  match b.pending with
  | some o => { b with pending := none, dropped := b.dropped ++ [(o, reason)] }
  | none => b

/-- Begins to send a change, which is from now on the pending one. -/
def send (b : Broker) (o : Outbound) : Broker :=
  { b with phase := .sending, pending := some o, tries := b.tries ++ [o.number] }

/-- Begins a session. A change that is pending from the last one is sent first. -/
def enter (b : Broker) : Broker :=
  match b.pending with
  | some o => b.send o
  | none => { b with phase := .connected }

/-- The last attempt of a budget has failed. -/
def exhaust (b : Broker) (e : DriverError) : Broker :=
  if b.config.mandatory then { b with phase := .finished (.error e) }
  else { b.dropPending .disconnected with phase := .localOnly }

/-- An attempt to open a session has come to something. -/
def settle (b : Broker) (attempt : Nat) : Except String Unit → Broker
  | .ok () => b.enter
  | .error reason =>
    if attempt + 1 < b.config.retry.attempts then { b with phase := .waiting (attempt + 1) }
    else b.exhaust (b.connectError reason)

/-- The sending of a change has come to something. After a failure the session is lost. -/
def delivered (b : Broker) (o : Outbound) (success : Bool) : Broker :=
  if success then { b with phase := .connected, pending := none, sent := b.sent ++ [o] }
  else
    let o := { o with failures := o.failures + 1 }
    let b := { b with phase := .waiting 0, pending := some o }
    if b.config.retry.attempts ≤ o.failures then b.dropPending .retriesExhausted else b

/-- Closes the driver. -/
def close (b : Broker) : Broker := { b with closed := true, stopping := true, hasSession := false }

/-- Takes a turn, if it can be taken. -/
def step? (b : Broker) : BrokerTurn → Option Broker
  | .publish a => some (b.publish a).1
  | .subscribe => some { b with subscribed := true }
  | .connect outcome =>
    if b.closed then none
    else
      match outcome with
      | .ok () => some { b with hasSession := true }
      | .error _ => some b
  | .start =>
    match b.phase with
    | .ready =>
      some { b with stopping := b.closed, hasSession := false,
                    phase := if b.hasSession then .connected else .waiting 0 }
    | _ => none
  | .cancel => some { b with cancelled := true }
  | .close => some b.close
  | .learn => if b.cancelled then some { b with stopping := true } else none
  | .halt =>
    match b.phase with
    | .waiting _ | .connected | .localOnly =>
      if b.stopping then some { b with phase := .finished (.ok ()) } else none
    | _ => none
  | .dial jitter =>
    match b.phase with
    | .waiting attempt =>
      if !b.config.retry.allows attempt jitter then none
      else
        match b.config.retry.delay? attempt jitter with
        | some _ => if b.stopping then none else some { b with phase := .dialing attempt }
        | none => some { b with phase := .crashed .delayOverflow }
    | _ => none
  | .answer outcome =>
    match b.phase with
    | .dialing attempt => some (b.settle attempt outcome)
    | _ => none
  | .take =>
    match b.phase, b.queue with
    | .connected, o :: rest => some ({ b with queue := rest }.send o)
    | _, _ => none
  | .deliver success =>
    match b.phase, b.pending with
    | .sending, some o => some (b.delivered o success)
    | _, _ => none
  | .arrive a =>
    match b.phase with
    | .connected =>
      match a with
      | .text s => some (b.hear s)
      | .other => some b
      | .close | .ended | .failure _ => some { b with phase := .waiting 0 }
    | _ => none
  | .discard =>
    match b.phase, b.queue with
    | .localOnly, o :: rest =>
      some { b with queue := rest, dropped := b.dropped ++ [(o, .disconnected)] }
    | _, _ => none
  | .resume =>
    match b.phase with
    | .localOnly => some { b with phase := .waiting 0 }
    | _ => none

/-- Takes turns one after the other, if they can all be taken. -/
def run? (b : Broker) : List BrokerTurn → Option Broker
  | [] => some b
  | t :: ts =>
    match b.step? t with
    | some b => b.run? ts
    | none => none

end Broker

end Rendezvous.Sync
