import Rendezvous.Machine.Site
import Rendezvous.Net.Negotiation

/-!
# Rendezvous.Machine.Streams

The streams of a running node: the one on which clients ask for records, and those of the
relay.

* `Site.converse`: a client asks;
* `Site.relayStream`: a handler of the relay;
* `Site.serve`: a connection, from the choice of its protocol on.
-/

namespace Rendezvous.Machine.Site

/-- A moment of the machine's clock, some seconds from now. -/
def inSeconds (secs : Nat) : IO Nat := return (← IO.monoMsNow) + secs * 1000

/-! ### Records -/

/-- Gives a conversation a request, and takes note of what comes of it. -/
def receive (s : Site) (c : Discovery.Conversation) (body : Bytes) :
    IO Discovery.Conversation := do
  let now ← timeOfDay
  let c ← s.store.modifyGet fun store =>
    let c := Discovery.Conversation.receive s.node.endpoints { c with store } now body
    (c, c.store)
  s.registry.modify fun r => c.counted.foldl (fun r l => r.request l.1 l.2) r
  c.announced.forM s.publish
  return c

/-- Answers requests until the client is silent for too long, leaves, or is to leave. -/
partial def converse (s : Site) (w : Wire) (c : Discovery.Conversation) (stop : IO Bool) :
    IO Unit := do
  match ← w.hear (← inSeconds Discovery.Conversation.idleSecs) stop with
  | .frame body =>
    let c ← s.receive c body
    if let some peer := c.client then w.identify peer.toText
    let sent ← c.answers.allM fun r => w.send (Discovery.Conversation.encode r)
    if c.isOpen && sent then
      s.converse w { c with answers := [], announced := [], counted := [] } stop
  | .ended | .broken | .late | .stopped => return

/-! ### Circuits -/

/-- The request on a stream of the relay, or why there is none. -/
def relayRequest (w : Wire) : IO (Except StreamError (Option Relay.Request)) := do
  match ← w.hear (← inSeconds Relay.timeoutSecs) (return false) with
  | .frame body =>
    return (Json.decode Relay.Request.decoder body).map some |>.mapError .malformed
  | .ended => return .ok none
  | .late | .stopped => return .error .timedOut
  | .broken => return .error .broken

/-- The peer that a request is from, if it tells. -/
def requester? : Relay.Request → Option PeerId
  | .reserve peer | .connect peer _ => some peer
  | .accept _ => none

/-- Sends a message of the relay on one of its streams. Answers whether that was possible. -/
def say (s : Site) (stream : Nat) (r : Relay.Response) : IO Bool := do
  match (← s.wires.get).get? stream with
  | some w => w.send (Bytes.ofString r.toJson.render)
  | none => return false

/-- Takes a turn of a circuit, if it can be taken. -/
def spliceTurn (circuit : IO.Ref Relay.Splice) (t : Relay.SpliceTurn) : IO Unit :=
  circuit.modify fun c => (c.step? t).getD c

/-- Tells a circuit what has arrived on a stream. -/
def bring (circuit : IO.Ref Relay.Splice) (way : Relay.Way) (source : Wire) : IO Unit := do
  source.look
  let bytes ← source.arrived.modifyGet fun bytes => (bytes, [])
  unless bytes.isEmpty do spliceTurn circuit (.arrive way bytes)
  if (← source.reception.get) = .ended then spliceTurn circuit (.close way)

/-- Takes the next turn of one direction of a circuit. Answers whether there was one. -/
def carrySome (s : Site) (circuit : IO.Ref Relay.Splice) (way : Relay.Way)
    (source target : Wire) : IO Bool := do
  bring circuit way source
  let go (t : Relay.SpliceTurn) : IO Bool := do
    spliceTurn circuit t
    return true
  let c ← circuit.get
  if c.result.isSome then return true
  let flow := c.flow way
  match flow.stage with
  | .fresh => go (.begin way)
  | .reading =>
    if !flow.arrived.isEmpty then
      go (.read way (min Relay.Splice.chunkLength flow.arrived.length))
    else if flow.closed then
      target.finish
      go (.finish way)
    else if (← source.reception.get) = .broken then go (.fail way)
    else return false
  | .writing chunk rest =>
    if ← target.put rest then
      s.registry.modify fun r => r.relayBytes chunk.length
      go (.write way rest.length)
    else go (.fail way)
  | .done => return false

/-- Carries bytes in both directions until the circuit ends. -/
partial def carry (s : Site) (i : Nat) (circuit : IO.Ref Relay.Splice) (deadline : Option Nat)
    (w other : Wire) : IO Relay.CircuitEnd := do
  if let some ending := (← circuit.get).result then return ending
  if (← s.relay.get).isFired i then spliceTurn circuit .cancel
  if ← deadline.elim (return false) fun d => return d ≤ (← IO.monoMsNow) then
    spliceTurn circuit .expire
  let there ← s.carrySome circuit .forth w other
  let here ← s.carrySome circuit .back other w
  unless there || here do IO.sleep pause
  s.carry i circuit deadline w other

/-- Joins two streams until the circuit ends. -/
def splice (s : Site) (i other : Nat) : IO Relay.CircuitEnd := do
  let limits := (← s.relay.get).limits
  let wires ← s.wires.get
  match wires.get? i, wires.get? other with
  | some w, some w' =>
    let now ← IO.monoMsNow
    let leftover ← w.arrived.modifyGet fun bytes => (bytes, [])
    let leftover' ← w'.arrived.modifyGet fun bytes => (bytes, [])
    s.carry i (← IO.mkRef (.start limits leftover leftover'))
      (limits.maxDuration.map fun d => now + d.millis) w w'
  | _, _ => return .failed

/-- What a handler does with what its client says while it holds a reservation. -/
def hearClient (s : Site) (i : Nat) (w : Wire) (turns : List Relay.RelayTurn) : IO Unit := do
  if ← s.relayTurn turns then return
  match ← w.heard? with
  | none => IO.sleep pause
  | some (.frame body) =>
    discard (s.relayTurn [.hear i (Json.decode Json.anything body).toBool])
  | some _ => discard (s.relayTurn [.hear i false])

/-- Takes the turns of a handler until it has ended. It waits since a moment. -/
partial def relayStream (s : Site) (i : Nat) (w : Wire) (since : Nat) : IO Unit := do
  let go (turns : List Relay.RelayTurn) : IO Unit := do
    unless ← s.relayTurn turns do IO.sleep pause
    s.relayStream i w (← IO.monoMsNow)
  match (← s.relay.get).need i with
  | .nothing => return
  | .turn t | .chance t => go [t]
  | .request =>
    let request ← relayRequest w
    if let .ok (some r) := request then
      if let some peer := requester? r then w.identify peer.toText
    go [.receive i request]
  | .send stream r sent => go [sent (← s.say stream r)]
  | .circuit => go [.register i (.ofRandom (← IO.getRandomBytes 16).toList)]
  | .client turns =>
    s.hearClient i w turns
    s.relayStream i w since
  | .target turns late =>
    let isLate := since + Relay.timeoutSecs * 1000 ≤ (← IO.monoMsNow)
    unless ← s.relayTurn (turns ++ if isLate then [late] else []) do IO.sleep pause
    s.relayStream i w since
  | .carry other => go [.finish i (← s.splice i other)]

/-- A stream of the relay. -/
def relayCall (s : Site) (w : Wire) : IO Unit := do
  let i ← s.relay.modifyGet fun r => (r.handlers.length, (r.step? .call).getD r)
  s.wires.modify (·.insert i w)
  s.relayStream i w (← IO.monoMsNow)
  s.wires.modify (·.erase i)

/-! ### Connections -/

/-- The protocols for which there are handlers. -/
def protocols : List String := [Relay.protocol, Discovery.protocol]

/-- Lets a client choose a protocol, and serves it. -/
def serve (s : Site) (w : Wire) (stop : IO Bool) : IO Unit := do
  match ← w.hear (← inSeconds Negotiation.timeoutSecs) stop with
  | .frame body =>
    let sent ← w.send (Bytes.ofString (Negotiation.answer protocols body))
    match Negotiation.chosen? protocols body with
    | some protocol =>
      if !sent then return
      else if protocol = Relay.protocol then s.relayCall w
      else s.converse w (.start (← s.store.get)) stop
    | none => return
  | .ended | .broken | .late | .stopped => return

end Rendezvous.Machine.Site
