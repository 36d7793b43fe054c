import Rendezvous.Data.Table
import Rendezvous.Relay.Splice

/-!
# Rendezvous.Relay.Service

The relay pairs peers that cannot reach each other. A target holds a reservation; an
initiator asks for it and gets a circuit, which is announced to the target; the target
accepts the circuit on a stream of its own, and the two streams are joined.

Each stream has a handler. The handlers, their clients and the node take turns in any order.
Each turn is a `RelayTurn`; `Service.step?` says when it can be taken and what it does.
Handlers are named by the order in which their streams came.

* `Relay.Stage`, `Relay.Handler`: what a handler is doing;
* `Relay.Service`, `Service.start`, `Service.step?`, `Service.run?`.
-/

namespace Rendezvous.Relay

/-- How many seconds a client may take for its request, and a target to accept. -/
def timeoutSecs : Nat := 10

/-- How many announcements wait for a target at most. -/
def noticePlaces : Nat := 16

/-- What became of an attempt at a circuit. -/
inductive CircuitOutcome where
  | noReservation
  | rejected
  | timeout
  | aborted
  | opened
  | closed
  | cancelled
  | limitExceeded
  | failed
deriving Repr, DecidableEq, Inhabited

/-- The word for an outcome. -/
def CircuitOutcome.name : CircuitOutcome → String
  | .noReservation => "no_reservation"
  | .rejected => "rejected"
  | .timeout => "timeout"
  | .aborted => "aborted"
  | .opened => "opened"
  | .closed => "closed"
  | .cancelled => "cancelled"
  | .limitExceeded => "limit_exceeded"
  | .failed => "failed"

/-- The outcome of a circuit that was opened. -/
def CircuitEnd.outcome : CircuitEnd → CircuitOutcome
  | .closed => .closed
  | .cancelled => .cancelled
  | .limited _ => .limitExceeded
  | .failed => .failed

/-- Why an initiator's handler no longer waits for the target. -/
inductive Lapse where
  /-- The target did not accept in time, or can no longer. -/
  | timedOut
  /-- The target's handler has ended. -/
  | targetGone (target : PeerId)
  /-- The relay stops. -/
  | cancelled
deriving DecidableEq

namespace Lapse

/-- What the initiator is told. -/
def reply? : Lapse → Option Response
  | .timedOut => some (.error .timeout "target did not accept in time")
  | .targetGone target => some (.error .noReservation (target.toText ++ " went away"))
  | .cancelled => none

/-- The outcome that is counted. -/
def outcome? : Lapse → Option CircuitOutcome
  | .timedOut => some .timeout
  | .targetGone _ => some .noReservation
  | .cancelled => none

end Lapse

/-- What a handler is doing. -/
inductive Stage where
  /-- It has looked at nothing. -/
  | called
  /-- It waits for the request. -/
  | reading
  /-- It has the request. -/
  | asked (request : Request)
  /-- It has a number for the reservation, which is not entered. -/
  | numbered (peer : PeerId) (number : Nat)
  /-- The reservation is entered, and the client is being told. -/
  | confirming (peer : PeerId) (number : Nat)
  | holding (peer : PeerId) (number : Nat)
  /-- The target is being told of a circuit. -/
  | notifying (peer : PeerId) (number : Nat) (circuit : CircuitId) (initiator : PeerId)
  /-- The reservation is over, and may still be entered. -/
  | leaving (peer : PeerId) (number : Nat)
  /-- It has found the handler of the target. -/
  | found (peer target : PeerId)
  /-- It has a place for a circuit. -/
  | placed (peer target : PeerId)
  /-- It has a circuit, and is about to announce it. -/
  | announcing (peer target : PeerId) (circuit : CircuitId)
  /-- It waits for the target to accept. -/
  | waiting (circuit : CircuitId)
  /-- It no longer waits, and the circuit may still be pending. -/
  | lapsed (circuit : CircuitId) (cause : Lapse)
  /-- It has the target's stream, and tells its own client. -/
  | matched (circuit : CircuitId) (other : Nat)
  /-- It has told its own client, and tells the target. -/
  | halfConnected (circuit : CircuitId) (other : Nat)
  /-- The streams are joined. -/
  | spliced (circuit : CircuitId) (other : Nat)
  /-- It answers, and still has its place. -/
  | refusing (reply : Response)
  /-- It gives its place back. -/
  | releasing
  /-- It has taken the circuit out, and hands its stream to the initiator's handler. -/
  | offering (circuit : CircuitId) (initiator : Nat)
  /-- Its stream is with the initiator's handler. -/
  | lent (circuit : CircuitId) (initiator : Nat)
  /-- It answers for the last time. -/
  | replying (reply : Response)
  | ended
deriving DecidableEq

namespace Stage

/-- Whether a handler in this stage has a place for a circuit. -/
def hasPlace : Stage → Bool
  | .placed _ _ | .announcing _ _ _ | .waiting _ | .lapsed _ _ | .matched _ _
  | .halfConnected _ _ | .spliced _ _ | .refusing _ | .releasing => true
  | _ => false

/-- Whether a handler in this stage takes announcements. -/
def takesNotices : Stage → Bool
  | .numbered _ _ | .confirming _ _ | .holding _ _ | .notifying _ _ _ _ | .leaving _ _ => true
  | _ => false

/-- Whether a handler in this stage can be handed a stream for a circuit. -/
def awaits (circuit : CircuitId) : Stage → Bool
  | .announcing _ _ c | .waiting c | .lapsed c (.targetGone _) => c == circuit
  | _ => false

/-- Whether a handler in this stage has the stream of another. -/
def uses (other : Nat) : Stage → Bool
  | .matched _ o | .halfConnected _ o | .spliced _ o => o == other
  | _ => false

end Stage

/-- The handler of a stream. -/
structure Handler where
  stage : Stage
  /-- Whether the node has asked it to stop. -/
  fired : Bool
  /-- The circuits that are to be announced to its client. -/
  notices : List (CircuitId × PeerId)
  /-- The handler to which it may announce circuits. -/
  target : Option Nat
deriving DecidableEq

/-- A reservation, with the number by which its handler knows it again. -/
structure Reservation where
  number : Nat
  handler : Nat
deriving Repr, DecidableEq, Inhabited

/-- How far the relay has come in stopping. -/
inductive StopStage where
  | serving
  /-- New streams are turned away. -/
  | flagged
  /-- All handlers are asked to stop. -/
  | cancelled
  /-- No circuit is pending. -/
  | cleared
  | stopped
deriving Repr, DecidableEq, Inhabited

/-- The relay. -/
structure Service where
  limits : Limits
  slots : Slots
  reservations : Table PeerId Reservation
  /-- The circuits that wait for their targets, with the handlers of their initiators. -/
  pending : Table CircuitId Nat
  nextNumber : Nat
  stopStage : StopStage
  handlers : List Handler
  /-- The circuits that there have been. -/
  circuits : List CircuitId
  /-- What clients were told on their streams, in order. -/
  told : List (Nat × Response)
  /-- The circuits that were matched, with the handlers of the initiator and the target. -/
  pairs : List (CircuitId × Nat × Nat)
  outcomes : List CircuitOutcome
deriving DecidableEq

/-- A turn of a handler, its client or the node. -/
inductive RelayTurn where
  /-- A stream comes. -/
  | call
  /-- A handler looks whether the relay still serves. -/
  | check (i : Nat)
  /-- The request comes, or the client leaves without one, or what comes is none. -/
  | receive (i : Nat) (request : Except StreamError (Option Request))
  /-- The node asks a handler to stop. -/
  | fire (i : Nat)
  /-- A handler's last answer is sent, or cannot be. -/
  | reply (i : Nat) (success : Bool)
  /-- A reservation gets its number. -/
  | number (i : Nat)
  /-- A reservation is entered, in place of one that the peer had. -/
  | enter (i : Nat)
  | confirm (i : Nat) (success : Bool)
  /-- The next announcement is taken up. -/
  | notice (i : Nat)
  | notify (i : Nat) (success : Bool)
  /-- The client says something of no meaning, or leaves. -/
  | hear (i : Nat) (stays : Bool)
  /-- The handler hears that it is to stop. -/
  | yield (i : Nat)
  /-- Nobody can announce anything to the handler any more. -/
  | runDry (i : Nat)
  /-- The reservation is taken out, if it is still the same. -/
  | leave (i : Nat)
  /-- The target is looked up. -/
  | look (i : Nat)
  /-- A place is taken. -/
  | place (i : Nat)
  /-- A new circuit becomes pending. -/
  | register (i : Nat) (circuit : CircuitId)
  | announce (i : Nat)
  /-- The time to accept is over. -/
  | expire (i : Nat)
  /-- The circuit is no longer pending, so that nobody can accept it. -/
  | orphan (i : Nat)
  /-- The handler hears while it waits that it is to stop. -/
  | abandon (i : Nat)
  /-- The circuit is taken out, if it is still pending. -/
  | withdraw (i : Nat)
  /-- The stream of an accepting handler is taken over. -/
  | take (i other : Nat)
  /-- The initiator is told that it is connected. -/
  | connect (i : Nat) (success : Bool)
  /-- The target is told that it is connected. -/
  | connectOther (i : Nat) (success : Bool)
  /-- The circuit ends. -/
  | finish (i : Nat) (ending : CircuitEnd)
  /-- The place is given back. -/
  | release (i : Nat)
  /-- A circuit is accepted: it is taken out, if it is pending. -/
  | claim (i : Nat)
  | offer (i : Nat)
  /-- The stream that was handed over is not needed any more. -/
  | regain (i : Nat)
  /-- The relay goes on stopping. -/
  | stop

namespace Service

/-- A relay that serves. -/
def start (limits : Limits) : Service :=
  { limits, slots := ⟨0, limits.maxCircuits⟩, reservations := [], pending := [],
    nextNumber := 1, stopStage := .serving, handlers := [], circuits := [], told := [],
    pairs := [], outcomes := [] }

/-- What a handler is doing. -/
def stageOf? (s : Service) (i : Nat) : Option Stage := (s.handlers[i]?).map (·.stage)

/-- Changes a handler. -/
def alter (s : Service) (i : Nat) (f : Handler → Handler) : Service :=
  { s with handlers := s.handlers.modify i f }

/-- A handler turns to something else. -/
def goto (s : Service) (i : Nat) (stage : Stage) : Service :=
  s.alter i fun h => { h with stage }

/-- A client is told something. -/
def tell (s : Service) (i : Nat) (r : Response) : Service := { s with told := s.told ++ [(i, r)] }

/-- An outcome is counted. -/
def count (s : Service) (o : CircuitOutcome) : Service := { s with outcomes := s.outcomes ++ [o] }

/-- Whether all handlers are asked to stop. -/
def isCancelled (s : Service) : Bool :=
  match s.stopStage with
  | .serving | .flagged => false
  | .cancelled | .cleared | .stopped => true

/-- Whether a handler is asked to stop. -/
def isFired (s : Service) (i : Nat) : Bool :=
  s.isCancelled || (s.handlers[i]?).any (·.fired)

/-- Whether anything can still be announced to a handler. -/
def hasSource (s : Service) (i : Nat) : Bool :=
  s.reservations.values.any (·.handler == i)
    || s.handlers.any fun h => h.target == some i && h.stage ≠ .ended

/-- The turns at the beginning and the end of a stream. -/
def commonStep? (s : Service) : RelayTurn → Option Service
  | .call => some { s with handlers := s.handlers ++ [⟨.called, false, [], none⟩] }
  | .check i =>
    match s.stageOf? i with
    | some .called =>
      if s.stopStage = .serving then some (s.goto i .reading)
      else some (s.goto i (.replying (.error .unavailable "relay is stopping")))
    | _ => none
  | .receive i request =>
    match s.stageOf? i with
    | some .reading =>
      match request with
      | .ok (some r) => some (s.goto i (.asked r))
      | .ok none => some (s.goto i .ended)
      | .error e => some (s.goto i (.replying (.error .malformed e.message)))
    | _ => none
  | .fire i => some (s.alter i fun h => { h with fired := true })
  | .reply i success =>
    match s.stageOf? i with
    | some (.replying r) =>
      let s := if success then s.tell i r else s
      some (s.goto i .ended)
    | some (.refusing r) =>
      let s := if success then s.tell i r else s
      some (s.goto i .releasing)
    | _ => none
  | .stop =>
    match s.stopStage with
    | .serving => some { s with stopStage := .flagged }
    | .flagged => some { s with stopStage := .cancelled }
    | .cancelled => some { s with stopStage := .cleared, pending := [] }
    | .cleared => some { s with stopStage := .stopped, reservations := [] }
    | .stopped => none
  | _ => none

/-- The turns of a handler that holds a reservation. -/
def reserveStep? (s : Service) : RelayTurn → Option Service
  | .number i =>
    match s.stageOf? i with
    | some (.asked (.reserve peer)) =>
      some ({ s with nextNumber := s.nextNumber + 1 }.goto i (.numbered peer s.nextNumber))
    | _ => none
  | .enter i =>
    match s.stageOf? i with
    | some (.numbered peer number) =>
      some ({ s with reservations := s.reservations.insert peer ⟨number, i⟩ }.goto i
        (.confirming peer number))
    | _ => none
  | .confirm i success =>
    match s.stageOf? i with
    | some (.confirming peer number) =>
      if success then some ((s.tell i .reserved).goto i (.holding peer number))
      else some (s.goto i (.leaving peer number))
    | _ => none
  | .notice i =>
    match s.handlers[i]? with
    | some ⟨.holding peer number, _, (circuit, initiator) :: rest, _⟩ =>
      some (s.alter i fun h =>
        { h with stage := .notifying peer number circuit initiator, notices := rest })
    | _ => none
  | .notify i success =>
    match s.stageOf? i with
    | some (.notifying peer number circuit initiator) =>
      if success then some ((s.tell i (.incoming circuit initiator)).goto i (.holding peer number))
      else some (s.goto i (.leaving peer number))
    | _ => none
  | .hear i stays =>
    match s.stageOf? i with
    | some (.holding peer number) =>
      some (if stays then s else s.goto i (.leaving peer number))
    | _ => none
  | .yield i =>
    match s.stageOf? i with
    | some (.holding peer number) =>
      if s.isFired i then some (s.goto i (.leaving peer number)) else none
    | _ => none
  | .runDry i =>
    match s.handlers[i]? with
    | some ⟨.holding peer number, _, [], _⟩ =>
      if s.hasSource i then none else some (s.goto i (.leaving peer number))
    | _ => none
  | .leave i =>
    match s.stageOf? i with
    | some (.leaving peer number) =>
      let same := (s.reservations.get? peer).any (·.number == number)
      let s := if same then { s with reservations := s.reservations.erase peer } else s
      some (s.goto i .ended)
    | _ => none
  | _ => none

/-- Announces a circuit, if the target's handler has room for it. Where that has ended the
circuit comes to nothing. -/
def announceTo (s : Service) (i : Nat) (peer target : PeerId) (circuit : CircuitId)
    (owner : Nat) : Option Service :=
  match s.handlers[owner]? with
  | some h =>
    if !h.stage.takesNotices then some (s.goto i (.lapsed circuit (.targetGone target)))
    else if h.notices.length < noticePlaces then
      some ((s.alter owner fun h => { h with notices := h.notices ++ [(circuit, peer)] }).goto i
        (.waiting circuit))
    else none
  | none => none

/-- The turns of a handler that asks for a circuit, up to the match. -/
def requestStep? (s : Service) : RelayTurn → Option Service
  | .look i =>
    match s.stageOf? i with
    | some (.asked (.connect peer target)) =>
      match s.reservations.get? target with
      | some r =>
        some (s.alter i fun h => { h with stage := .found peer target, target := some r.handler })
      | none =>
        some ((s.count .noReservation).goto i
          (.replying (.error .noReservation (target.toText ++ " has no reservation"))))
    | _ => none
  | .place i =>
    match s.stageOf? i with
    | some (.found peer target) =>
      match s.slots.acquire with
      | .ok slots => some ({ s with slots }.goto i (.placed peer target))
      | .error limit =>
        some ((s.count .rejected).goto i
          (.replying (.error .resourceLimitExceeded (Error.resourceExceeded limit).message)))
    | _ => none
  | .register i circuit =>
    match s.stageOf? i with
    | some (.placed peer target) =>
      if s.circuits.contains circuit then none
      else
        some ({ s with pending := s.pending.insert circuit i,
                       circuits := circuit :: s.circuits }.goto i
          (.announcing peer target circuit))
    | _ => none
  | .announce i =>
    match s.handlers[i]? with
    | some ⟨.announcing peer target circuit, _, _, some owner⟩ =>
      s.announceTo i peer target circuit owner
    | _ => none
  | .expire i =>
    match s.stageOf? i with
    | some (.waiting circuit) => some (s.goto i (.lapsed circuit .timedOut))
    | _ => none
  | .orphan i =>
    match s.stageOf? i with
    | some (.waiting circuit) =>
      let offered := s.handlers.any fun h =>
        h.stage == .offering circuit i || h.stage == .lent circuit i
      if (s.pending.get? circuit).isSome || offered then none
      else some (s.goto i (.lapsed circuit .timedOut))
    | _ => none
  | .abandon i =>
    match s.stageOf? i with
    | some (.waiting circuit) =>
      if s.isFired i then some (s.goto i (.lapsed circuit .cancelled)) else none
    | _ => none
  | .withdraw i =>
    match s.stageOf? i with
    | some (.lapsed circuit cause) =>
      let s := { s with pending := s.pending.erase circuit }
      let s := match cause.outcome? with
        | some o => s.count o
        | none => s
      some (s.goto i (match cause.reply? with
        | some r => .refusing r
        | none => .releasing))
    | _ => none
  | _ => none

/-- The turns of a handler whose circuit is matched. -/
def circuitStep? (s : Service) : RelayTurn → Option Service
  | .take i other =>
    match s.stageOf? i, s.stageOf? other with
    | some (.waiting circuit), some (.lent c j) =>
      if c = circuit ∧ j = i then
        some ({ s with pairs := s.pairs ++ [(circuit, i, other)] }.goto i (.matched circuit other))
      else none
    | _, _ => none
  | .connect i success =>
    match s.stageOf? i with
    | some (.matched circuit other) =>
      if success then some ((s.tell i (.connected circuit)).goto i (.halfConnected circuit other))
      else some ((s.count .aborted).goto i .releasing)
    | _ => none
  | .connectOther i success =>
    match s.stageOf? i with
    | some (.halfConnected circuit other) =>
      if success then
        some (((s.tell other (.connected circuit)).count .opened).goto i (.spliced circuit other))
      else some ((s.count .aborted).goto i .releasing)
    | _ => none
  | .finish i ending =>
    match s.stageOf? i with
    | some (.spliced _ _) => some ((s.count ending.outcome).goto i .releasing)
    | _ => none
  | .release i =>
    match s.stageOf? i with
    | some .releasing => some ({ s with slots := s.slots.release }.goto i .ended)
    | _ => none
  | _ => none

/-- The turns of a handler that accepts a circuit. -/
def acceptStep? (s : Service) : RelayTurn → Option Service
  | .claim i =>
    match s.stageOf? i with
    | some (.asked (.accept circuit)) =>
      match s.pending.get? circuit with
      | some j => some ({ s with pending := s.pending.erase circuit }.goto i (.offering circuit j))
      | none =>
        some (s.goto i
          (.replying (.error .unknownCircuit ("no pending circuit " ++ circuit.toText))))
    | _ => none
  | .offer i =>
    match s.stageOf? i with
    | some (.offering circuit j) =>
      if (s.stageOf? j).any (·.awaits circuit) then some (s.goto i (.lent circuit j))
      else some (s.goto i .ended)
    | _ => none
  | .regain i =>
    match s.stageOf? i with
    | some (.lent circuit j) =>
      if (s.stageOf? j).any fun g => g.awaits circuit || g.uses i then none
      else some (s.goto i .ended)
    | _ => none
  | _ => none

/-- Takes a turn, if it can be taken. -/
def step? (s : Service) (t : RelayTurn) : Option Service :=
  (s.commonStep? t).or <| (s.reserveStep? t).or <| (s.requestStep? t).or <|
    (s.circuitStep? t).or (s.acceptStep? t)

/-- The relay once it has stopped. -/
def shutdown (s : Service) : Service :=
  { s with stopStage := .stopped, pending := [], reservations := [] }

/-- Takes turns one after the other, if they can all be taken. -/
def run? (s : Service) : List RelayTurn → Option Service
  | [] => some s
  | t :: ts =>
    match s.step? t with
    | some s => s.run? ts
    | none => none

end Service

end Rendezvous.Relay
