import Rendezvous.Relay.Service

/-!
# Rendezvous.Relay.Agenda

What a handler of the relay is to do next. Most of its turns it can take by itself; for the
others something has to be sent, or has to happen.

* `Need`, `Service.need`.
-/

namespace Rendezvous.Relay

/-- What a handler needs. -/
inductive Need where
  /-- A turn, which it can take by itself. -/
  | turn (t : RelayTurn)
  /-- The request. -/
  | request
  /-- Something is to be sent on a stream; the turn tells whether it was. -/
  | send (stream : Nat) (r : Response) (sent : Bool → RelayTurn)
  /-- The name of a new circuit. -/
  | circuit
  /-- One of these turns, the first that can be taken, or that the client says something. -/
  | client (turns : List RelayTurn)
  /-- One of these turns, the first that can be taken; the last one once time is up. -/
  | target (turns : List RelayTurn) (late : RelayTurn)
  /-- That the turn can be taken. -/
  | chance (t : RelayTurn)
  /-- Bytes are to be carried between two streams. -/
  | carry (other : Nat)
  /-- Nothing more. -/
  | nothing

namespace Service

/-- The handler whose stream is at hand for a circuit. -/
def lender? (s : Service) (i : Nat) (circuit : CircuitId) : Option Nat :=
  (List.range s.handlers.length).find? fun j => s.stageOf? j == some (.lent circuit i)

/-- What a handler in a stage needs. -/
def needIn (s : Service) (i : Nat) : Stage → Need
  | .called => .turn (.check i)
  | .reading => .request
  | .asked (.reserve _) => .turn (.number i)
  | .asked (.connect _ _) => .turn (.look i)
  | .asked (.accept _) => .turn (.claim i)
  | .numbered _ _ => .turn (.enter i)
  | .confirming _ _ => .send i .reserved (.confirm i)
  | .holding _ _ => .client [.yield i, .notice i, .runDry i]
  | .notifying _ _ circuit initiator => .send i (.incoming circuit initiator) (.notify i)
  | .leaving _ _ => .turn (.leave i)
  | .found _ _ => .turn (.place i)
  | .placed _ _ => .circuit
  | .announcing _ _ _ => .chance (.announce i)
  | .waiting circuit =>
    .target (((s.lender? i circuit).map (RelayTurn.take i)).toList ++ [.abandon i, .orphan i])
      (.expire i)
  | .lapsed _ _ => .turn (.withdraw i)
  | .matched circuit _ => .send i (.connected circuit) (.connect i)
  | .halfConnected circuit other => .send other (.connected circuit) (.connectOther i)
  | .spliced _ other => .carry other
  | .refusing r | .replying r => .send i r (.reply i)
  | .releasing => .turn (.release i)
  | .offering _ _ => .turn (.offer i)
  | .lent _ _ => .chance (.regain i)
  | .ended => .nothing

/-- What a handler needs. -/
def need (s : Service) (i : Nat) : Need :=
  match s.stageOf? i with
  | some stage => s.needIn i stage
  | none => .nothing

/-- Takes the first of some turns that can be taken. -/
def first? (s : Service) : List RelayTurn → Option Service
  | [] => none
  | t :: ts => (s.step? t).or (s.first? ts)

end Service

end Rendezvous.Relay
