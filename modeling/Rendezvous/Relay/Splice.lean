import Rendezvous.Relay.Limits

/-!
# Rendezvous.Relay.Splice

Two streams joined to a circuit: what arrives on one is written to the other, in both
directions at once. Each chunk is counted before any of it is written. The circuit ends when
both directions have, or when a limit is reached, a connection fails or the relay stops.

The two directions and the world around them take turns in any order. Each turn is a
`SpliceTurn`; `Splice.step?` says when it can be taken and what it does.

* `Splice`, `Splice.start`, `Splice.step?`, `Splice.run?`.
-/

namespace Rendezvous.Relay

/-- What a direction of a circuit is doing. -/
inductive FlowStage where
  /-- It has not begun. -/
  | fresh
  /-- It waits for bytes. -/
  | reading
  /-- It writes a chunk, of which `rest` is still to be written. -/
  | writing (chunk rest : Bytes)
  /-- It has passed on that nothing more will come. -/
  | done
deriving Repr, DecidableEq, Inhabited

/-- A direction of a circuit. -/
structure Flow where
  /-- What was received together with the last message, before the circuit began. -/
  leftover : Bytes
  /-- What has arrived since and is still to be read. -/
  arrived : Bytes
  /-- Whether nothing more will arrive. -/
  closed : Bool
  stage : FlowStage
  /-- What was written to the other side. -/
  written : Bytes
  /-- The bytes of the chunks that were written whole. -/
  carried : Nat
deriving Repr, DecidableEq, Inhabited

namespace Flow

/-- A direction before it begins. -/
def start (leftover : Bytes) : Flow := ⟨leftover, [], false, .fresh, [], 0⟩

/-- Begins to write a chunk. -/
def writeChunk (f : Flow) (chunk : Bytes) : Flow := { f with stage := .writing chunk chunk }

/-- Writes some bytes of a chunk. Behind its end the next is read. -/
def writeSome (f : Flow) (chunk rest : Bytes) (n : Nat) : Flow :=
  let f := { f with written := f.written ++ rest.take n }
  match rest.drop n with
  | [] => { f with stage := .reading, carried := f.carried + chunk.length }
  | more => { f with stage := .writing chunk more }

end Flow

/-- How a circuit ends. -/
inductive CircuitEnd where
  /-- Nothing more will come from either side. -/
  | closed
  /-- The relay stops. -/
  | cancelled
  | limited (limit : LimitReached)
  /-- A connection failed. -/
  | failed
deriving Repr, DecidableEq

/-- The two directions: to the peer that was asked for, and from it. -/
inductive Way where
  | forth
  | back
deriving Repr, DecidableEq, Inhabited

/-- A circuit. -/
structure Splice where
  forth : Flow
  back : Flow
  budget : Budget
  lifetime : Option Duration
  result : Option CircuitEnd
deriving Repr, DecidableEq

/-- A turn of a direction, or of the world around. -/
inductive SpliceTurn where
  /-- Bytes arrive. -/
  | arrive (way : Way) (bytes : Bytes)
  /-- It is known that nothing more will arrive. -/
  | close (way : Way)
  /-- A direction begins. -/
  | begin (way : Way)
  /-- So many bytes are read. -/
  | read (way : Way) (bytes : Nat)
  /-- So many bytes are taken by the other side. -/
  | write (way : Way) (bytes : Nat)
  /-- The end of the stream is read. -/
  | finish (way : Way)
  /-- A connection fails. -/
  | fail (way : Way)
  /-- The relay stops. -/
  | cancel
  /-- The lifetime of the circuit is over. -/
  | expire
deriving Repr, DecidableEq

namespace Splice

/-- The most bytes that are read at once. -/
def chunkLength : Nat := 16384

/-- A circuit before it begins, given what was received before. -/
def start (limits : Limits) (leftoverForth leftoverBack : Bytes) : Splice :=
  { forth := .start leftoverForth, back := .start leftoverBack,
    budget := ⟨0, limits.maxData⟩, lifetime := limits.maxDuration, result := none }

/-- A direction. -/
def flow (s : Splice) : Way → Flow
  | .forth => s.forth
  | .back => s.back

/-- Changes a direction. -/
def setFlow (s : Splice) (f : Flow) : Way → Splice
  | .forth => { s with forth := f }
  | .back => { s with back := f }

/-- Begins to write a chunk, if it fits the budget. -/
def carry (s : Splice) (way : Way) (f : Flow) (chunk : Bytes) : Splice :=
  match s.budget.charge chunk.length with
  | (budget, .ok ()) => { s with budget }.setFlow (f.writeChunk chunk) way
  | (budget, .error limit) => { s with budget, result := some (.limited limit) }.setFlow f way

/-- The circuit is closed once both directions are done. -/
def settle (s : Splice) : Splice :=
  if s.forth.stage = .done ∧ s.back.stage = .done then { s with result := some .closed } else s

/-- Takes a turn of a circuit that has not ended, if it can be taken. -/
def turn? (s : Splice) : SpliceTurn → Option Splice
  | .arrive way bytes =>
    let f := s.flow way
    if f.closed then none else some (s.setFlow { f with arrived := f.arrived ++ bytes } way)
  | .close way =>
    let f := s.flow way
    if f.closed then none else some (s.setFlow { f with closed := true } way)
  | .begin way =>
    let f := s.flow way
    match f.stage with
    | .fresh =>
      let f := { f with stage := .reading }
      if f.leftover.isEmpty then some (s.setFlow f way) else some (s.carry way f f.leftover)
    | _ => none
  | .read way n =>
    let f := s.flow way
    match f.stage with
    | .reading =>
      if n = 0 ∨ chunkLength < n ∨ f.arrived.length < n then none
      else some (s.carry way { f with arrived := f.arrived.drop n } (f.arrived.take n))
    | _ => none
  | .write way n =>
    let f := s.flow way
    match f.stage with
    | .writing chunk rest =>
      if n = 0 ∨ rest.length < n then none else some (s.setFlow (f.writeSome chunk rest n) way)
    | _ => none
  | .finish way =>
    let f := s.flow way
    match f.stage with
    | .reading =>
      if f.arrived.isEmpty && f.closed then some (s.setFlow { f with stage := .done } way).settle
      else none
    | _ => none
  | .fail way =>
    match (s.flow way).stage with
    | .fresh | .done => none
    | .reading | .writing _ _ => some { s with result := some .failed }
  | .cancel => some { s with result := some .cancelled }
  | .expire => s.lifetime.map fun d => { s with result := some (.limited (.lifetime d)) }

/-- Takes a turn, if it can be taken. After the end there is none. -/
def step? (s : Splice) (t : SpliceTurn) : Option Splice :=
  if s.result.isSome then none else s.turn? t

/-- Takes turns one after the other, if they can all be taken. -/
def run? (s : Splice) : List SpliceTurn → Option Splice
  | [] => some s
  | t :: ts =>
    match s.step? t with
    | some s => s.run? ts
    | none => none

end Splice

end Rendezvous.Relay
