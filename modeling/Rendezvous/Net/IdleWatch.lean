import Rendezvous.Net.Connections

/-!
# Rendezvous.Net.IdleWatch

Waiting until no connection is open, while connections open and close in any order. The
waiter first asks to be woken and only then looks at the count, so that a close between the
two is not missed. A connection closes in two turns: the count goes down, and whoever brought
it to zero wakes the waiter.

* `IdleWatch`, `IdleWatch.start`, `IdleWatch.step?`, `IdleWatch.run?`.
-/

namespace Rendezvous

/-- How far a wait has come. -/
inductive WaitStage where
  | notBegun
  /-- The waiter is about to ask to be woken. -/
  | asking
  /-- It has asked, and is about to look at the count. -/
  | looking (woken : Bool)
  /-- It looked, found connections and sleeps until it is woken. -/
  | asleep (woken : Bool)
  /-- It found that no connection was open. -/
  | idle
  /-- Its time was up. -/
  | timedOut
deriving Repr, DecidableEq, Inhabited

/-- The stage of a waiter that was woken, if it has asked for it. -/
def WaitStage.roused : WaitStage → WaitStage
  | .looking _ => .looking true
  | .asleep _ => .asleep true
  | s => s

/-- The connections of a host, and one that waits for the last to close. The counters have 64
bits, which do not overflow while there have been fewer than 2^64 connections
(`IdleWatch.counts_lt`). -/
structure IdleWatch where
  /-- The count of open connections. -/
  active : Nat
  /-- How many there have been. -/
  total : Nat
  /-- The connections that have not begun to close. -/
  opened : List ConnectionId
  /-- How many connections brought the count to zero and have yet to wake the waiter. -/
  waking : Nat
  wait : WaitStage
deriving Repr, DecidableEq, Inhabited

/-- A turn of a connection or of the waiter. -/
inductive IdleTurn where
  | track
  /-- A connection closes: the count goes down. -/
  | close (id : ConnectionId)
  /-- One that brought the count to zero wakes the waiter. -/
  | wake
  | beginWait
  | ask
  | look
  /-- The waiter goes on after it was woken. -/
  | rouse
  | expire
deriving Repr, DecidableEq, Inhabited

namespace IdleWatch

/-- No connections, and nobody waits. -/
def start : IdleWatch := ⟨0, 0, [], 0, .notBegun⟩

/-- Takes a turn, if it can be taken. -/
def step? (w : IdleWatch) : IdleTurn → Option IdleWatch
  | .track =>
    some { w with active := w.active + 1, total := w.total + 1,
                  opened := ⟨w.total + 1⟩ :: w.opened }
  | .close id =>
    if w.opened.contains id then
      some { w with active := w.active - 1, opened := w.opened.erase id,
                    waking := if w.active = 1 then w.waking + 1 else w.waking }
    else none
  | .wake =>
    if w.waking = 0 then none
    else some { w with waking := w.waking - 1, wait := w.wait.roused }
  | .beginWait =>
    match w.wait with
    | .notBegun | .idle | .timedOut => some { w with wait := .asking }
    | _ => none
  | .ask =>
    match w.wait with
    | .asking => some { w with wait := .looking false }
    | _ => none
  | .look =>
    match w.wait with
    | .looking woken =>
      some { w with wait := if w.active = 0 then .idle else .asleep woken }
    | _ => none
  | .rouse =>
    match w.wait with
    | .asleep true => some { w with wait := .asking }
    | _ => none
  | .expire =>
    match w.wait with
    | .asking | .looking _ | .asleep _ => some { w with wait := .timedOut }
    | _ => none

/-- Takes turns one after the other, if they can all be taken. -/
def run? (w : IdleWatch) : List IdleTurn → Option IdleWatch
  | [] => some w
  | t :: ts =>
    match w.step? t with
    | some w => w.run? ts
    | none => none

end IdleWatch

end Rendezvous
