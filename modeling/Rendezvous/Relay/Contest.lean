import Rendezvous.Relay.Service

/-!
# Rendezvous.Relay.Contest

Handlers contend for places. All of them count the places that are taken in one number, and a
handler takes its place in a loop: it reads the number, and is refused if all places are taken;
else it puts one more in the number's stead. Where the number has changed since, it goes on with
what it is now.

`Service.step?` takes a place in one turn. Here the loop is taken apart, so that other turns and
other handlers' accesses come between one access of a handler and its next.

* `Relay.Access`: one access to the number, or a turn that takes no place;
* `Relay.Contest`, `Contest.start`, `Contest.access?`, `Contest.run?`.
-/

namespace Rendezvous.Relay

/-- An access to the number of places that are taken, or a turn that takes no place. -/
inductive Access where
  | turn (t : RelayTurn)
  /-- A handler reads the number. -/
  | load (i : Nat)
  /-- A handler puts one more in the number's stead, if it is what the handler has read. That may
  fail without a cause too. Where it fails, the handler has read the number anew. -/
  | exchange (i : Nat) (spurious : Bool)

/-- Whose access to the number it is. -/
def Access.contender? : Access → Option Nat
  | .turn _ => none
  | .load i | .exchange i _ => some i

/-- The relay, and the number as those have read it who are about to take a place. -/
structure Contest where
  relay : Service
  seen : Table Nat Nat

namespace Contest

/-- A relay that serves. -/
def start (limits : Limits) : Contest := ⟨.start limits, []⟩

/-- A handler has read the number, and all places are taken. -/
def refuse (c : Contest) (i max : Nat) : Contest :=
  { relay := (c.relay.count .rejected).goto i
      (.replying (.error .resourceLimitExceeded (Error.resourceExceeded (.circuits max)).message))
    seen := c.seen.erase i }

/-- A handler reads the number. -/
def read (c : Contest) (i : Nat) : Contest :=
  let n := c.relay.slots.active
  match c.relay.slots.max with
  | some max =>
    if max ≤ n then c.refuse i max else { c with seen := c.seen.insert i n }
  | none => { c with seen := c.seen.insert i n }

/-- A handler puts one more in the number's stead, and has a place. -/
def take (c : Contest) (i : Nat) (peer target : PeerId) : Contest :=
  let slots := { c.relay.slots with active := c.relay.slots.active + 1 }
  { relay := { c.relay with slots }.goto i (.placed peer target)
    seen := c.seen.erase i }

/-- Makes an access, if it can be made. -/
def access? (c : Contest) : Access → Option Contest
  | .turn (.place _) => none
  | .turn t => (c.relay.step? t).map fun relay => { c with relay }
  | .load i =>
    match c.relay.stageOf? i, c.seen.get? i with
    | some (.found _ _), none => some (c.read i)
    | _, _ => none
  | .exchange i spurious =>
    match c.relay.stageOf? i, c.seen.get? i with
    | some (.found peer target), some n =>
      some (if n = c.relay.slots.active ∧ spurious = false then c.take i peer target else c.read i)
    | _, _ => none

/-- Makes accesses one after the other, if they can all be made. -/
def run? (c : Contest) : List Access → Option Contest
  | [] => some c
  | a :: as =>
    match c.access? a with
    | some c => c.run? as
    | none => none

end Contest

end Rendezvous.Relay
