/-!
# Rendezvous.Net.Connections

Connections are numbered from 1 in the order in which they are made, and counted while they
are open, so that a host can wait until the last has closed.

* `Connections.track`, `Connections.close`: the counts;
* `Connections.waitForIdle`: a wait with a deadline, given when connections will close.
-/

namespace Rendezvous

/-- The number of a connection. -/
structure ConnectionId where
  number : Nat
deriving Repr, DecidableEq, Inhabited

/-- The text of a number. -/
def ConnectionId.toText (c : ConnectionId) : String := "conn-" ++ toString c.number

/-- The connections of a host. There are fewer than 2^64 of them, so that a counter of 64 bits
does not overflow. -/
structure Connections where
  /-- Those that are open. -/
  opened : List ConnectionId
  /-- How many there have been. -/
  total : Nat
deriving Repr, DecidableEq, Inhabited

namespace Connections

/-- No connections yet. -/
def none : Connections := ⟨[], 0⟩

/-- The number of open connections. -/
def active (c : Connections) : Nat := c.opened.length

/-- Opens a connection. -/
def track (c : Connections) : Connections × ConnectionId :=
  let id : ConnectionId := ⟨c.total + 1⟩
  (⟨id :: c.opened, c.total + 1⟩, id)

/-- Closes a connection. -/
def close (c : Connections) (id : ConnectionId) : Connections :=
  { c with opened := c.opened.filter (· ≠ id) }

/-- Closes some connections. -/
def closeAll (c : Connections) (ids : List ConnectionId) : Connections := ids.foldl close c

/-- Connections that close together at a moment. -/
structure Closing where
  moment : Nat
  ids : List ConnectionId
deriving Repr, DecidableEq, Inhabited

/-- What a wait comes to. -/
structure Wait where
  connections : Connections
  /-- The closings that have not happened. -/
  ahead : List Closing
  /-- When it ended. -/
  now : Nat
  /-- Whether no connection was open. -/
  idle : Bool
deriving Repr

/-- Waits until no connection is open, but not beyond a deadline. The closings are in the
order of time; one that falls on the deadline comes too late. -/
def waitForIdle (c : Connections) (now deadline : Nat) : List Closing → Wait
  | [] => if c.active = 0 then ⟨c, [], now, true⟩ else ⟨c, [], deadline, false⟩
  | k :: ahead =>
    if c.active = 0 then ⟨c, k :: ahead, now, true⟩
    else if k.moment < deadline then
      (c.closeAll k.ids).waitForIdle (Nat.max now k.moment) deadline ahead
    else ⟨c, k :: ahead, deadline, false⟩

/-- Puts a closing among others, in the order of time. -/
def schedule (k : Closing) : List Closing → List Closing
  | [] => [k]
  | k' :: ahead => if k.moment < k'.moment then k :: k' :: ahead else k' :: schedule k ahead

end Connections

end Rendezvous
