import Rendezvous.Address.Ip
import Rendezvous.Lifecycle.Crash

/-!
# Rendezvous.Net.Listener

A listener takes up connections as long as it has permits for them. A client that connects
while all permits are held waits.

* `Listener.make`, `Listener.accept`, `Listener.release`;
* `Listener.permits`: the permits that are left.
-/

namespace Rendezvous

/-- A bound socket and the connections that came from it. -/
structure Listener where
  socket : SocketAddress
  maxConnections : Nat
  /-- How many clients wait to be taken up. -/
  waiting : Nat
  /-- The open connections, by the order in which they were taken up. -/
  held : List Nat
  /-- How many have been taken up. -/
  accepted : Nat
deriving Repr, DecidableEq, Inhabited

namespace Listener

/-- A listener at a bound socket. -/
def make {ε : Type} (socket : SocketAddress) (maxConnections : Nat) :
    Except (Stop ε) Listener := do
  Places.demand maxConnections
  return ⟨socket, maxConnections, 0, [], 0⟩

/-- The permits that are left. -/
def permits (l : Listener) : Nat := l.maxConnections - l.held.length

/-- A client connects. -/
def dial (l : Listener) : Listener := { l with waiting := l.waiting + 1 }

/-- Takes up the connection of a client, if one waits and a permit is left. -/
def accept (l : Listener) : Listener × Option Nat :=
  if l.permits = 0 ∨ l.waiting = 0 then (l, none)
  else
    ({ l with waiting := l.waiting - 1, held := l.held ++ [l.accepted],
              accepted := l.accepted + 1 }, some l.accepted)

/-- Closes a connection, which gives its permit back. Answers whether it was open. -/
def release (l : Listener) (index : Nat) : Listener × Bool :=
  ({ l with held := l.held.erase index }, l.held.contains index)

end Listener

end Rendezvous
