import Rendezvous.Data.Table

/-!
# Rendezvous.Net.Bandwidth

Counters of bytes: of all connections together and of each peer, for as many peers as the
table holds. The peers that come when it is full are counted together. Counters have 64
bits and start again at 0.

* `Totals`, `Bandwidth`;
* `Bandwidth.record`: counts bytes that were moved.
-/

namespace Rendezvous

/-- Where bytes go. -/
inductive Direction where
  | inbound
  | outbound
deriving Repr, DecidableEq, Inhabited

/-- Bytes counted in both directions. -/
structure Totals where
  inbound : Nat
  outbound : Nat
deriving Repr, DecidableEq, Inhabited

namespace Totals

/-- Nothing yet. -/
def zero : Totals := ⟨0, 0⟩

/-- The number of values of a counter. -/
def bound : Nat := Nat.pow 2 64

/-- Counts bytes. -/
def add (t : Totals) (n : Nat) : Direction → Totals
  | .inbound => { t with inbound := (t.inbound + n) % bound }
  | .outbound => { t with outbound := (t.outbound + n) % bound }

/-- The bytes counted in a direction. -/
def get (t : Totals) : Direction → Nat
  | .inbound => t.inbound
  | .outbound => t.outbound

theorem get_add_self (t : Totals) (n : Nat) (d : Direction) :
    (t.add n d).get d = (t.get d + n) % bound := by
  cases d <;> rfl

theorem get_add_of_ne (t : Totals) (n : Nat) {d d' : Direction} (h : d' ≠ d) :
    (t.add n d).get d' = t.get d' := by
  cases d <;> cases d' <;> first | rfl | exact absurd rfl h

end Totals

/-- The counters of a host. -/
structure Bandwidth where
  total : Totals
  /-- The peers that are counted one by one. -/
  peers : Table String Totals
  /-- The bytes of all other peers. -/
  other : Totals
  /-- The most peers that are counted one by one. -/
  peerLimit : Nat
deriving Repr, DecidableEq

namespace Bandwidth

/-- The usual number of peers that are counted one by one. -/
def defaultPeerLimit : Nat := 1024

/-- The name under which the other peers are reported. -/
def otherName : String := "other"

/-- Counters at 0. -/
def withPeerLimit (limit : Nat) : Bandwidth :=
  { total := .zero, peers := [], other := .zero, peerLimit := limit }

/-- Counts bytes of a peer: on its own if it has a place in the table or can get one. -/
def recordPeer (b : Bandwidth) (d : Direction) (peer : String) (n : Nat) : Bandwidth :=
  match b.peers.get? peer with
  | some t => { b with peers := b.peers.insert peer (t.add n d) }
  | none =>
    if b.peers.length < b.peerLimit then
      { b with peers := b.peers.insert peer (Totals.zero.add n d) }
    else { b with other := b.other.add n d }

/-- Counts bytes of a connection, whose peer may be unknown. -/
def record (b : Bandwidth) (d : Direction) (peer : Option String) (n : Nat) : Bandwidth :=
  let b := { b with total := b.total.add n d }
  match peer with
  | some p => b.recordPeer d p n
  | none => b

/-- The bytes of a peer that is counted on its own. -/
def peerTotals (b : Bandwidth) (peer : String) : Option Totals := b.peers.get? peer

end Bandwidth

end Rendezvous
