import Rendezvous.Net.Bandwidth
import Rendezvous.Bytes.Basic

/-!
# Rendezvous.Net.Pipe

A connection held in memory: two channels of bytes, one each way, that hold a bounded number
of them, and a near end that counts what passes through it.

* `Channel.write`, `Channel.read`: one channel;
* `MeteredPipe`: both, with counters and the name of the peer once it is known.
-/

namespace Rendezvous

/-- Bytes on their way. -/
structure Channel where
  queued : Bytes
  capacity : Nat
  closed : Bool
deriving Repr, DecidableEq

/-- What a step on a channel comes to. -/
inductive Moved (α : Type) where
  | done (a : α)
  /-- The step waits for the other end. -/
  | waits
  /-- The other end is gone. -/
  | broken
deriving Repr, DecidableEq

namespace Channel

/-- A channel without bytes. -/
def empty (capacity : Nat) : Channel := ⟨[], capacity, false⟩

/-- Puts in as many bytes as there is room for: how many. -/
def write (c : Channel) (bs : Bytes) : Channel × Moved Nat :=
  let room := c.capacity - c.queued.length
  if c.closed then (c, .broken)
  else if room = 0 then (c, .waits)
  else ({ c with queued := c.queued ++ bs.take room }, .done (Nat.min bs.length room))

/-- Takes out as many bytes as there are, up to a length; none at the end. -/
def read (c : Channel) (len : Nat) : Channel × Moved Bytes :=
  if c.queued ≠ [] then ({ c with queued := c.queued.drop len }, .done (c.queued.take len))
  else if c.closed then (c, .done [])
  else (c, .waits)

/-- Closes a channel. What it holds can still be read. -/
def close (c : Channel) : Channel := { c with closed := true }

end Channel

/-- Both channels, seen from the near end, which counts. -/
structure MeteredPipe where
  outward : Channel
  inward : Channel
  bandwidth : Bandwidth
  /-- The peer at the far end, once it is known. -/
  peer : Option String
deriving Repr, DecidableEq

namespace MeteredPipe

/-- A pipe through which nothing went. -/
def empty (capacity : Nat) (b : Bandwidth) : MeteredPipe :=
  ⟨.empty capacity, .empty capacity, b, none⟩

/-- Names the peer, if none was named before: whether it did. -/
def identify (p : MeteredPipe) (peer : String) : MeteredPipe × Bool :=
  match p.peer with
  | some _ => (p, false)
  | none => ({ p with peer := some peer }, true)

/-- Writes at the near end. -/
def write (p : MeteredPipe) (bs : Bytes) : MeteredPipe × Moved Nat :=
  match p.outward.write bs with
  | (c, .done n) =>
    ({ p with outward := c,
              bandwidth := if n = 0 then p.bandwidth else p.bandwidth.record .outbound p.peer n },
      .done n)
  | (c, m) => ({ p with outward := c }, m)

/-- Reads at the near end. -/
def read (p : MeteredPipe) (len : Nat) : MeteredPipe × Moved Bytes :=
  match p.inward.read len with
  | (c, .done bs) =>
    ({ p with inward := c,
              bandwidth := if bs = [] then p.bandwidth
                else p.bandwidth.record .inbound p.peer bs.length },
      .done bs)
  | (c, m) => ({ p with inward := c }, m)

/-- Ends the near end's sending. -/
def shutdown (p : MeteredPipe) : MeteredPipe := { p with outward := p.outward.close }

/-- Writes at the far end. -/
def farWrite (p : MeteredPipe) (bs : Bytes) : MeteredPipe × Moved Nat :=
  let (c, m) := p.inward.write bs
  ({ p with inward := c }, m)

/-- Reads at the far end. -/
def farRead (p : MeteredPipe) (len : Nat) : MeteredPipe × Moved Bytes :=
  let (c, m) := p.outward.read len
  ({ p with outward := c }, m)

/-- Drops the far end. -/
def farDrop (p : MeteredPipe) : MeteredPipe :=
  { p with outward := p.outward.close, inward := p.inward.close }

end MeteredPipe

end Rendezvous
