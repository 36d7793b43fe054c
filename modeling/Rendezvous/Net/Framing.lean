import Rendezvous.Bytes.Basic

/-!
# Rendezvous.Net.Framing

How a stream of bytes is cut into frames: the length of each stands in front of it, in four
bytes. A frame that is too long is neither sent nor received.

* `Framing.encode?`: a frame as it is sent;
* `Framing.next`: the frame at the front of what was received.
-/

namespace Rendezvous.Framing

/-- The length of the longest frame: 4 MiB. -/
def maxLength : Nat := 4 * 1024 * 1024

/-- The bytes that a length takes. -/
def headLength : Nat := 4

/-- A frame as it is sent, unless it is too long. -/
def encode? (body : Bytes) : Option Bytes :=
  if body.length ≤ maxLength then some (Bytes.ofNat headLength body.length ++ body) else none

/-- What stands at the front of received bytes. -/
inductive Next where
  | frame (body rest : Bytes)
  /-- The end of the frame, or of its length, is still to come. -/
  | incomplete
  | tooLong
deriving Repr, DecidableEq

/-- What stands at the front of received bytes. -/
def next (bs : Bytes) : Next :=
  if bs.length < headLength then .incomplete
  else
    let length := Bytes.toNat (bs.take headLength)
    let rest := bs.drop headLength
    if maxLength < length then .tooLong
    else if rest.length < length then .incomplete
    else .frame (rest.take length) (rest.drop length)

end Rendezvous.Framing
