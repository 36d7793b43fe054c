import Rendezvous.Digest.Sha2

/-!
# Rendezvous.Digest.Sha1

SHA-1. A message is padded as for SHA-256, and each block is mixed into a state of five words
by eighty rounds.

* `sha1`.
-/

namespace Rendezvous

namespace Sha1

/-- Words are numbers below this. -/
def modulus : Nat := Nat.pow 2 32

/-- Rotation to the left by `n` bits. -/
def rotl (x n : Nat) : Nat := (x <<< n) % modulus ||| x >>> (32 - n)

/-- Extends the last sixteen words, newest first, by `n` more. -/
def extend : (n : Nat) → List Nat → List Nat
  | 0, ws => ws
  | n + 1, ws =>
    let w := ws.getD 2 0 ^^^ ws.getD 7 0 ^^^ ws.getD 13 0 ^^^ ws.getD 15 0
    extend n (rotl w 1 :: ws)

/-- The words that the rounds over a block use, in order. -/
def schedule (block : Bytes) : List Nat :=
  (extend 64 ((Sha2.chunks 4 block).map Bytes.toNat).reverse).reverse

/-- The five working words. -/
structure State where
  a : Nat
  b : Nat
  c : Nat
  d : Nat
  e : Nat

namespace State

/-- The state before the first block. -/
def initial : State := ⟨0x67452301, 0xEFCDAB89, 0x98BADCFE, 0x10325476, 0xC3D2E1F0⟩

/-- What round `i` makes of three words, and its constant. -/
def mixed (s : State) (i : Nat) : Nat × Nat :=
  if i < 20 then ((s.b &&& s.c) ||| ((modulus - 1 - s.b) &&& s.d), 0x5A827999)
  else if i < 40 then (s.b ^^^ s.c ^^^ s.d, 0x6ED9EBA1)
  else if i < 60 then ((s.b &&& s.c) ||| (s.b &&& s.d) ||| (s.c &&& s.d), 0x8F1BBCDC)
  else (s.b ^^^ s.c ^^^ s.d, 0xCA62C1D6)

/-- Round `i` with its word of the schedule. -/
def round (s : State) (i w : Nat) : State :=
  let (f, k) := s.mixed i
  ⟨(rotl s.a 5 + f + s.e + k + w) % modulus, s.a, rotl s.b 30, s.c, s.d⟩

/-- Mixes one block into the state. -/
def compress (s : State) (block : Bytes) : State :=
  let out := (schedule block).zipIdx.foldl (fun s w => s.round w.2 w.1) s
  ⟨(s.a + out.a) % modulus, (s.b + out.b) % modulus, (s.c + out.c) % modulus,
    (s.d + out.d) % modulus, (s.e + out.e) % modulus⟩

/-- The words of a state, in order. -/
def toList (s : State) : List Nat := [s.a, s.b, s.c, s.d, s.e]

end State

end Sha1

/-- The SHA-1 digest, 20 bytes. -/
def sha1 (msg : Bytes) : Bytes :=
  let final := (Sha2.chunks 64 (Sha2.pad Sha2.short msg)).foldl Sha1.State.compress .initial
  final.toList.flatMap (Bytes.ofNat 4)

end Rendezvous
