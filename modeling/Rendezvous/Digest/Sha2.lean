import Rendezvous.Bytes.Basic

/-!
# Rendezvous.Digest.Sha2

SHA-256 and SHA-512 as one function of the word size. A message is padded to whole
blocks, and each block is mixed into an eight-word state by rounds over a schedule of
words made from the block.

* `Sha2.Variant`: the word size, rotations and constants of one member of the family;
* `Sha2.digest`: the digest under a variant and the tables made from it;
* `sha256`, `sha512`: the two members in use.
-/

namespace Rendezvous

namespace Sha2

/-- The first `n` primes. -/
def primes (n : Nat) : List Nat :=
  ((List.range 420).filter fun p =>
    2 ≤ p && (List.range p).all fun d => d < 2 || p % d != 0).take n

/-- The largest `r ≤ hi` with `r ^ k ≤ n`, searched bit by bit from `2 ^ bits`. -/
def rootBits (k n : Nat) : (bits acc : Nat) → Nat
  | 0, acc => acc
  | b + 1, acc =>
    let next := acc + Nat.pow 2 b
    rootBits k n b (if Nat.pow next k ≤ n then next else acc)

/-- The first `w` bits after the point of the `k`-th root of `p`. -/
def rootFraction (k w p : Nat) : Nat :=
  rootBits k (p * Nat.pow 2 (k * w)) (w + 5) 0 % Nat.pow 2 w

/-- One member of the family. Each of `bigA`, `bigE` is three rotations, each of `small0`,
`small1` two rotations and a shift. -/
structure Variant where
  /-- Bits in a word. -/
  word : Nat
  /-- Rounds for each block. -/
  rounds : Nat
  bigA : Nat × Nat × Nat
  bigE : Nat × Nat × Nat
  small0 : Nat × Nat × Nat
  small1 : Nat × Nat × Nat

namespace Variant

/-- Words are numbers below this. -/
def modulus (v : Variant) : Nat := Nat.pow 2 v.word

/-- Rotation to the right by `n` bits. -/
def rotr (v : Variant) (x n : Nat) : Nat :=
  (x >>> n) ||| ((x <<< (v.word - n)) % v.modulus)

/-- The exclusive or of three rotations. -/
def rotate3 (v : Variant) (r : Nat × Nat × Nat) (x : Nat) : Nat :=
  v.rotr x r.1 ^^^ v.rotr x r.2.1 ^^^ v.rotr x r.2.2

/-- The exclusive or of two rotations and a shift. -/
def rotate2Shift (v : Variant) (r : Nat × Nat × Nat) (x : Nat) : Nat :=
  v.rotr x r.1 ^^^ v.rotr x r.2.1 ^^^ (x >>> r.2.2)

/-- The round constants: fractions of the cube roots of the first primes. -/
def roundConstants (v : Variant) : List Nat :=
  (primes v.rounds).map (rootFraction 3 v.word)

/-- The state before the first block: fractions of the square roots of eight primes. -/
def initial (v : Variant) : List Nat :=
  (primes 8).map (rootFraction 2 v.word)

/-- Bytes in a word. -/
def wordBytes (v : Variant) : Nat := v.word / 8

/-- Bytes in a block. -/
def blockBytes (v : Variant) : Nat := 16 * v.wordBytes

end Variant

/-- The message, a one bit, zeros to the end of a block, and the length in bits. -/
def pad (v : Variant) (msg : Bytes) : Bytes :=
  let lengthBytes := 2 * v.wordBytes
  let used := (msg.length + 1 + lengthBytes) % v.blockBytes
  let zeros := (v.blockBytes - used) % v.blockBytes
  msg ++ [0x80] ++ List.replicate zeros 0 ++ Bytes.ofNat lengthBytes (8 * msg.length)

/-- Cuts a list into pieces of `n`, the last of which may be shorter. -/
def chunks {α : Type} (n : Nat) (xs : List α) : List (List α) :=
  if _h : xs = [] ∨ n = 0 then [] else xs.take n :: chunks n (xs.drop n)
termination_by xs.length
decreasing_by
  have : 0 < xs.length := List.length_pos_iff.2 fun e => _h (.inl e)
  have : n ≠ 0 := fun e => _h (.inr e)
  simp only [List.length_drop]; omega

/-- Extends the last sixteen words, newest first, by `n` more. -/
def extend (v : Variant) : (n : Nat) → List Nat → List Nat
  | 0, ws => ws
  | n + 1, ws =>
    let w := (ws.getD 15 0 + v.rotate2Shift v.small0 (ws.getD 14 0) + ws.getD 6 0
      + v.rotate2Shift v.small1 (ws.getD 1 0)) % v.modulus
    extend v n (w :: ws)

/-- The words that the rounds over a block use, in order. -/
def schedule (v : Variant) (block : Bytes) : List Nat :=
  (extend v (v.rounds - 16) ((chunks v.wordBytes block).map Bytes.toNat).reverse).reverse

/-- The eight working words. -/
structure State where
  a : Nat
  b : Nat
  c : Nat
  d : Nat
  e : Nat
  f : Nat
  g : Nat
  h : Nat

/-- One round with a word of the schedule and its constant. -/
def round (v : Variant) (s : State) (w k : Nat) : State :=
  let choose := (s.e &&& s.f) ^^^ ((v.modulus - 1 - s.e) &&& s.g)
  let majority := (s.a &&& s.b) ^^^ (s.a &&& s.c) ^^^ (s.b &&& s.c)
  let t1 := s.h + v.rotate3 v.bigE s.e + choose + k + w
  let t2 := v.rotate3 v.bigA s.a + majority
  { a := (t1 + t2) % v.modulus, b := s.a, c := s.b, d := s.c
    e := (s.d + t1) % v.modulus, f := s.e, g := s.f, h := s.g }

/-- Mixes one block into the state. -/
def compress (v : Variant) (constants : List Nat) (st : State) (block : Bytes) : State :=
  let out := ((schedule v block).zip constants).foldl (fun s wk => round v s wk.1 wk.2) st
  { a := (st.a + out.a) % v.modulus, b := (st.b + out.b) % v.modulus
    c := (st.c + out.c) % v.modulus, d := (st.d + out.d) % v.modulus
    e := (st.e + out.e) % v.modulus, f := (st.f + out.f) % v.modulus
    g := (st.g + out.g) % v.modulus, h := (st.h + out.h) % v.modulus }

/-- The state that a list of words spells. -/
def State.ofList (ws : List Nat) : State :=
  { a := ws.getD 0 0, b := ws.getD 1 0, c := ws.getD 2 0, d := ws.getD 3 0
    e := ws.getD 4 0, f := ws.getD 5 0, g := ws.getD 6 0, h := ws.getD 7 0 }

/-- The words of a state, in order. -/
def State.toList (s : State) : List Nat := [s.a, s.b, s.c, s.d, s.e, s.f, s.g, s.h]

/-- What every digest of one variant shares: the round constants and the first state. -/
structure Tables where
  constants : List Nat
  start : State

/-- The tables of a variant. -/
def Variant.tables (v : Variant) : Tables := ⟨v.roundConstants, State.ofList v.initial⟩

/-- The digest of a message, under a variant and its tables. -/
def digest (v : Variant) (t : Tables) (msg : Bytes) : Bytes :=
  let final := (chunks v.blockBytes (pad v msg)).foldl (compress v t.constants) t.start
  final.toList.flatMap (Bytes.ofNat v.wordBytes)

/-- The member with 32-bit words. -/
def short : Variant :=
  { word := 32, rounds := 64, bigA := (2, 13, 22), bigE := (6, 11, 25)
    small0 := (7, 18, 3), small1 := (17, 19, 10) }

/-- The member with 64-bit words. -/
def long : Variant :=
  { word := 64, rounds := 80, bigA := (28, 34, 39), bigE := (14, 18, 41)
    small0 := (1, 8, 7), small1 := (19, 61, 6) }

/-- The tables of the member with 32-bit words. -/
def shortTables : Tables := short.tables

/-- The tables of the member with 64-bit words. -/
def longTables : Tables := long.tables

end Sha2

/-- The SHA-256 digest, 32 bytes. -/
def sha256 (msg : Bytes) : Bytes := Sha2.digest Sha2.short Sha2.shortTables msg

@[simp] theorem length_sha256 (msg : Bytes) : (sha256 msg).length = 32 := by
  simp [sha256, Sha2.digest, Sha2.State.toList, Sha2.short, Sha2.Variant.wordBytes]

/-- The SHA-512 digest, 64 bytes. -/
def sha512 (msg : Bytes) : Bytes := Sha2.digest Sha2.long Sha2.longTables msg

end Rendezvous
