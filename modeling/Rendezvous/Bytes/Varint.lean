import Rendezvous.Bytes.Basic

/-!
# Rendezvous.Bytes.Varint

Variable-length numbers: seven bits in each byte, least significant first, with the top
bit set on every byte but the last. Two readers share the printer: the lax one of the
message format, which takes any spelling of a 64-bit number in at most ten bytes, and
the strict one of hashes in addresses, which takes only the shortest spelling.

* `Varint.encode`: the shortest spelling of a number;
* `Varint.decode?`: any spelling of a 64-bit number;
* `Varint.decodeShortest`: the shortest spelling alone.
-/

namespace Rendezvous.Varint

/-- The shortest spelling of a number. -/
def encode (n : Nat) : Bytes :=
  if h : n < 128 then [UInt8.ofNat n]
  else UInt8.ofNat (n % 128 + 128) :: encode (n / 128)
termination_by n
decreasing_by omega

/-- Reads up to `fuel` bytes of a number whose lower bits, `scale` in all, are `acc`. -/
def decodeGroups? : (fuel scale acc : Nat) → Bytes → Option (Nat × Bytes)
  | 0, _, _, _ => none
  | _ + 1, _, _, [] => none
  | fuel + 1, scale, acc, b :: rest =>
    let acc := acc + b.toNat % 128 * scale
    if b.toNat < 128 then some (acc, rest) else decodeGroups? fuel (scale * 128) acc rest

/-- Reads a number below 2^64 in at most ten bytes, and gives what follows it. -/
def decode? (bs : Bytes) : Option (Nat × Bytes) :=
  (decodeGroups? 10 1 0 bs).filter fun r => r.1 < Nat.pow 2 64

/-! ### The shortest spelling -/

/-- Why bytes do not begin with the shortest spelling of a number. -/
inductive Flaw where
  /-- They end before the number does. -/
  | cut
  /-- The number goes on after ten bytes. -/
  | long
  /-- The last byte of several adds nothing. -/
  | padded
deriving Repr, DecidableEq

/-- The wording of a flaw. -/
def Flaw.message : Flaw → String
  | .cut => "unexpected end of file"
  | .long => "input bytes exceed maximum"
  | .padded => "encoding is not minimal"

/-- Reads a number in its shortest spelling of at most ten bytes, of which the lowest 64 bits
count, and gives what follows it. -/
def decodeShortest (bs : Bytes) : Except Flaw (Nat × Bytes) :=
  match decodeGroups? 10 1 0 bs with
  | none => .error (if bs.length < 10 then .cut else .long)
  | some (n, rest) =>
    let used := bs.take (bs.length - rest.length)
    if 1 < used.length ∧ used.getLast? = some 0 then .error .padded
    else .ok (n % Nat.pow 2 64, rest)

end Rendezvous.Varint
