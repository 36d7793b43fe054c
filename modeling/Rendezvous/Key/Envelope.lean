import Rendezvous.Bytes.Varint
import Rendezvous.Key.Kind

/-!
# Rendezvous.Key.Envelope

Tagged key material: a message of two fields, the tag of a kind and the bytes of a key of
that kind. The same layout carries private and public keys.

* `Envelope.encode`: the tag first, then the bytes;
* `Envelope.fields`: the lax reader, which takes fields in any order and any number, skips
  fields it does not know, and keeps the last of each;
* `Envelope.decode`: what a private key's envelope must be on top of that.
-/

namespace Rendezvous

/-- Key material under the tag of its kind. -/
structure Envelope where
  kind : KeyKind
  data : Bytes
deriving Repr, DecidableEq

namespace Envelope

/-- Why bytes are no envelope of a private key. -/
inductive DecodeError where
  /-- Not a message. -/
  | malformed
  /-- A message whose tag names no kind. -/
  | unknownTag (tag : Int)
  /-- A message without key material. -/
  | noData
deriving Repr, DecidableEq

/-- The bytes of an envelope. -/
def encode (e : Envelope) : Bytes :=
  [0x08, UInt8.ofNat e.kind.tag, 0x12] ++ Varint.encode e.data.length ++ e.data

/-! ### The message format -/

/-- How the content of a field is laid out. -/
inductive WireType where
  | varint
  | eightBytes
  | counted
  | groupStart
  | groupEnd
  | fourBytes
deriving Repr, DecidableEq

/-- The layout that the lowest three bits of a field's key name. -/
def WireType.ofNat? : Nat → Option WireType
  | 0 => some .varint
  | 1 => some .eightBytes
  | 2 => some .counted
  | 3 => some .groupStart
  | 4 => some .groupEnd
  | 5 => some .fourBytes
  | _ => none

/-- Takes the key of a field off the front: its number, which is not zero, and layout. -/
def fieldKey? (bs : Bytes) : Option ((Nat × WireType) × Bytes) := do
  let (key, rest) ← Varint.decode? bs
  let wire ← WireType.ofNat? (key % 8)
  if Nat.pow 2 32 ≤ key ∨ key / 8 = 0 then none else some ((key / 8, wire), rest)

/-- Takes `n` bytes off the front. -/
def take? (n : Nat) (bs : Bytes) : Option (Bytes × Bytes) :=
  if n ≤ bs.length then some (bs.take n, bs.drop n) else none

/-- Takes a count and that many bytes off the front. -/
def counted? (bs : Bytes) : Option (Bytes × Bytes) := do
  let (n, rest) ← Varint.decode? bs
  take? n rest

/-- Groups may stand inside one another up to this depth. -/
def maxDepth : Nat := 100

mutual

/-- Drops the content of an unknown field. `depth` is how many more groups may open. -/
def skip? : (fuel depth field : Nat) → WireType → Bytes → Option Bytes
  | 0, _, _, _, _ => none
  | _ + 1, 0, _, _, _ => none
  | fuel + 1, depth + 1, field, wire, bs =>
    match wire with
    | .varint => (Varint.decode? bs).map (·.2)
    | .eightBytes => (take? 8 bs).map (·.2)
    | .fourBytes => (take? 4 bs).map (·.2)
    | .counted => (counted? bs).map (·.2)
    | .groupStart => skipGroup? fuel depth field bs
    | .groupEnd => none

/-- Drops fields up to the end of the group `field`. -/
def skipGroup? : (fuel depth field : Nat) → Bytes → Option Bytes
  | 0, _, _, _ => none
  | fuel + 1, depth, field, bs => do
    let ((inner, wire), bs) ← fieldKey? bs
    if wire = .groupEnd then
      if inner = field then some bs else none
    else
      let bs ← skip? fuel depth inner wire bs
      skipGroup? fuel depth field bs

end

/-- The value that a 32-bit signed field has for a number: its lowest 32 bits, the highest
of them the sign. -/
def signed32 (n : Nat) : Int := Int.bmod n (Nat.pow 2 32)

/-- Reads the fields to the end: the tag, zero if absent, and the data, empty if absent. -/
def fieldsFrom : (fuel : Nat) → (tag : Int) → (data : Bytes) → Bytes → Option (Int × Bytes)
  | 0, _, _, _ => none
  | fuel + 1, tag, data, bs =>
    if bs.isEmpty then some (tag, data)
    else do
      let ((field, wire), bs) ← fieldKey? bs
      if field = 1 then
        if wire = .varint then
          let (n, bs) ← Varint.decode? bs
          fieldsFrom fuel (signed32 n) data bs
        else none
      else if field = 2 then
        if wire = .counted then
          let (content, bs) ← counted? bs
          fieldsFrom fuel tag content bs
        else none
      else
        let bs ← skip? (bs.length + 1) maxDepth field wire bs
        fieldsFrom fuel tag data bs

/-- The tag and data of a message. -/
def fields (bs : Bytes) : Option (Int × Bytes) := fieldsFrom (bs.length + 1) 0 [] bs

/-- Reads the envelope of a private key. -/
def decode (bs : Bytes) : Except DecodeError Envelope :=
  match fields bs with
  | none => .error .malformed
  | some (tag, data) =>
    match (if tag < 0 then none else KeyKind.ofTag? tag.toNat) with
    | none => .error (.unknownTag tag)
    | some kind => if data.isEmpty then .error .noData else .ok ⟨kind, data⟩

end Envelope

end Rendezvous
