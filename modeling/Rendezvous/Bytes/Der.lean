import Rendezvous.Bytes.Basic

/-!
# Rendezvous.Bytes.Der

The distinguished encoding of nested values: a tag byte, a length in its shortest
spelling, and that many bytes. Readers take a value off the front of a byte string and
give what follows it.

* `Der.element`: one element of a given tag;
* `Der.document?`: the one element that a byte string is;
* `Der.inside`: everything inside an element, read to the end;
* `Der.unsigned?`, `Der.isObjectId`: what the bytes of two kinds of element must be;
* `Der.encode` and its companions: the printers.
-/

namespace Rendezvous.Der

/-! ### Lengths and tags -/

/-- No length reaches this bound, neither that of an element nor that of a whole document. -/
def lengthBound : Nat := Nat.pow 2 28

/-- Reads a length: one byte below 128, or a count of at most four and that many bytes,
the fewest that serve. -/
def length? : Bytes → Option (Nat × Bytes)
  | [] => none
  | b :: rest =>
    let first := b.toNat
    if first < 128 then some (first, rest)
    else
      let count := first - 128
      let digits := rest.take count
      let n := Bytes.toNat digits
      if 1 ≤ count ∧ count ≤ 4 ∧ digits.length = count ∧ 128 ≤ n
          ∧ Bytes.width n = count ∧ n < lengthBound then
        some (n, rest.drop count)
      else none

/-- The shortest spelling of a length. -/
def lengthBytes (n : Nat) : Bytes :=
  if n < 128 then [UInt8.ofNat n]
  else UInt8.ofNat (128 + Bytes.width n) :: Bytes.ofNat (Bytes.width n) n

/-- The tags of the universal class that a reader knows. -/
def universalTags : List UInt8 :=
  [0x01, 0x02, 0x03, 0x04, 0x05, 0x06, 0x09, 0x0A, 0x0C, 0x12, 0x13, 0x14, 0x15, 0x16,
    0x17, 0x18, 0x1A, 0x1E, 0x30, 0x31]

/-- A tag byte is known if it is a known universal tag, or of one of the other classes
with its number, below 31, in the byte itself. -/
def isKnownTag (t : UInt8) : Bool :=
  universalTags.contains t || (0x40 ≤ t.toNat && t.toNat % 32 != 31)

/-- Whether a tag is of the context-specific class. -/
def isContextTag (t : UInt8) : Bool := t.toNat / 64 == 2

/-! ### Readers -/

/-- Takes one element of any known tag off the front: tag, content, rest. -/
def any? : Bytes → Option (UInt8 × Bytes × Bytes)
  | [] => none
  | t :: rest =>
    if isKnownTag t then do
      let (n, rest) ← length? rest
      if n ≤ rest.length then some (t, rest.take n, rest.drop n) else none
    else none

/-- Takes one element of the tag `t` off the front. -/
def element (t : UInt8) (bs : Bytes) : Option (Bytes × Bytes) := do
  let (t', content, rest) ← any? bs
  if t' = t then some (content, rest) else none

/-- Reads the content of an element to its end. -/
def inside {α : Type} (read : Bytes → Option (α × Bytes)) (content : Bytes) : Option α := do
  let (a, rest) ← read content
  if rest.isEmpty then some a else none

/-- The content of the one element of the tag `t` that a byte string is. -/
def document? (t : UInt8) (bs : Bytes) : Option Bytes := do
  if lengthBound ≤ bs.length then none
  let (content, rest) ← element t bs
  if rest.isEmpty then some content else none

/-- The number that the content of an integer spells, if it is not negative and has no
needless zero in front. -/
def unsigned? : Bytes → Option Nat
  | [] => none
  | [b] => if b.toNat < 128 then some b.toNat else none
  | a :: b :: rest =>
    if a.toNat = 0 then
      if b.toNat < 128 then none else some (Bytes.toNat (b :: rest))
    else if a.toNat < 128 then some (Bytes.toNat (a :: b :: rest))
    else none

/-- Takes an unsigned integer off the front. -/
def unsignedElement (bs : Bytes) : Option (Nat × Bytes) := do
  let (content, rest) ← element 0x02 bs
  let n ← unsigned? content
  return (n, rest)

/-- The bytes of a bit string that is a whole number of bytes long. -/
def wholeBits? : Bytes → Option Bytes
  | b :: rest => if b = 0 then some rest else none
  | [] => none

/-- Whether the bytes after the first of an object identifier are whole numbers in
base 128, each below 2^32. `seen` counts the bytes of the number at hand so far. -/
def arcsOk : (seen : Nat) → Bytes → Bool
  | seen, [] => seen == 0
  | seen, b :: rest =>
    if 4 ≤ seen && 16 ≤ b.toNat then false
    else if b.toNat < 128 then arcsOk 0 rest
    else arcsOk (seen + 1) rest

/-- Whether a content may stand in an object identifier. -/
def isObjectId (content : Bytes) : Bool :=
  3 ≤ content.length && content.length ≤ 39
    && match content with
      | [] => false
      | b :: rest => b.toNat < 120 && arcsOk 0 rest

/-- Looks for the explicitly tagged field `number`: fields of smaller numbers are passed
over, and the field is absent if anything else comes first. Gives the content, if any,
and what follows. `fuel` bounds the fields passed over. -/
def contextField? : (fuel number : Nat) → Bytes → Option (Option Bytes × Bytes)
  | 0, _, _ => none
  | _ + 1, _, [] => some (none, [])
  | fuel + 1, number, t :: rest =>
    if !isKnownTag t then none
    else if !isContextTag t || number < t.toNat % 32 then some (none, t :: rest)
    else do
      let (_, content, rest') ← any? (t :: rest)
      if t.toNat % 32 = number then
        if t.toNat / 32 % 2 = 1 then some (some content, rest') else none
      else contextField? fuel number rest'

/-! ### Printers -/

/-- An element. -/
def encode (t : UInt8) (content : Bytes) : Bytes :=
  t :: lengthBytes content.length ++ content

/-- An unsigned integer. -/
def encodeUnsigned (n : Nat) : Bytes :=
  let digits := Bytes.ofNat (Bytes.width n) n
  let content := match digits with
    | [] => [0]
    | b :: _ => if b.toNat < 128 then digits else 0 :: digits
  encode 0x02 content

/-- A sequence of elements already encoded. -/
def encodeSequence (parts : List Bytes) : Bytes := encode 0x30 parts.flatten

/-- A bit string of whole bytes. -/
def encodeBits (bs : Bytes) : Bytes := encode 0x03 (0 :: bs)

end Rendezvous.Der
