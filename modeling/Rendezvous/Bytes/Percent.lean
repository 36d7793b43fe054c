import Rendezvous.Bytes.Basic

/-!
# Rendezvous.Bytes.Percent

Bytes spelled by a percent sign and two hexadecimal digits.
-/

namespace Rendezvous.Percent

/-- The bytes of a text in which some bytes are spelled; a percent sign that no two digits
follow stands for itself. -/
def decode : Bytes → Bytes
  | [] => []
  | [b] => [b]
  | [b, c] => [b, c]
  | b :: h :: l :: rest =>
    if b = 37 then
      match Bytes.hexValue? (Char.ofNat h.toNat), Bytes.hexValue? (Char.ofNat l.toNat) with
      | some x, some y => UInt8.ofNat (x * 16 + y) :: decode rest
      | _, _ => b :: decode (h :: l :: rest)
    else b :: decode (h :: l :: rest)
termination_by bs => bs.length

/-- A byte, spelled with upper-case digits. -/
def spell (b : UInt8) : List Char :=
  ['%', (Bytes.hexDigit (b.toNat / 16)).toUpper, (Bytes.hexDigit (b.toNat % 16)).toUpper]

/-- The text of bytes in which those that a class picks are spelled, as are all beyond
ASCII. -/
def encode (special : UInt8 → Bool) (bs : Bytes) : List Char :=
  bs.flatMap fun b =>
    if 128 ≤ b.toNat || special b then spell b else [Char.ofNat b.toNat]

/-- Whether a byte is a control character of ASCII. -/
def isControl (b : UInt8) : Bool := b.toNat < 32 || b.toNat == 127

/-- The bytes that are spelled in a segment of a path: controls, blanks, quotes, brackets
and the signs that end a segment or spell a byte. -/
def inSegment (b : UInt8) : Bool :=
  isControl b || " \"#<>`?\x7b\x7d%/".toList.contains (Char.ofNat b.toNat)

end Rendezvous.Percent
