/-!
# Rendezvous.Bytes.Basic

Byte strings and the two plain views of them: the number a byte string spells in
base 256, most significant byte first, and its lower-case hexadecimal text.

* `Bytes.toNat` / `Bytes.ofNat`: the number, and its spelling at a given width;
* `Bytes.toHex` / `Bytes.ofHex?`: the text, and the reader of it.
-/

namespace Rendezvous

/-- A byte string. -/
abbrev Bytes : Type := List UInt8

namespace Bytes

/-! ### Numbers in base 256 -/

/-- The number that a byte string spells, most significant byte first. -/
def toNat (bs : Bytes) : Nat :=
  bs.foldl (fun n b => n * 256 + b.toNat) 0

/-- The last `width` base-256 digits of `n`, most significant first. -/
def ofNat : (width n : Nat) → Bytes
  | 0, _ => []
  | width + 1, n => ofNat width (n / 256) ++ [UInt8.ofNat (n % 256)]

@[simp] theorem length_ofNat (width n : Nat) : (ofNat width n).length = width := by
  induction width generalizing n with
  | zero => rfl
  | succ width ih => simp [ofNat, ih]

/-- How many base-256 digits `n` has; zero has none. -/
def width (n : Nat) : Nat :=
  if n = 0 then 0 else n.log2 / 8 + 1

/-- The number least significant byte first, as the curve formats write it. -/
def toNatLE (bs : Bytes) : Nat := toNat bs.reverse

/-- The `width` lowest base-256 digits of `n`, least significant first. -/
def ofNatLE (width n : Nat) : Bytes := (ofNat width n).reverse

/-! ### Text -/

/-- The bytes of a text in UTF-8. -/
def ofString (s : String) : Bytes := s.toUTF8.toList

/-- The text whose UTF-8 form is `bs`, if there is one. -/
def toString? (bs : Bytes) : Option String :=
  String.fromUTF8? (ByteArray.mk bs.toArray)

/-! ### Hexadecimal -/

/-- The digit of a value below sixteen. -/
def hexDigit (n : Nat) : Char :=
  if n < 10 then Char.ofNat ('0'.toNat + n) else Char.ofNat ('a'.toNat + (n - 10))

/-- The value of a hexadecimal digit of either case. -/
def hexValue? (c : Char) : Option Nat :=
  if '0' ≤ c ∧ c ≤ '9' then some (c.toNat - '0'.toNat)
  else if 'a' ≤ c ∧ c ≤ 'f' then some (c.toNat - 'a'.toNat + 10)
  else if 'A' ≤ c ∧ c ≤ 'F' then some (c.toNat - 'A'.toNat + 10)
  else none

/-- Two lower-case digits for each byte. -/
def toHex (bs : Bytes) : String :=
  String.ofList (bs.flatMap fun b => [hexDigit (b.toNat / 16), hexDigit (b.toNat % 16)])

/-- Reads pairs of digits; an odd digit out or any other character is refused. -/
def ofHexChars? : List Char → Option Bytes
  | [] => some []
  | a :: b :: rest => do
    let hi ← hexValue? a
    let lo ← hexValue? b
    let bs ← ofHexChars? rest
    return UInt8.ofNat (hi * 16 + lo) :: bs
  | [_] => none

/-- The byte string that a hexadecimal text spells. -/
def ofHex? (s : String) : Option Bytes := ofHexChars? s.toList

end Bytes

end Rendezvous
