import Rendezvous.Bytes.Basic

/-!
# Rendezvous.Bytes.Base58

The base-58 spelling of byte strings: the number in base 58 over an alphabet without
the look-alikes `0`, `O`, `I` and `l`, with one `1` in front for each leading zero byte.

* `Base58.encode` / `Base58.decode`;
* `Base58.DecodeError`: the first character that is no digit, by kind and place.
-/

namespace Rendezvous.Base58

/-- The digits, by value. -/
def alphabet : List Char :=
  "123456789ABCDEFGHJKLMNPQRSTUVWXYZabcdefghijkmnopqrstuvwxyz".toList

/-- The digit of a value below 58. -/
def digit (n : Nat) : Char := alphabet.getD n '1'

/-- The value of a digit. -/
def value? (c : Char) : Option Nat := alphabet.idxOf? c

/-- The base-58 digits of `n`, least significant first; zero has none. -/
def digitsLE (n : Nat) : List Char :=
  if h : n = 0 then [] else digit (n % 58) :: digitsLE (n / 58)
termination_by n
decreasing_by omega

/-- The base-58 text of a byte string. -/
def encode (bs : Bytes) : String :=
  let zeros := bs.takeWhile (· = 0)
  String.ofList (zeros.map (fun _ => '1') ++ (digitsLE (Bytes.toNat bs)).reverse)

/-- Why a text is not base 58. The place counts the characters before the culprit, all
of them ASCII. -/
inductive DecodeError where
  /-- A character beyond ASCII. -/
  | nonAscii (place : Nat)
  /-- An ASCII character outside the alphabet. -/
  | invalid (c : Char) (place : Nat)
deriving Repr, DecidableEq

/-- Folds the digits into a number, stopping at the first character that is none. -/
def valueOf : (place acc : Nat) → List Char → Except DecodeError Nat
  | _, acc, [] => .ok acc
  | place, acc, c :: rest =>
    if 127 < c.toNat then .error (.nonAscii place)
    else match value? c with
      | none => .error (.invalid c place)
      | some d => valueOf (place + 1) (acc * 58 + d) rest

/-- The byte string that a base-58 text spells. -/
def decode (s : String) : Except DecodeError Bytes := do
  let cs := s.toList
  let n ← valueOf 0 0 cs
  let zeros := cs.takeWhile (· = '1')
  return zeros.map (fun _ => 0) ++ Bytes.ofNat (Bytes.width n) n

end Rendezvous.Base58
