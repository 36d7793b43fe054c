import Rendezvous.Bytes.Basic

/-!
# Rendezvous.Bytes.Utf8

Where and how bytes fail to be UTF-8: the place of the first bad sequence, and how many of
its bytes are wrong together, or that it stops short at the end.
-/

namespace Rendezvous.Utf8

/-- A first bad sequence. -/
structure Flaw where
  /-- How many bytes before it are good. -/
  place : Nat
  /-- How many bytes are wrong together; none if the sequence only stops short. -/
  length : Option Nat
deriving Repr, DecidableEq

/-- The wording of a flaw. -/
def Flaw.message (f : Flaw) : String :=
  match f.length with
  | some n =>
    "invalid utf-8 sequence of " ++ toString n ++ " bytes from index " ++ toString f.place
  | none => "incomplete utf-8 byte sequence from index " ++ toString f.place

/-- How a sequence goes on after its first byte: how many bytes follow, and between which
bounds the first of them lies. -/
def continuation? (b : UInt8) : Option (Nat × Nat × Nat) :=
  let n := b.toNat
  if n < 0x80 then some (0, 0, 0)
  else if n < 0xC2 then none
  else if n ≤ 0xDF then some (1, 0x80, 0xBF)
  else if n = 0xE0 then some (2, 0xA0, 0xBF)
  else if n = 0xED then some (2, 0x80, 0x9F)
  else if n ≤ 0xEF then some (2, 0x80, 0xBF)
  else if n = 0xF0 then some (3, 0x90, 0xBF)
  else if n ≤ 0xF3 then some (3, 0x80, 0xBF)
  else if n = 0xF4 then some (3, 0x80, 0x8F)
  else none

/-- Looks for the first flaw. `pending` is how many bytes of a sequence are still to come,
the next of them between `lo` and `hi`, and `seen` how many have come. -/
def flawFrom : (place seen pending lo hi : Nat) → Bytes → Option Flaw
  | _, _, 0, _, _, [] => none
  | place, _, _ + 1, _, _, [] => some ⟨place, none⟩
  | place, seen, pending + 1, lo, hi, b :: rest =>
    if lo ≤ b.toNat ∧ b.toNat ≤ hi then
      if pending = 0 then flawFrom (place + seen + 1) 0 0 0 0 rest
      else flawFrom place (seen + 1) pending 0x80 0xBF rest
    else some ⟨place, some seen⟩
  | place, _, 0, _, _, b :: rest =>
    match continuation? b with
    | none => some ⟨place, some 1⟩
    | some (0, _, _) => flawFrom (place + 1) 0 0 0 0 rest
    | some (n + 1, lo, hi) => flawFrom place 1 (n + 1) lo hi rest

/-- The first flaw, if there is one. -/
def flaw? (bs : Bytes) : Option Flaw := flawFrom 0 0 0 0 0 bs

end Rendezvous.Utf8
