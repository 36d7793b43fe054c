import Rendezvous.Number.Decimal
import Rendezvous.Bytes.Basic

/-!
# Rendezvous.Address.Ip

Addresses of the two versions of the Internet protocol, and of a port at one.

* `Ipv4`, `Ipv6`, `IpAddress`: byte forms and texts;
* `SocketAddress`: an address and a port, with the zone of a version-6 address.

The readers take text off the front of a list of characters, so that an address of one
version can end one of the other.
-/

namespace Rendezvous

/-- A version-4 address, as a number of 32 bits. -/
structure Ipv4 where
  value : Nat
deriving Repr, DecidableEq, Inhabited

/-- A version-6 address, as a number of 128 bits. -/
structure Ipv6 where
  value : Nat
deriving Repr, DecidableEq, Inhabited

/-- An address of either version. -/
inductive IpAddress where
  | v4 (a : Ipv4)
  | v6 (a : Ipv6)
deriving Repr, DecidableEq, Inhabited

/-! ### Numbers inside addresses -/

/-- The value of a digit in a base up to sixteen. -/
def digitIn? (base : Nat) (c : Char) : Option Nat :=
  (Bytes.hexValue? c).filter (· < base)

/-- Takes digits off the front: their count, the number they spell, and the rest. -/
def digitsIn (base : Nat) : (count acc : Nat) → List Char → Nat × Nat × List Char
  | count, acc, [] => (count, acc, [])
  | count, acc, c :: rest =>
    match digitIn? base c with
    | some d => digitsIn base (count + 1) (acc * base + d) rest
    | none => (count, acc, c :: rest)

/-- Takes a number of one to `most` digits off the front. -/
def boundedNumber? (base most : Nat) (cs : List Char) : Option (Nat × List Char) :=
  let (count, n, rest) := digitsIn base 0 0 cs
  if 1 ≤ count ∧ count ≤ most then some (n, rest) else none

/-- Takes a number below a bound off the front, in any number of digits. -/
def numberBelow? (bound : Nat) (cs : List Char) : Option (Nat × List Char) :=
  let (count, n, rest) := digitsIn 10 0 0 cs
  if 1 ≤ count ∧ n < bound then some (n, rest) else none

/-! ### Version 4 -/

namespace Ipv4

/-- The four bytes. -/
def toBytes (a : Ipv4) : Bytes := Bytes.ofNat 4 a.value

/-- The address that four bytes spell. -/
def ofBytes (bs : Bytes) : Ipv4 := ⟨Bytes.toNat bs⟩

/-- The four numbers with dots between them. -/
def toText (a : Ipv4) : String :=
  String.intercalate "." (a.toBytes.map fun b => toString b.toNat)

/-- Takes a number up to 255 without needless zeros off the front. -/
def octet? (cs : List Char) : Option (Nat × List Char) := do
  let (n, rest) ← boundedNumber? 10 3 cs
  let zeroFirst := cs.head? = some '0' ∧ cs.length - rest.length ≠ 1
  if n ≤ 255 ∧ ¬ zeroFirst then some (n, rest) else none

/-- Takes a dot and a number off the front. -/
def dotOctet? : List Char → Option (Nat × List Char)
  | '.' :: rest => octet? rest
  | _ => none

/-- Takes an address off the front. -/
def take? (cs : List Char) : Option (Ipv4 × List Char) := do
  let (a, cs) ← octet? cs
  let (b, cs) ← dotOctet? cs
  let (c, cs) ← dotOctet? cs
  let (d, cs) ← dotOctet? cs
  return (⟨((a * 256 + b) * 256 + c) * 256 + d⟩, cs)

/-- Reads an address. -/
def parse? (s : String) : Option Ipv4 :=
  match take? s.toList with
  | some (a, []) => some a
  | _ => none

end Ipv4

/-! ### Version 6 -/

namespace Ipv6

/-- The sixteen bytes. -/
def toBytes (a : Ipv6) : Bytes := Bytes.ofNat 16 a.value

/-- The address that sixteen bytes spell. -/
def ofBytes (bs : Bytes) : Ipv6 := ⟨Bytes.toNat bs⟩

/-- The eight groups of 16 bits. -/
def groups (a : Ipv6) : List Nat :=
  (List.range 8).map fun i => a.value / Nat.pow 65536 (7 - i) % 65536

/-- The address with the given eight groups. -/
def ofGroups (gs : List Nat) : Ipv6 := ⟨gs.foldl (fun n g => n * 65536 + g) 0⟩

/-- The hexadecimal digits of a group. -/
def groupText (g : Nat) : String := String.ofList (Nat.toDigits 16 g)

/-- Groups with colons between them. -/
def groupsText (gs : List Nat) : String := String.intercalate ":" (gs.map groupText)

/-- The lengths of the runs of zeros that begin at each group. -/
def zeroRuns : List Nat → List Nat
  | [] => []
  | g :: rest =>
    let runs := zeroRuns rest
    (if g = 0 then runs.headD 0 + 1 else 0) :: runs

/-- The first of the longest runs of zeros: where it begins, and its length. -/
def longestRun (gs : List Nat) : Nat × Nat :=
  let runs := zeroRuns gs
  let most := runs.foldl max 0
  (runs.idxOf most, most)

/-- The text in groups: the first of the longest runs of two or more zeros is left out
between two colons. -/
def toGroupText (a : Ipv6) : String :=
  let gs := a.groups
  let (place, length) := longestRun gs
  if 2 ≤ length then
    groupsText (gs.take place) ++ "::" ++ groupsText (gs.drop (place + length))
  else groupsText gs

/-- The text: a version-4 address in its usual place keeps its own form. -/
def toText (a : Ipv6) : String :=
  if a.value / Nat.pow 2 32 = 0xFFFF then "::ffff:" ++ Ipv4.toText ⟨a.value % Nat.pow 2 32⟩
  else a.toGroupText

/-- Takes a colon off the front, unless this is the first group. -/
def separator? (first : Bool) (cs : List Char) : Option (List Char) :=
  if first then some cs
  else match cs with
    | ':' :: rest => some rest
    | _ => none

/-- Takes up to `room` groups off the front, of which the last two may be a version-4
address: the groups, whether they end in one, and the rest. -/
def takeGroups : (room : Nat) → (first : Bool) → List Char → List Nat × Bool × List Char
  | 0, _, cs => ([], false, cs)
  | room + 1, first, cs =>
    let embedded := if room = 0 then none else (separator? first cs).bind Ipv4.take?
    match embedded with
    | some (a, rest) => ([a.value / 65536, a.value % 65536], true, rest)
    | none =>
      match (separator? first cs).bind (boundedNumber? 16 4) with
      | some (g, rest) =>
        let (gs, v4, rest) := takeGroups room false rest
        (g :: gs, v4, rest)
      | none => ([], false, cs)

/-- Takes an address off the front. -/
def take? (cs : List Char) : Option (Ipv6 × List Char) :=
  let (head, v4, rest) := takeGroups 8 true cs
  if head.length = 8 then some (ofGroups head, rest)
  else if v4 then none
  else match rest with
    | ':' :: ':' :: rest =>
      let (tail, _, rest) := takeGroups (7 - head.length) true rest
      let zeros := List.replicate (8 - head.length - tail.length) 0
      some (ofGroups (head ++ zeros ++ tail), rest)
    | _ => none

/-- Reads an address. -/
def parse? (s : String) : Option Ipv6 :=
  match take? s.toList with
  | some (a, []) => some a
  | _ => none

end Ipv6

/-! ### Ports -/

/-- A port at an address; the zone of a version-6 address is zero if there is none. -/
structure SocketAddress where
  ip : IpAddress
  port : Nat
  zone : Nat
deriving Repr, DecidableEq, Inhabited

namespace SocketAddress

/-- The text; a version-6 address stands in brackets. -/
def toText (a : SocketAddress) : String :=
  match a.ip with
  | .v4 ip => ip.toText ++ ":" ++ toString a.port
  | .v6 ip =>
    let zone := if a.zone = 0 then "" else "%" ++ toString a.zone
    "[" ++ ip.toText ++ zone ++ "]:" ++ toString a.port

/-- Reads a colon and a port to the end. -/
def port? : List Char → Option Nat
  | ':' :: rest =>
    match numberBelow? 65536 rest with
    | some (n, []) => some n
    | _ => none
  | _ => none

/-- Reads a socket address. -/
def parse? (s : String) : Option SocketAddress :=
  match s.toList with
  | '[' :: rest => do
    let (ip, rest) ← Ipv6.take? rest
    let (zone, rest) ← match rest with
      | '%' :: rest => numberBelow? (Nat.pow 2 32) rest
      | _ => some (0, rest)
    match rest with
    | ']' :: rest => do
      let port ← port? rest
      return ⟨.v6 ip, port, zone⟩
    | _ => none
  | cs => do
    let (ip, rest) ← Ipv4.take? cs
    let port ← port? rest
    return ⟨.v4 ip, port, 0⟩

end SocketAddress

end Rendezvous
