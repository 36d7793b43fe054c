import Rendezvous.Address.Ip
import Rendezvous.Bytes.Percent
import Rendezvous.Bytes.Utf8
import Rendezvous.Url.Name

/-!
# Rendezvous.Url.Host

The host of a URL: a name, or an address. A name that ends in a number has to be an address
of version 4, which may be written in many ways: with fewer than four parts, and with parts
in octal or hexadecimal.

* `Url.Host.parse?`: reads a host;
* `Url.Host.toText`: the one text by which a host is written.
-/

namespace Rendezvous.Url

/-- The host of a URL. -/
inductive Host where
  | name (s : String)
  | v4 (a : Ipv4)
  | v6 (a : Ipv6)
deriving Repr, DecidableEq, Inhabited

namespace Host

/-- The text of a host. -/
def toText : Host → String
  | .name s => s
  | .v4 a => a.toText
  | .v6 a => "[" ++ a.toGroupText ++ "]"

/-! ### Version 4 -/

/-- A part of an address: a number in decimal, in octal behind a zero, or in hexadecimal
behind `0x`. -/
def part? (cs : List Char) : Option Nat :=
  let read (base : Nat) (ds : List Char) : Option Nat :=
    (ds.mapM (digitIn? base)).map fun values => values.foldl (fun n d => n * base + d) 0
  match cs with
  | [] => none
  | '0' :: 'x' :: rest | '0' :: 'X' :: rest => read 16 rest
  | '0' :: c :: rest => read 8 (c :: rest)
  | _ => read 10 cs

/-- What stands between dots. -/
def labels : List Char → List (List Char)
  | [] => [[]]
  | '.' :: rest => [] :: labels rest
  | c :: rest =>
    match labels rest with
    | l :: ls => (c :: l) :: ls
    | [] => [[c]]

/-- The labels of a name, without the empty one that a dot at the end leaves. -/
def ownLabels (cs : List Char) : List (List Char) :=
  let ls := labels cs
  if 1 < ls.length ∧ ls.getLast? = some [] then ls.dropLast else ls

/-- Whether a name ends in a number. -/
def endsInNumber (cs : List Char) : Bool :=
  match (ownLabels cs).getLast? with
  | none => false
  | some last => (!last.isEmpty && last.all Char.isDigit) || (part? last).isSome

/-- The address that a name ending in a number writes: the last part fills all bytes that
the parts before it leave. -/
def v4? (cs : List Char) : Option Ipv4 := do
  let parts ← (ownLabels cs).mapM part?
  match parts.getLast? with
  | none => none
  | some last =>
    let first := parts.dropLast
    if 4 < parts.length ∨ first.any (255 < ·) then none
    else if Nat.pow 256 (4 - first.length) ≤ last then none
    else
      let high := first.foldl (fun n p => n * 256 + p) 0
      some ⟨high * Nat.pow 256 (4 - first.length) + last⟩

/-! ### Version 6 -/

/-- The groups of hexadecimal digits, or of one trailing address of version 4, between
colons. -/
def groups? (cs : List Char) : Option (List Nat) :=
  let rec split : List Char → List (List Char)
    | [] => [[]]
    | ':' :: rest => [] :: split rest
    | c :: rest =>
      match split rest with
      | g :: gs => (c :: g) :: gs
      | [] => [[c]]
  let rec read : List (List Char) → Option (List Nat)
    | [] => some []
    | [last] =>
      if last.contains '.' then do
        let bytes ← (labels last).mapM fun l => do
          if l.isEmpty ∨ 3 < l.length ∨ (1 < l.length ∧ l.head? = some '0') then none
          else
            let values ← l.mapM (digitIn? 10)
            let n := values.foldl (fun n d => n * 10 + d) 0
            if n < 256 then some n else none
        match bytes with
        | [a, b, c, d] => some [a * 256 + b, c * 256 + d]
        | _ => none
      else (group? last).map fun g => [g]
    | g :: gs => do
      let n ← group? g
      let ns ← read gs
      return n :: ns
  if cs.isEmpty then some [] else read (split cs)
where
  /-- One group: one to four digits. -/
  group? (l : List Char) : Option Nat :=
    if l.isEmpty ∨ 4 < l.length then none
    else (l.mapM (digitIn? 16)).map fun values => values.foldl (fun n d => n * 16 + d) 0

/-- What stands before and behind the first pair of colons. -/
def cutAtGap : List Char → Option (List Char × List Char)
  | ':' :: ':' :: rest => some ([], rest)
  | c :: rest => (cutAtGap rest).map fun (before, behind) => (c :: before, behind)
  | [] => none

/-- Reads an address of version 6: a pair of colons stands for at least one group of zeros. -/
def v6? (cs : List Char) : Option Ipv6 :=
  match cutAtGap cs with
  | none => do
    let gs ← groups? cs
    if gs.length = 8 then some (Ipv6.ofGroups gs) else none
  | some (before, behind) => do
    let head ← if before.contains '.' then none else groups? before
    let tail ← groups? behind
    if head.length + tail.length < 8 then
      some (Ipv6.ofGroups (head ++ List.replicate (8 - head.length - tail.length) 0 ++ tail))
    else none

/-! ### Names -/

/-- Characters of ASCII that no name has. -/
def isForbidden (c : Char) : Bool :=
  c.toNat ≤ 32 || c.toNat == 127 || "%#/:<>?@[\\]^|".toList.contains c

/-- Reads the host of a URL: what stands between brackets is an address of version 6; all
else is a name, in which bytes may be spelled, or an address of version 4. -/
def parse? (cs : List Char) : Option Host :=
  match cs with
  | '[' :: rest =>
    if rest.getLast? = some ']' then (v6? rest.dropLast).map .v6 else none
  | _ => do
    let decoded ← Bytes.toString? (Percent.decode (Bytes.ofString (String.ofList cs)))
    let name ← Name.toAscii? decoded.toList
    if name.isEmpty ∨ name.any isForbidden then none
    else if endsInNumber name then (v4? name).map .v4
    else some (.name (String.ofList name))

end Host

end Rendezvous.Url
