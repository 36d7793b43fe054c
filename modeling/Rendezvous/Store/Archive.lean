import Rendezvous.Store.Volume

/-!
# Rendezvous.Store.Archive

The bytes of a file. A database begins with a mark, and its rows follow in the order of their
keys; each key and each value stands behind its length. A file that does not read as a
database is other data.

* `StoredFile.toBytes`, `StoredFile.ofBytes`.
-/

namespace Rendezvous.StoredFile

/-- What a database begins with. -/
def mark : Bytes := Bytes.ofString "rendezvous records\n"

/-- The bytes that a length takes. -/
def lengthWidth : Nat := 8

/-- Bytes behind their length. -/
def measured (bs : Bytes) : Bytes := Bytes.ofNat lengthWidth bs.length ++ bs

/-- Takes bytes behind their length off the front. -/
def takeMeasured? (bs : Bytes) : Option (Bytes × Bytes) :=
  let rest := bs.drop lengthWidth
  let length := Bytes.toNat (bs.take lengthWidth)
  if bs.length < lengthWidth ∨ rest.length < length then none
  else some (rest.take length, rest.drop length)

theorem takeMeasured?_shorter {bs front rest : Bytes}
    (h : takeMeasured? bs = some (front, rest)) : rest.length < bs.length := by
  unfold takeMeasured? lengthWidth at h
  dsimp only at h
  split at h
  · cases h
  · cases h
    simp only [List.length_drop]
    omega

/-- The rows that some bytes spell. -/
def readRows? (bs : Bytes) : Option Rows :=
  if bs.isEmpty then some []
  else
    match _h₁ : takeMeasured? bs with
    | none => none
    | some (key, bs') =>
      match _h₂ : takeMeasured? bs' with
      | none => none
      | some (value, bs'') => do
        let key ← Bytes.toString? key
        let rows ← readRows? bs''
        return (key, value) :: rows
termination_by bs.length
decreasing_by
  have h₁ := takeMeasured?_shorter _h₁
  have h₂ := takeMeasured?_shorter _h₂
  omega

/-- The bytes of a row. -/
def rowBytes (row : String × Bytes) : Bytes :=
  measured (Bytes.ofString row.1) ++ measured row.2

/-- The bytes of a file. -/
def toBytes : StoredFile → Bytes
  | .data bytes => bytes
  | .database rows => mark ++ rows.sorted.flatMap rowBytes

/-- The file of some bytes. -/
def ofBytes (bs : Bytes) : StoredFile :=
  if mark.isPrefixOf bs then
    match readRows? (bs.drop mark.length) with
    | some rows => .database rows
    | none => .data bs
  else .data bs

end Rendezvous.StoredFile
