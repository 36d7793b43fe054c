import Rendezvous.Store.Record
import Rendezvous.Data.Table

/-!
# Rendezvous.Store.Basic

The record store. A registration made here replaces the one before it; one heard of from
another node counts only if it expires later than what is known, be it a record or the
*tombstone* of a removed one. A tombstone keeps the expiry of what was removed until that
moment has passed.

Every operation is given the time. An operation on a closed store fails; so does one during
which the store is closed, at the moment at which it would change the disk, and then it has
changed nothing.

* `Store`, `Store.Error`;
* `Store.upsert`, `Store.merge`, `Store.remove`, `Store.removeIfNotFresher`,
  `Store.reclaim`: the changes;
* `Store.get`, `Store.query`: what is registered, of a key and in the order of insertion.
-/

namespace Rendezvous

/-- A change of the disk. -/
inductive WriteOp where
  | put (record : Record)
  | delete (key : Record.Key)
deriving DecidableEq

/-- What a registration did. -/
inductive UpsertOutcome where
  /-- There was no live record. -/
  | inserted
  /-- A live record was replaced; its place in the order was kept. -/
  | refreshed
deriving Repr, DecidableEq, Inhabited

/-- A part of what is registered, in the order of insertion. -/
structure Page where
  records : List Record
  /-- The place behind which the next page begins. -/
  cursor : Nat
deriving DecidableEq

/-- A store. -/
structure Store where
  records : Table Record.Key Record
  /-- The expiries of removed records. -/
  tombstones : Table Record.Key Instant
  /-- The place in the order that the next record gets. -/
  nextSeq : Nat
  /-- The longest lifetime that is granted, and believed. -/
  maxTtl : Duration
  location : String
  closed : Bool
  /-- The changes that the disk has yet to see, the oldest first, if there is a disk. -/
  queue : Option (List WriteOp)

namespace Store

/-- Why a store does not do what is asked. -/
inductive Error where
  | closed
deriving Repr, DecidableEq, Inhabited

/-- The wording of an error. -/
def Error.message : Error → String
  | .closed => "record store is closed"

/-- The number of places in the order; after the last comes 0. -/
def seqBound : Nat := Nat.pow 2 64

/-- Where a store without a disk is. -/
def inMemory : String := ":memory:"

/-- An empty store without a disk. -/
def empty (maxTtl : Duration) : Store :=
  { records := [], tombstones := [], nextSeq := 1, maxTtl, location := inMemory,
    closed := false, queue := none }

/-- The milliseconds of a lifetime, in as many bits as the clock has. -/
def clockMillis (d : Duration) : Nat := d.millis % Nat.pow 2 64

/-- The expiry that is believed of a record heard of. -/
def cap (s : Store) (now expiresAt : Instant) : Instant :=
  Nat.min expiresAt (now.add (clockMillis s.maxTtl))

/-- The live record of a key. -/
def live? (s : Store) (now : Instant) (k : Record.Key) : Option Record :=
  (s.records.get? k).filter fun r => !r.isExpired now

/-- Hands out the next place in the order. -/
def takeSeq (s : Store) : Nat × Store :=
  (s.nextSeq, { s with nextSeq := (s.nextSeq + 1) % seqBound })

/-- Puts a change of the disk into the queue, unless the store is closed. -/
def persist (s : Store) (op : WriteOp) : Except Error Store :=
  if s.closed then .error .closed
  else .ok { s with queue := s.queue.map fun ops => ops ++ [op] }

/-- Remembers the expiry of something removed, if it lies ahead. -/
def bury (s : Store) (now : Instant) (k : Record.Key) (expiresAt : Instant) : Store :=
  if expiresAt ≤ now then s
  else
    { s with tombstones :=
        s.tombstones.alter k fun t? => Nat.max expiresAt (t?.getD expiresAt) }

/-- A change and its answer; if the change fails, the store is as `failed` says. -/
def commit {α : Type} (failed : Store) (changed : Except Error Store) (answer : α)
    (finish : Store → Store) : Store × Except Error α :=
  match changed with
  | .ok s => (finish s, .ok answer)
  | .error e => (failed, .error e)

/-! ### Changes -/

/-- Registers, once the store has been found open. -/
def upsertOpen (s : Store) (now : Instant) (reg : Registration) :
    Store × Except Error (Record × UpsertOutcome) :=
  let expiresAt := now.add (clockMillis (reg.ttl.min s.maxTtl))
  let record (seq : Nat) : Record := ⟨reg.namespaceName, reg.peer, reg.addrs, expiresAt, seq⟩
  match s.records.get? reg.key with
  | some current =>
    if current.isExpired now then
      let (seq, s) := s.takeSeq
      commit s (s.persist (.put (record seq))) (record seq, .inserted) fun s =>
        { s with records := s.records.insert reg.key (record seq) }
    else
      commit s (s.persist (.put (record current.seq))) (record current.seq, .refreshed) fun s =>
        { s with records := s.records.insert reg.key (record current.seq) }
  | none =>
    let (seq, s) := s.takeSeq
    commit s (s.persist (.put (record seq))) (record seq, .inserted) fun s =>
      { s with records := s.records.insert reg.key (record seq),
               tombstones := s.tombstones.erase reg.key }

/-- Registers. The newest registration always counts, whether it expires earlier or later
than the one before, and takes the tombstone away. -/
def upsert (s : Store) (now : Instant) (reg : Registration) :
    Store × Except Error (Record × UpsertOutcome) :=
  if s.closed then (s, .error .closed) else s.upsertOpen now reg

/-- Takes over a record of another node, once the store has been found open. -/
def mergeOpen (s : Store) (now : Instant) (r : Record) : Store × Except Error Bool :=
  let expiresAt := s.cap now r.expiresAt
  let merged (seq : Nat) : Record := { r with expiresAt, seq }
  if expiresAt ≤ now then (s, .ok false)
  else
    match s.records.get? r.key with
    | some current =>
      if current.isExpired now then
        let (seq, s) := s.takeSeq
        commit s (s.persist (.put (merged seq))) true fun s =>
          { s with records := s.records.insert r.key (merged seq) }
      else if expiresAt ≤ current.expiresAt then (s, .ok false)
      else
        commit s (s.persist (.put (merged current.seq))) true fun s =>
          { s with records := s.records.insert r.key (merged current.seq) }
    | none =>
      if (s.tombstones.get? r.key).any (expiresAt ≤ ·) then (s, .ok false)
      else
        let (seq, s) := s.takeSeq
        commit s (s.persist (.put (merged seq))) true fun s =>
          { s with records := s.records.insert r.key (merged seq),
                   tombstones := s.tombstones.erase r.key }

/-- Takes over a record of another node, if it expires later than what is known of its key.
Answers whether it did. -/
def merge (s : Store) (now : Instant) (r : Record) : Store × Except Error Bool :=
  if s.closed then (s, .error .closed) else s.mergeOpen now r

/-- Removes a key, once the store has been found open. -/
def removeOpen (s : Store) (now : Instant) (k : Record.Key) :
    Store × Except Error (Option Record) :=
  match s.records.get? k with
  | none => (s, .ok none)
  | some current =>
    commit s (s.persist (.delete k)) (some current) fun s =>
      let s := s.bury now k current.expiresAt
      { s with records := s.records.erase k }

/-- Removes a key and leaves a tombstone. Answers the record that was there, live or not. -/
def remove (s : Store) (now : Instant) (k : Record.Key) :
    Store × Except Error (Option Record) :=
  if s.closed then (s, .error .closed) else s.removeOpen now k

/-- Takes over a removal by another node, once the store has been found open. -/
def removeIfNotFresherOpen (s : Store) (now : Instant) (r : Record) :
    Store × Except Error Bool :=
  match s.records.get? r.key with
  | none => (s.bury now r.key r.expiresAt, .ok false)
  | some current =>
    if current.expiresAt ≤ r.expiresAt then
      commit s (s.persist (.delete r.key)) true fun s =>
        let s := s.bury now r.key r.expiresAt
        { s with records := s.records.erase r.key }
    else (s, .ok false)

/-- Takes over a removal by another node: what is stored goes unless it expires later. Where
nothing is stored the removal is remembered, so that it also wins against a record that it
has overtaken. -/
def removeIfNotFresher (s : Store) (now : Instant) (r : Record) : Store × Except Error Bool :=
  if s.closed then (s, .error .closed) else s.removeIfNotFresherOpen now r

/-- Drops the records of some keys that have expired, and counts them. -/
def reclaimKeys (s : Store) (now : Instant) : (count : Nat) → List Record.Key →
    Store × Except Error Nat
  | count, [] => (s, .ok count)
  | count, k :: rest =>
    match s.records.get? k with
    | none => s.reclaimKeys now count rest
    | some r =>
      if r.isExpired now then
        match s.persist (.delete k) with
        | .error e => (s, .error e)
        | .ok s => reclaimKeys { s with records := s.records.erase k } now (count + 1) rest
      else s.reclaimKeys now count rest

/-- Drops what has expired, once the store has been found open. -/
def reclaimOpen (s : Store) (now : Instant) : Store × Except Error Nat :=
  let expired := (s.records.filter fun e => e.2.isExpired now).map (·.1)
  match s.reclaimKeys now 0 expired with
  | (s, .error e) => (s, .error e)
  | (s, .ok count) =>
    ({ s with tombstones := s.tombstones.retain fun t => now < t }, .ok count)

/-- Drops the records and tombstones that have expired. Answers how many records went. -/
def reclaim (s : Store) (now : Instant) : Store × Except Error Nat :=
  if s.closed then (s, .error .closed) else s.reclaimOpen now

/-- Closes the store. -/
def close (s : Store) : Store := { s with closed := true }

/-! ### Questions -/

/-- The live record of a key. -/
def get (s : Store) (now : Instant) (k : Record.Key) : Except Error (Option Record) :=
  if s.closed then .error .closed else .ok (s.live? now k)

/-- Whether a record belongs to a page behind `cursor` of a namespace, or of all if it is
empty. -/
def onPage (now : Instant) (namespaceName : String) (cursor : Nat) (r : Record) : Bool :=
  cursor < r.seq && !r.isExpired now
    && (namespaceName.isEmpty || r.namespaceName == namespaceName)

/-- The first `limit` live records behind `cursor` of a namespace, or of all if it is empty. -/
def query (s : Store) (now : Instant) (namespaceName : String) (limit cursor : Nat) :
    Except Error Page :=
  if s.closed then .error .closed
  else
    let found := (s.records.values.filter (onPage now namespaceName cursor)).mergeSort
      fun a b => a.seq ≤ b.seq
    let records := found.take limit
    .ok ⟨records, (records.getLast?.map (·.seq)).getD cursor⟩

/-- The number of records, expired ones that were not reclaimed among them. -/
def size (s : Store) : Nat := s.records.length

/-- The number of tombstones that were not reclaimed. -/
def tombstoneCount (s : Store) : Nat := s.tombstones.length

end Store

end Rendezvous
