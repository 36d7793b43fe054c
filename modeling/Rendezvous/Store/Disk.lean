import Rendezvous.Store.Basic

/-!
# Rendezvous.Store.Disk

The store on disk: a table of rows, one for each record, that a writer brings up to date in
batches. It is read once, when the store is opened.

* `Rows`, `Rows.apply`: the table and what a change does to it;
* `Rows.applyBatches`: the writer;
* `Store.ofRows`: opening.
-/

namespace Rendezvous

/-- The rows of a database: values by key. -/
abbrev Rows : Type := Table String Bytes

/-- The key of a record's row: namespace and peer, with a NUL between them. -/
def Record.rowKey (k : Record.Key) : String := k.1 ++ "\x00" ++ k.2.toText

/-- The value of a record's row: its JSON text. -/
def Record.rowValue (r : Record) : Bytes := Bytes.ofString r.toJson.render

/-- A row whose value is no record. -/
structure CorruptRow where
  key : String
  cause : Json.DecodeError
deriving Repr, DecidableEq

namespace Rows

/-- Makes one change. -/
def apply (rows : Rows) : WriteOp → Rows
  | .put r => rows.insert (Record.rowKey r.key) r.rowValue
  | .delete k => rows.erase (Record.rowKey k)

/-- Makes changes, one after the other. -/
def applyAll (rows : Rows) (ops : List WriteOp) : Rows := ops.foldl apply rows

/-- Makes changes batch by batch. -/
def applyBatches (rows : Rows) (batches : List (List WriteOp)) : Rows :=
  batches.foldl applyAll rows

theorem applyBatches_eq (rows : Rows) (batches : List (List WriteOp)) :
    rows.applyBatches batches = rows.applyAll batches.flatten := by
  induction batches generalizing rows with
  | nil => rfl
  | cons b bs ih =>
    rw [List.flatten_cons, applyAll, List.foldl_append]
    exact ih _

/-- The rows in the order of their keys. -/
def sorted (rows : Rows) : List (String × Bytes) := rows.mergeSort fun a b => a.1 ≤ b.1

/-- The records of rows, in order. -/
def decode : List (String × Bytes) → Except CorruptRow (List Record)
  | [] => .ok []
  | (key, value) :: rest =>
    match Json.decode Record.decoder value with
    | .error cause => .error ⟨key, cause⟩
    | .ok r => (decode rest).map (r :: ·)

/-- All records, in the order of their rows' keys. -/
def records (rows : Rows) : Except CorruptRow (List Record) := decode rows.sorted

/-- The rows without those of records that have expired. -/
def dropExpired (rows : Rows) (now : Instant) (rs : List Record) : Rows :=
  (rs.filter fun r => r.isExpired now).foldl (fun rows r => rows.apply (.delete r.key)) rows

end Rows

namespace Store

/-- The store that some records make; of two with one key the later counts. -/
def ofRecords (maxTtl : Duration) (location : String) (rs : List Record) : Store :=
  { records := rs.foldl (fun t r => t.insert r.key r) [], tombstones := [],
    nextSeq := (rs.foldl (fun m r => Nat.max m r.seq) 0 + 1) % seqBound,
    maxTtl, location, closed := false, queue := some [] }

/-- Opens a store on a database: the store, and what is left of the rows once those of
expired records have gone. -/
def ofRows (maxTtl : Duration) (location : String) (now : Instant) (rows : Rows) :
    Except CorruptRow (Store × Rows) := do
  let rs ← rows.records
  return (ofRecords maxTtl location (rs.filter fun r => !r.isExpired now),
    rows.dropExpired now rs)

/-- The rows once the writer has seen all changes. -/
def flush (s : Store) (rows : Rows) : Rows := rows.applyAll (s.queue.getD [])

end Store

end Rendezvous
