import Rendezvous.Proofs.Store.Change
import Rendezvous.Proofs.Store.Disk

/-!
# Rendezvous.Proofs.Store.Journal

The queue of a store is a journal of its records: the rows that it makes of none hold what is
in memory, at every moment.

* `Store.Journaled`: the invariant, with one lemma for each move;
* `Store.Effect.journaled`, `Store.Journaled.sweep`, `Store.Journaled.swept`: it is kept by
  every change and every sweep.
-/

namespace Rendezvous.Store

variable {s s' : Store} {now : Instant} {c : Change}

/-- The rows that the queue makes of none hold the records, each of which its row tells in
full. -/
structure Journaled (s : Store) : Prop where
  /-- Each record stands under its own key. -/
  filed : ∀ k r, s.records.get? k = some r → r.key = k
  storable : ∀ k r, s.records.get? k = some r → r.Storable
  nextSeq : s.nextSeq < 2 ^ 64
  /-- There is a disk. -/
  queued : s.queue.isSome = true
  holds : (s.flush []).Holds s.records

/-- An empty store with a disk. -/
theorem Journaled.ofRecords_nil (maxTtl : Duration) (location : String) :
    (Store.ofRecords maxTtl location []).Journaled where
  filed _ _ h := by cases h
  storable _ _ h := by cases h
  nextSeq := Nat.mod_lt _ (by decide)
  queued := rfl
  holds := .nil

theorem Journaled.congr (h : s.Journaled) (hr : s'.records = s.records)
    (hq : s'.queue = s.queue) (hn : s'.nextSeq < 2 ^ 64) : s'.Journaled where
  filed := by rw [hr]; exact h.filed
  storable := by rw [hr]; exact h.storable
  nextSeq := hn
  queued := by rw [hq]; exact h.queued
  holds := by rw [flush, hr, hq]; exact h.holds

theorem Journaled.takeSeq (h : s.Journaled) : s.takeSeq.2.Journaled :=
  h.congr rfl rfl (Nat.mod_lt _ (by decide))

theorem Journaled.place (h : s.Journaled) (now : Instant) (k : Record.Key) :
    (s.place now k).2.Journaled := by
  unfold Store.place
  split
  · exact h
  · exact h.takeSeq

/-- The place that a record gets fits 64 bits, be it a new one or that of a record. -/
theorem Journaled.place_lt (h : s.Journaled) (now : Instant) (k : Record.Key) :
    (s.place now k).1 < 2 ^ 64 := by
  unfold Store.place
  split
  · rename_i r hlive
    exact (h.storable k r (live?_eq_some_iff.1 hlive).1).seq
  · exact h.nextSeq

/-- What is put into the queue is the last change of the disk. -/
theorem flush_of_queued {op : WriteOp} (h : s.queue.isSome = true)
    (hq : s'.queue = s.queue.map fun ops => ops ++ [op]) (rows : Rows) :
    s'.queue.isSome = true ∧ s'.flush rows = (s.flush rows).apply op := by
  obtain ⟨ops, hops⟩ := Option.isSome_iff_exists.1 h
  rw [flush, flush, hq, hops]
  exact ⟨rfl, Rows.applyAll_append rows ops op⟩

theorem Journaled.enter (h : s.Journaled) {r : Record} (hr : r.Storable) :
    (s.enter r).Journaled := by
  obtain ⟨hqueued, hrows⟩ := flush_of_queued h.queued (enter_queue s r) []
  refine ⟨?_, ?_, h.nextSeq, hqueued, ?_⟩
  · intro k r' hget
    rw [get?_records_enter] at hget
    split at hget
    · rename_i hk
      cases hget
      exact hk.symm
    · exact h.filed k r' hget
  · intro k r' hget
    rw [get?_records_enter] at hget
    split at hget
    · cases hget
      exact hr
    · exact h.storable k r' hget
  -- What is put into memory and what is put into the queue are the same.
  · rw [hrows]
    exact h.holds.put r

/-- A key that is taken away in memory and in the queue. -/
theorem Journaled.delete (h : s.Journaled) {k : Record.Key}
    (hr : s'.records = s.records.erase k)
    (hq : s'.queue = s.queue.map fun ops => ops ++ [.delete k])
    (hn : s'.nextSeq = s.nextSeq) : s'.Journaled := by
  obtain ⟨hqueued, hrows⟩ := flush_of_queued h.queued hq []
  have hsub {k' : Record.Key} {r : Record} (hget : s'.records.get? k' = some r) :
      s.records.get? k' = some r := by
    rw [hr, Table.get?_erase] at hget
    split at hget
    · cases hget
    · exact hget
  refine ⟨fun k' r hget => h.filed k' r (hsub hget),
    fun k' r hget => h.storable k' r (hsub hget), hn ▸ h.nextSeq, hqueued, ?_⟩
  rw [hrows, hr]
  exact h.holds.delete k

theorem Journaled.evict (h : s.Journaled) (now : Instant) (k : Record.Key) (e : Instant) :
    (s.evict now k e).Journaled :=
  h.delete (evict_records ..) (evict_queue ..) (evict_nextSeq ..)

theorem Journaled.drop (h : s.Journaled) (k : Record.Key) : (s.drop k).Journaled :=
  h.delete rfl rfl rfl

theorem Journaled.sweep (h : s.Journaled) (now : Instant) (ks : List Record.Key) :
    (s.sweep now ks).Journaled :=
  sweep_induction (motive := Journaled) (fun _ k _ h _ _ => h.drop k) ks h

theorem Journaled.swept (h : s.Journaled) (now : Instant) : (s.swept now).Journaled :=
  (h.sweep now (s.expiredKeys now)).congr rfl rfl (h.sweep now _).nextSeq

/-- A time of the clock fits 64 bits. -/
theorem add_lt (t : Instant) (ms : Nat) : t.add ms < 2 ^ 64 :=
  Nat.lt_of_le_of_lt (t.add_le_last ms) (by decide)

theorem cap_lt (s : Store) (now e : Instant) : s.cap now e < 2 ^ 64 :=
  Nat.lt_of_le_of_lt (Nat.min_le_right _ _) (add_lt now _)

/-- **Every effect keeps the journal.** -/
theorem Effect.journaled {answer : Except Error Answer} (he : s.Effect now c s' answer)
    (h : s.Journaled) (hc : ∀ a ∈ c.addrs, a.Readable) : s'.Journaled := by
  cases he with
  | refused _ _ => exact h
  | spent _ _ => exact h.takeSeq
  | registered reg _ =>
      exact (h.place now reg.key).enter ⟨hc, add_lt now _, h.place_lt now reg.key⟩
  | adopted r _ =>
      exact (h.place now r.key).enter ⟨hc, s.cap_lt now _, h.place_lt now r.key⟩
  | ignored _ => exact h
  | missing _ _ => exact h
  | removed k r _ _ => exact h.evict now k r.expiresAt
  | remembered r _ =>
      refine h.congr (bury_records ..) (bury_queue ..) ?_
      rw [bury_nextSeq]
      exact h.nextSeq
  | displaced r _ _ _ _ => exact h.evict now r.key r.expiresAt
  | fresher _ _ _ _ => exact h

end Rendezvous.Store
