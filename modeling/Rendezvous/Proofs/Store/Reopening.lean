import Rendezvous.Proofs.Store.Horizon
import Rendezvous.Proofs.Store.Journal
import Rendezvous.Proofs.Store.Numbering
import Rendezvous.Proofs.Store.Volume

/-!
# Rendezvous.Proofs.Store.Reopening

A store that is closed and opened again, on a file that need not be empty. The rows that it
began with and its queue make up the rows that hold its records; when it is opened again, the
rows of what has expired are dropped, and what is left holds the records that are left. So it
can be closed and opened any number of times.

The place that is next to be handed out is not among the rows. It is found again as the one
after the highest place of the records that are left, wherever it was before.

* `Rows.Holds.reopen`: what is opened on rows that hold records, and what is left of the rows;
* `Store.Backed`: rows and queue together hold the records; `Store.Backed.perform`;
* `Store.Housed`: a store that may be closed and opened again; `Store.Housed.perform`,
  `Store.Housed.close`, `Store.Housed.reopen`.
-/

namespace Rendezvous

/-- The addresses that an operation may bring are read back from their texts. -/
def Operation.Readable : Operation → Prop
  | .upsert reg => ∀ a ∈ reg.addrs, a.Readable
  | .merge r => ∀ a ∈ r.addrs, a.Readable
  | .remove _ | .removeIfNotFresher _ | .reclaim | .close => True

/-! ### The rows that are left -/

namespace Rows

variable {rows : Rows} {records records' : Table Record.Key Record}

theorem Holds.congr (h : rows.Holds records) (hr : ∀ k, records'.get? k = records.get? k) :
    rows.Holds records' where
  distinct := h.distinct
  get? k := by rw [h.get?, hr]
  keyed := h.keyed

theorem Holds.deletes (h : rows.Holds records) (rs : List Record) :
    Holds (rs.foldl (fun rows r => rows.apply (.delete r.key)) rows)
      (rs.foldl (fun t r => t.erase r.key) records) := by
  induction rs generalizing rows records with
  | nil => exact h
  | cons r rest ih => exact ih (h.delete r.key)

theorem get?_foldl_erase (rs : List Record) (t : Table Record.Key Record) (k : Record.Key) :
    (rs.foldl (fun t r => t.erase r.key) t).get? k =
      if k ∈ rs.map Record.key then none else t.get? k := by
  induction rs generalizing t with
  | nil => rfl
  | cons r rest ih =>
      rw [List.foldl_cons, ih, Table.get?_erase, List.map_cons]
      by_cases hk : k = r.key
      · simp [hk]
      · simp [hk]

/-- Without the rows of expired records, rows hold the records that are left. -/
theorem Holds.dropExpired (h : rows.Holds records)
    (hfiled : ∀ k r, records.get? k = some r → r.key = k) {rs : List Record}
    (hrs : ∀ r, r ∈ rs ↔ records.get? r.key = some r) (now : Instant)
    (hr : ∀ k, records'.get? k = (records.get? k).filter fun r => !r.isExpired now) :
    (rows.dropExpired now rs).Holds records' := by
  refine (h.deletes (rs.filter fun r => r.isExpired now)).congr fun k => ?_
  rw [get?_foldl_erase, hr]
  cases hget : records.get? k with
  | none => simp
  | some c =>
      have hkey := hfiled k c hget
      -- The one record that is read for the key is the one that stands there.
      have hgone : k ∈ (rs.filter fun r => r.isExpired now).map Record.key ↔
          c.isExpired now = true := by
        simp only [List.mem_map, List.mem_filter, hrs]
        constructor
        · rintro ⟨r, ⟨hmem, hexpired⟩, rfl⟩
          rw [hget] at hmem
          cases hmem
          exact hexpired
        · intro hexpired
          exact ⟨c, ⟨by rw [hkey, hget], hexpired⟩, hkey⟩
      rw [Option.filter_some]
      by_cases hexpired : c.isExpired now = true
      · have hk := hgone.2 hexpired
        rw [if_pos hk, hexpired]
        rfl
      · have hk := mt hgone.1 hexpired
        rw [if_neg hk, Bool.eq_false_iff.2 hexpired]
        rfl

/-- What is opened on rows that hold some records, and the rows that are left: they hold the
records that are live. -/
theorem Holds.reopen (h : rows.Holds records)
    (hfiled : ∀ k r, records.get? k = some r → r.key = k)
    (hstorable : ∀ k r, records.get? k = some r → r.Storable) (maxTtl : Duration)
    (location : String) (now : Instant) :
    ∃ rs rest, Store.ofRows maxTtl location now rows =
        .ok (Store.ofRecords maxTtl location rs, rest) ∧
      rest.Holds (Store.ofRecords maxTtl location rs).records ∧
      (∀ r, r ∈ rs ↔ records.get? r.key = some r ∧ now < r.expiresAt) ∧
      ∀ k, (Store.ofRecords maxTtl location rs).records.get? k =
        (records.get? k).filter fun r => !r.isExpired now := by
  obtain ⟨rs, hrs, hmem⟩ := h.records_eq hfiled hstorable
  have hrows : Store.ofRows maxTtl location now rows =
      .ok (Store.ofRecords maxTtl location (rs.filter fun r => !r.isExpired now),
        rows.dropExpired now rs) := by
    rw [Store.ofRows, hrs]
    rfl
  obtain ⟨s, rest, hopen, hget⟩ := h.ofRows hfiled hstorable maxTtl location now
  rw [hrows] at hopen
  cases hopen
  refine ⟨_, _, hrows, h.dropExpired hfiled hmem now hget, fun r => ?_, hget⟩
  rw [List.mem_filter, hmem]
  simp [Record.isExpired]

end Rows

namespace Volume

variable {v : Volume} {location : String} {p : Path}

/-- A store is opened on the rows that its file has, and its file is left with the rows that
are left. -/
theorem Houses.openStore_eq (h : v.Houses location p) (hloc : location ≠ Store.inMemory)
    {rows rest : Rows} (hget : v.files.get? p = some (.database rows)) {maxTtl : Duration}
    {now : Instant} {s : Store}
    (hrows : Store.ofRows maxTtl location now rows = .ok (s, rest)) :
    ∃ v', v.openStore location maxTtl now = (v', .ok s) ∧ v'.Houses location p ∧
      v'.files.get? p = some (.database rest) := by
  obtain ⟨w, -, hopen⟩ := h.openDatabase hget
  obtain ⟨hw, -⟩ := h.of_openDatabase hopen
  refine ⟨w.write p (.database rest), ?_, hw.write _, w.get?_write_self p _⟩
  unfold Volume.openStore
  rw [if_neg hloc, hopen]
  dsimp only
  rw [hrows]
  dsimp only
  rw [hw.fileOf]

end Volume

namespace Store

variable {s s' : Store} {now : Instant} {base : Rows}

/-! ### Rows and queue -/

/-- The rows that the queue makes of those that a store began with hold its records, each of
which its row tells in full. -/
structure Backed (base : Rows) (s : Store) : Prop where
  storable : ∀ k r, s.records.get? k = some r → r.Storable
  /-- There is a disk. -/
  queued : s.queue.isSome = true
  holds : (s.flush base).Holds s.records

namespace Backed

theorem congr (h : s.Backed base) (hr : s'.records = s.records) (hq : s'.queue = s.queue) :
    s'.Backed base where
  storable := by rw [hr]; exact h.storable
  queued := by rw [hq]; exact h.queued
  holds := by rw [flush, hr, hq]; exact h.holds

theorem enter (h : s.Backed base) {r : Record} (hr : r.Storable) : (s.enter r).Backed base := by
  obtain ⟨hqueued, hrows⟩ := flush_of_queued h.queued (enter_queue s r) base
  refine ⟨fun k r' hget => ?_, hqueued, ?_⟩
  · rw [get?_records_enter] at hget
    split at hget
    · cases hget
      exact hr
    · exact h.storable k r' hget
  · rw [hrows]
    exact h.holds.put r

theorem delete (h : s.Backed base) {k : Record.Key} (hr : s'.records = s.records.erase k)
    (hq : s'.queue = s.queue.map fun ops => ops ++ [.delete k]) : s'.Backed base := by
  obtain ⟨hqueued, hrows⟩ := flush_of_queued h.queued hq base
  refine ⟨fun k' r hget => ?_, hqueued, ?_⟩
  · rw [hr, Table.get?_erase] at hget
    split at hget
    · cases hget
    · exact h.storable k' r hget
  · rw [hrows, hr]
    exact h.holds.delete k

theorem evict (h : s.Backed base) (now : Instant) (k : Record.Key) (e : Instant) :
    (s.evict now k e).Backed base :=
  h.delete (evict_records ..) (evict_queue ..)

theorem swept (h : s.Backed base) (now : Instant) : (s.swept now).Backed base := by
  refine (?_ : (s.sweep now (s.expiredKeys now)).Backed base).congr rfl rfl
  exact sweep_induction (motive := Backed base) (fun _ k _ h _ _ => h.delete rfl rfl) _ h

/-- A record that is entered in the place that its key is given. -/
theorem enter_placed (h : s.Backed base) (hnext : s.nextSeq < seqBound) {r : Record}
    (haddrs : ∀ a ∈ r.addrs, a.Readable) (hexpiry : r.expiresAt < 2 ^ 64)
    (hseq : r.seq = (s.place now r.key).1) : ((s.place now r.key).2.enter r).Backed base := by
  refine (h.congr (place_records ..) (place_queue ..)).enter ⟨haddrs, hexpiry, ?_⟩
  rw [hseq, Store.place]
  split
  · rename_i c hlive
    exact (h.storable _ c (live?_eq_some_iff.1 hlive).1).seq
  · exact hnext

theorem perform (h : s.Backed base) (hnext : s.nextSeq < seqBound) {op : Operation}
    (hread : op.Readable) : (s.perform now op).Backed base := by
  by_cases hclosed : s.closed = true
  · rwa [perform_of_closed hclosed]
  have hopen : s.closed = false := Bool.eq_false_iff.2 hclosed
  cases op with
  | upsert reg =>
      rw [Store.perform, upsert_eq hopen]
      exact h.enter_placed (r := s.granted now reg) hnext hread (add_lt now _) rfl
  | merge r =>
      rw [Store.perform]
      rcases merge_cases hopen now r with ⟨-, he⟩ | ⟨-, he⟩
      · rwa [he]
      · rw [he]
        exact h.enter_placed (r := s.adopted now r) hnext hread (s.cap_lt now _) rfl
  | remove k =>
      rw [Store.perform, remove_eq hopen]
      cases s.records.get? k with
      | none => exact h
      | some c => exact h.evict now k _
  | removeIfNotFresher r =>
      rw [Store.perform, removeIfNotFresher_eq hopen]
      cases s.records.get? r.key with
      | none => exact h.congr (bury_records ..) (bury_queue ..)
      | some c =>
          dsimp only
          split
          · exact h.evict now r.key _
          · exact h
  | reclaim =>
      rw [Store.perform, reclaim_fst, hopen]
      exact h.swept now
  | close => exact h.congr rfl rfl

end Backed

/-! ### Places found again -/

/-- The highest place of some records; 0, if there are none. -/
def topSeq (rs : List Record) : Nat := rs.foldl (fun m r => Nat.max m r.seq) 0

theorem foldl_max_seq (rs : List Record) (m : Nat) :
    m ≤ rs.foldl (fun m r => Nat.max m r.seq) m ∧
    (∀ r ∈ rs, r.seq ≤ rs.foldl (fun m r => Nat.max m r.seq) m) ∧
    (rs.foldl (fun m r => Nat.max m r.seq) m = m ∨
      ∃ r ∈ rs, r.seq = rs.foldl (fun m r => Nat.max m r.seq) m) := by
  induction rs generalizing m with
  | nil => exact ⟨Nat.le_refl m, nofun, .inl rfl⟩
  | cons c rest ih =>
      obtain ⟨hle, hall, hattained⟩ := ih (Nat.max m c.seq)
      have hm : m ≤ Nat.max m c.seq := Nat.le_max_left ..
      have hc : c.seq ≤ Nat.max m c.seq := Nat.le_max_right ..
      rw [List.foldl_cons]
      refine ⟨Nat.le_trans hm hle, ?_, ?_⟩
      · intro r hr
        rcases List.mem_cons.1 hr with rfl | hr
        · exact Nat.le_trans hc hle
        · exact hall r hr
      · rcases hattained with heq | ⟨r, hr, hseq⟩
        · rcases Nat.le_total c.seq m with hcm | hmc
          · exact .inl (heq.trans (Nat.max_eq_left hcm))
          · exact .inr ⟨c, List.mem_cons_self, (heq.trans (Nat.max_eq_right hmc)).symm⟩
        · exact .inr ⟨r, List.mem_cons_of_mem c hr, hseq⟩

theorem le_topSeq {rs : List Record} {r : Record} (hr : r ∈ rs) : r.seq ≤ topSeq rs :=
  (foldl_max_seq rs 0).2.1 r hr

theorem topSeq_attained (rs : List Record) : topSeq rs = 0 ∨ ∃ r ∈ rs, r.seq = topSeq rs :=
  (foldl_max_seq rs 0).2.2

/-- What is found in the store that some records make is one of them. -/
theorem mem_of_get?_ofRecords {maxTtl : Duration} {location : String} {rs : List Record}
    {k : Record.Key} {r : Record}
    (hget : (Store.ofRecords maxTtl location rs).records.get? k = some r) :
    r ∈ rs ∧ r.key = k := by
  refine ⟨?_, (WellFormed.ofRecords maxTtl location rs).filed k r hget⟩
  suffices h : ∀ t : Table Record.Key Record,
      (rs.foldl (fun t r => t.insert r.key r) t).get? k = some r → r ∈ rs ∨ t.get? k = some r by
    exact (h [] hget).resolve_right nofun
  clear hget
  induction rs with
  | nil => exact fun _ hget => .inr hget
  | cons c rest ih =>
      intro t hget
      rcases ih (t.insert c.key c) hget with hmem | hold
      · exact .inl (List.mem_cons_of_mem c hmem)
      · rw [Table.get?_insert] at hold
        split at hold
        · cases hold
          exact .inl List.mem_cons_self
        · exact .inr hold

/-- What is opened with records that stand where records of a store stood counts on from the
highest of their places. -/
theorem Numbered.ofRecords {n : Nat} (h : s.Numbered n) {rs : List Record}
    (hrs : ∀ r ∈ rs, ∃ c, s.records.get? r.key = some c ∧ c.seq = r.seq)
    (maxTtl : Duration) (location : String) :
    (Store.ofRecords maxTtl location rs).Numbered (topSeq rs) ∧ topSeq rs ≤ n := by
  refine ⟨⟨rfl, fun k r hr => ?_, fun k k' r r' hr hr' heq => ?_⟩, ?_⟩
  · obtain ⟨hmem, -⟩ := mem_of_get?_ofRecords hr
    obtain ⟨c, hc, hseq⟩ := hrs r hmem
    exact ⟨hseq ▸ (h.placed _ c hc).1, le_topSeq hmem⟩
  · obtain ⟨hmem, rfl⟩ := mem_of_get?_ofRecords hr
    obtain ⟨hmem', rfl⟩ := mem_of_get?_ofRecords hr'
    obtain ⟨c, hc, hseq⟩ := hrs r hmem
    obtain ⟨c', hc', hseq'⟩ := hrs r' hmem'
    exact h.apart _ _ c c' hc hc' (hseq.trans (heq.trans hseq'.symm))
  · rcases topSeq_attained rs with hzero | ⟨r, hr, hseq⟩
    · omega
    · obtain ⟨c, hc, hsame⟩ := hrs r hr
      rw [← hseq, ← hsame]
      exact (h.placed _ c hc).2

/-! ### Closing and opening -/

theorem perform_location (s : Store) (now : Instant) (op : Operation) :
    (s.perform now op).location = s.location := by
  have hmove := s.move_perform now op
  generalize s.inserts now op = inserted, s.perform now op = s' at hmove
  cases hmove with
  | stay | close => rfl
  | enter => exact place_location ..
  | evict => exact evict_location ..
  | bury => exact bury_location ..
  | sweep => exact swept_location ..

/-- A store with a file of its own, which has the rows that the store began with and, once it
is closed, those that its queue has made of them. -/
structure Housed (location : String) (p : Path) (v : Volume) (base : Rows) (s : Store) :
    Prop where
  wellFormed : s.WellFormed
  backed : s.Backed base
  located : s.location = location
  houses : v.Houses location p
  file : v.files.get? p = some (.database (if s.closed then s.flush base else base))

namespace Housed

variable {location : String} {p : Path} {v : Volume}

theorem perform (h : s.Housed location p v base) (hnext : s.nextSeq < seqBound) {op : Operation}
    (hread : op.Readable) (hop : op ≠ .close) : (s.perform now op).Housed location p v base := by
  by_cases hclosed : s.closed = true
  · rwa [perform_of_closed hclosed]
  have hfile := h.file
  rw [if_neg hclosed] at hfile
  refine ⟨h.wellFormed.perform now op, h.backed.perform hnext hread, ?_, h.houses, ?_⟩
  · rw [perform_location, h.located]
  · rw [(s.perform_fixed now op).2 hop, if_neg hclosed, hfile]

/-- A store is closed, if it was not. -/
theorem close (h : s.Housed location p v base) :
    s.close.Housed location p (v.closeStore s).1 base := by
  have hbacked : s.close.Backed base := h.backed.congr rfl rfl
  have hwf : s.close.WellFormed := h.wellFormed.congr rfl rfl
  have hfile := h.file
  by_cases hclosed : s.closed = true
  · have hsame : v.closeStore s = (v, s) := if_pos hclosed
    rw [if_pos hclosed] at hfile
    rw [hsame]
    exact ⟨hwf, hbacked, h.located, h.houses, hfile⟩
  · rw [if_neg hclosed] at hfile
    have hhouses : v.Houses s.location p := h.located.symm ▸ h.houses
    have hwritten := hhouses.closeStore (Bool.eq_false_iff.2 hclosed) h.backed.queued hfile
    rw [hwritten]
    exact ⟨hwf, hbacked, h.located, h.houses.write _, v.get?_write_self p _⟩

/-- **A store is opened again with the records that were live,** and counts on from the highest
of their places. -/
theorem reopen (h : s.Housed location p v base) (hloc : location ≠ Store.inMemory) {n : Nat}
    (hn : s.Numbered n) (maxTtl : Duration) (now : Instant) :
    ∃ v' base' s' m, (v.closeStore s).1.openStore location maxTtl now = (v', .ok s') ∧
      s'.Housed location p v' base' ∧ s'.closed = false ∧
      (∀ k, s'.records.get? k = s.live? now k) ∧ s'.Numbered m ∧ m ≤ n ∧
      (m = 0 ∨ ∃ k r, s.live? now k = some r ∧ r.seq = m) := by
  have hclose := h.close
  have hfile := hclose.file
  obtain ⟨rs, rest, hrows, hholds, hmem, hget⟩ :=
    h.backed.holds.reopen h.wellFormed.filed h.backed.storable maxTtl location now
  obtain ⟨v', hopen, hhouses, hleft⟩ := hclose.houses.openStore_eq hloc hfile hrows
  obtain ⟨hnumbered, hle⟩ :=
    hn.ofRecords (fun r hr => ⟨r, ((hmem r).1 hr).1, rfl⟩) maxTtl location
  refine ⟨v', rest, _, topSeq rs, hopen, ⟨.ofRecords .., ⟨?_, rfl, hholds⟩, rfl, hhouses, hleft⟩,
    rfl, hget, hnumbered, hle, ?_⟩
  · intro k r hr
    rw [hget] at hr
    exact h.backed.storable k r (live?_eq_some_iff.1 hr).1
  · rcases topSeq_attained rs with hzero | ⟨r, hr, hseq⟩
    · exact .inl hzero
    · exact .inr ⟨r.key, r, live?_eq_some_iff.2 ((hmem r).1 hr), hseq⟩

/-- What is opened on an empty file, or where there is none. -/
theorem of_openStore {v₀ : Volume} {maxTtl : Duration} {t : Instant}
    (hloc : location ≠ Store.inMemory)
    (hempty : (v₀.database? (v₀.fileOf location)).getD [] = [])
    (hopen : v₀.openStore location maxTtl t = (v, .ok s)) :
    s.Housed location (v₀.fileOf location) v [] ∧ s.Numbered 0 := by
  obtain ⟨rfl, hhouses, hfile⟩ := Volume.openStore_of_empty hloc hempty hopen
  refine ⟨⟨.ofRecords .., ⟨nofun, rfl, .nil⟩, rfl, hhouses, hfile⟩, ?_⟩
  exact ⟨rfl, nofun, nofun⟩

end Housed

end Store

end Rendezvous
