import Rendezvous.Proofs.Json.Tells
import Rendezvous.Proofs.Store.Reopening

/-!
# Rendezvous.Proofs.Store.Rereading

Rows are read again. Nothing is known here of the addresses of a record, which may be read back as
other addresses, or not at all; but if a row is read, its record has its key and its place again.

* `Record.of_decode_rowValue`: what is read of a row;
* `Rows.Keeps`: rows keep the places of records; `Rows.Keeps.put`, `Rows.Keeps.delete`;
* `Rows.Keeps.reread`: what is opened on such rows.
-/

namespace Rendezvous

namespace Record

open Json (Fields)

variable {r r' : Record}

/-- The numbers of a record fit 64 bits. -/
structure Bounded (r : Record) : Prop where
  expiresAt : r.expiresAt < 2 ^ 64
  seq : r.seq < 2 ^ 64

/-- A record that is read from a row is that of the row, but for its addresses. -/
theorem of_decode_rowValue (hr : r.Bounded) (h : Json.decode decoder r.rowValue = .ok r') :
    r' = { r with addrs := r'.addrs } := by
  -- Of the addresses it is known that they are read, and not as what.
  have haddrs := Fields.tells_nothing 1 "addrs" (Json.list Multiaddr.decoder)
    (.array (r.addrs.map Multiaddr.toJson))
  have hns := Fields.tells_map mk
    (Fields.tells_required "namespace" (Json.reads_text 1 r.namespaceName))
  have hpeer := Fields.tells_seq hns
    (Fields.tells_required "peer" (r.peer.reads_decoder 1)) (by decide)
  have haddrs' := Fields.tells_seq hpeer haddrs (by decide)
  have hexpires := Fields.tells_seq haddrs'
    (Fields.tells_required "expires_at" (Json.reads_word64 1 hr.expiresAt)) (by decide)
  have hall := Fields.tells_seq hexpires
    (Fields.tells_optional "seq" 0 (Json.reads_word64 1 hr.seq)) (by decide)
  obtain ⟨-, -, ⟨-, -, ⟨-, as, ⟨-, -, ⟨-, rfl, rfl⟩, rfl, rfl⟩, -, rfl⟩, rfl, rfl⟩, rfl, rfl⟩ :=
    Json.of_decode_render hall (by decide) (plain_of_lt hr.expiresAt hr.seq) h
  rfl

/-- What a row keeps of its record, whatever becomes of the addresses. -/
def spot (r : Record) : Key × Nat := (r.key, r.seq)

theorem spot_of_decode (hr : r.Bounded) (h : Json.decode decoder r.rowValue = .ok r') :
    r'.spot = r.spot := by
  rw [of_decode_rowValue hr h]
  rfl

end Record

namespace Rows

/-- What is read from some rows is what is read from each. -/
theorem of_decode {entries : List (String × Bytes)} {rs : List Record}
    (h : decode entries = .ok rs) :
    (∀ e ∈ entries, ∃ r, Json.decode Record.decoder e.2 = .ok r) ∧
      ∀ r, r ∈ rs ↔ ∃ e ∈ entries, Json.decode Record.decoder e.2 = .ok r := by
  induction entries generalizing rs with
  | nil =>
      cases h
      simp
  | cons e entries ih =>
      obtain ⟨key, value⟩ := e
      rw [decode] at h
      cases hread : Json.decode Record.decoder value with
      | error cause =>
          rw [hread] at h
          cases h
      | ok c =>
          rw [hread] at h
          obtain ⟨rest, hrest, rfl⟩ := map_eq_ok_iff.1 h
          obtain ⟨hall, hmem⟩ := ih hrest
          refine ⟨List.forall_mem_cons.2 ⟨⟨c, hread⟩, hall⟩, fun r => ?_⟩
          rw [List.mem_cons, hmem, List.exists_mem_cons_iff, hread, Except.ok.injEq, eq_comm]

/-- Rows hold some records, which stand where those in memory stand. -/
structure Keeps (rows : Rows) (written records : Table Record.Key Record) : Prop where
  holds : rows.Holds written
  bounded : ∀ k r, written.get? k = some r → r.Bounded
  same : ∀ k, (written.get? k).map Record.spot = (records.get? k).map Record.spot

namespace Keeps

variable {rows rest : Rows} {written records : Table Record.Key Record}

theorem nil : Keeps [] [] [] := ⟨.nil, nofun, fun _ => rfl⟩

theorem put (h : rows.Keeps written records) {r : Record} (hr : r.Bounded) :
    (rows.apply (.put r)).Keeps (written.insert r.key r) (records.insert r.key r) where
  holds := h.holds.put r
  bounded k c hc := by
    rw [Table.get?_insert] at hc
    split at hc
    · cases hc
      exact hr
    · exact h.bounded k c hc
  same k := by
    rw [Table.get?_insert, Table.get?_insert]
    split
    · rfl
    · exact h.same k

theorem delete (h : rows.Keeps written records) (k : Record.Key) :
    (rows.apply (.delete k)).Keeps (written.erase k) (records.erase k) where
  holds := h.holds.delete k
  bounded k' c hc := by
    rw [Table.get?_erase] at hc
    split at hc
    · cases hc
    · exact h.bounded k' c hc
  same k' := by
    rw [Table.get?_erase, Table.get?_erase]
    split
    · rfl
    · exact h.same k'

/-! ### Reading -/

/-- What is written under a key is in memory under that key, in the same place. -/
theorem exists_record (h : rows.Keeps written records)
    (hfiled : ∀ k r, records.get? k = some r → r.key = k) {k : Record.Key} {w : Record}
    (hw : written.get? k = some w) :
    w.key = k ∧ ∃ c, records.get? k = some c ∧ c.seq = w.seq := by
  have hsame := h.same k
  rw [hw, Option.map_some] at hsame
  obtain ⟨c, hc, hspot⟩ := Option.map_eq_some_iff.1 hsame.symm
  obtain ⟨hkey, hseq⟩ := Prod.mk.inj hspot
  exact ⟨hkey.symm.trans (hfiled k c hc), c, hc, hseq⟩

section Read

variable (h : rows.Keeps written records)
  (hfiled : ∀ k r, records.get? k = some r → r.key = k) {rs : List Record}
  (hrs : rows.records = .ok rs)

include h hrs in
/-- What is read is what the row of its key says. -/
theorem mem_records (r : Record) :
    r ∈ rs ↔ ∃ k w, written.get? k = some w ∧ Json.decode Record.decoder w.rowValue = .ok r := by
  rw [(of_decode hrs).2]
  constructor
  · rintro ⟨⟨key, value⟩, he, hread⟩
    have hget := Table.get?_eq_some_of_mem h.holds.distinct (List.mem_mergeSort.1 he)
    obtain ⟨k, rfl⟩ := h.holds.keyed key value hget
    rw [h.holds.get?] at hget
    obtain ⟨w, hw, rfl⟩ := Option.map_eq_some_iff.1 hget
    exact ⟨k, w, hw, hread⟩
  · rintro ⟨k, w, hw, hread⟩
    refine ⟨(Record.rowKey k, w.rowValue), List.mem_mergeSort.2 ?_, hread⟩
    refine Table.mem_of_get?_eq_some ?_
    rw [h.holds.get?, hw, Option.map_some]

include h hfiled hrs in
theorem of_mem_records {r : Record} (hr : r ∈ rs) :
    ∃ w, written.get? r.key = some w ∧ Json.decode Record.decoder w.rowValue = .ok r ∧
      r.spot = w.spot := by
  obtain ⟨k, w, hw, hread⟩ := (h.mem_records hrs r).1 hr
  have hspot := Record.spot_of_decode (h.bounded k w hw) hread
  have hkey : r.key = k := (Prod.mk.inj hspot).1.trans (h.exists_record hfiled hw).1
  exact ⟨w, hkey ▸ hw, hread, hspot⟩

include h hfiled hrs in
/-- No two records are read for one key. -/
theorem records_unique {r r' : Record} (hr : r ∈ rs) (hr' : r' ∈ rs) (hkey : r.key = r'.key) :
    r = r' := by
  obtain ⟨w, hw, hread, -⟩ := h.of_mem_records hfiled hrs hr
  obtain ⟨w', hw', hread', -⟩ := h.of_mem_records hfiled hrs hr'
  rw [hkey, hw'] at hw
  cases hw
  rw [hread'] at hread
  exact (Except.ok.inj hread).symm

include h hfiled hrs in
/-- A record is read for each key under which one is written. -/
theorem exists_mem_records {k : Record.Key} {w : Record} (hw : written.get? k = some w) :
    ∃ r ∈ rs, r.key = k ∧ r.spot = w.spot := by
  have he : (Record.rowKey k, w.rowValue) ∈ rows.sorted := by
    refine List.mem_mergeSort.2 (Table.mem_of_get?_eq_some ?_)
    rw [h.holds.get?, hw, Option.map_some]
  obtain ⟨r, hread⟩ := (of_decode hrs).1 _ he
  have hspot := Record.spot_of_decode (h.bounded k w hw) hread
  have hkey : r.key = k := (Prod.mk.inj hspot).1.trans (h.exists_record hfiled hw).1
  exact ⟨r, (h.mem_records hrs r).2 ⟨k, w, hw, hread⟩, hkey, hspot⟩

include h hfiled hrs in
/-- The row of an expired record is dropped, and no other. -/
theorem get?_left {r : Record} (hr : r ∈ rs) (now : Instant) :
    ((rs.filter fun r => r.isExpired now).foldl (fun t r => t.erase r.key) written).get? r.key =
      if r.isExpired now then none else written.get? r.key := by
  rw [get?_foldl_erase]
  refine if_congr ?_ rfl rfl
  rw [List.mem_map]
  constructor
  · rintro ⟨r', hmem, hkey⟩
    obtain ⟨hr', hexpired⟩ := List.mem_filter.1 hmem
    rwa [← h.records_unique hfiled hrs hr' hr hkey]
  · intro hexpired
    exact ⟨r, List.mem_filter.2 ⟨hr, hexpired⟩, rfl⟩

include h hfiled hrs in
/-- A live record is opened, and no other. -/
theorem get?_opened {r : Record} (hr : r ∈ rs) (maxTtl : Duration) (location : String)
    (now : Instant) :
    (Store.ofRecords maxTtl location (rs.filter fun r => !r.isExpired now)).records.get? r.key =
      if r.isExpired now then none else some r := by
  have hunique : ∀ r ∈ rs.filter fun r => !r.isExpired now,
      ∀ r' ∈ rs.filter fun r => !r.isExpired now, r.key = r'.key → r = r' := fun r hr r' hr' =>
    h.records_unique hfiled hrs (List.mem_of_mem_filter hr) (List.mem_of_mem_filter hr')
  by_cases hexpired : r.isExpired now = true
  · rw [if_pos hexpired]
    refine Option.eq_none_iff_forall_ne_some.2 fun r' hr' => ?_
    obtain ⟨hmem, hkey⟩ := Store.mem_of_get?_ofRecords hr'
    obtain ⟨hmem', hlive⟩ := List.mem_filter.1 hmem
    rw [h.records_unique hfiled hrs hmem' hr hkey, hexpired] at hlive
    cases hlive
  · rw [if_neg hexpired]
    refine (Store.get?_foldl_insert hunique [] r.key r).2 (.inl ⟨List.mem_filter.2 ⟨hr, ?_⟩, rfl⟩)
    rw [Bool.eq_false_iff.2 hexpired]
    rfl

end Read

/-- **What is opened on rows stands where the records stood,** and the rows that are left keep
the places of what was opened. -/
theorem reread (h : rows.Keeps written records)
    (hfiled : ∀ k r, records.get? k = some r → r.key = k) {maxTtl : Duration} {location : String}
    {now : Instant} {s : Store}
    (hopen : Store.ofRows maxTtl location now rows = .ok (s, rest)) :
    ∃ rs left, s = Store.ofRecords maxTtl location rs ∧ rest.Keeps left s.records ∧
      ∀ r ∈ rs, ∃ c, records.get? r.key = some c ∧ c.seq = r.seq := by
  obtain ⟨rs, hrs, hdone⟩ := bind_eq_ok_iff.1 hopen
  cases hdone
  have hstood {r : Record} (hr : r ∈ rs) : ∃ c, records.get? r.key = some c ∧ c.seq = r.seq := by
    obtain ⟨w, hw, -, hsame⟩ := h.of_mem_records hfiled hrs hr
    obtain ⟨-, c, hc, hseq⟩ := h.exists_record hfiled hw
    exact ⟨c, hc, hseq.trans (Prod.mk.inj hsame).2.symm⟩
  have hholds := h.holds.deletes (rs.filter fun r => r.isExpired now)
  refine ⟨_, _, rfl, ⟨hholds, fun k r hget => ?_, fun k => ?_⟩,
    fun r hr => hstood (List.mem_of_mem_filter hr)⟩
  · rw [get?_foldl_erase] at hget
    split at hget
    · cases hget
    · exact h.bounded k r hget
  cases hw : written.get? k with
  | some w =>
      obtain ⟨r, hr, rfl, hspot⟩ := h.exists_mem_records hfiled hrs hw
      rw [h.get?_left hfiled hrs hr, h.get?_opened hfiled hrs hr, hw]
      split
      · rfl
      · rw [Option.map_some, Option.map_some, hspot]
  | none =>
      -- Nothing is read for a key under which nothing is written.
      have hnone : (Store.ofRecords maxTtl location
          (rs.filter fun r => !r.isExpired now)).records.get? k = none := by
        refine Option.eq_none_iff_forall_ne_some.2 fun r hr => ?_
        obtain ⟨hmem, rfl⟩ := Store.mem_of_get?_ofRecords hr
        obtain ⟨w, hw', -, -⟩ := h.of_mem_records hfiled hrs (List.mem_of_mem_filter hmem)
        rw [hw] at hw'
        cases hw'
      rw [hnone, get?_foldl_erase, hw, ite_self]

end Keeps

end Rows

end Rendezvous
