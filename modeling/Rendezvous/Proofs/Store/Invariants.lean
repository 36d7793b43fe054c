import Rendezvous.Proofs.Data.Table
import Rendezvous.Proofs.Store.Operations

/-!
# Rendezvous.Proofs.Store.Invariants

What holds of every store that was opened and then worked on, whatever the clock showed.

* `Store.Separate`: no key has both a record and a tombstone;
* `Store.WellFormed`: that, and tables in which each key stands once and each record under
  its own key;
* `Store.Reachable`, `Store.Reachable.wellFormed`.
-/

namespace Rendezvous.Store

/-! ### Records and tombstones apart -/

/-- No key has both a record and a tombstone. -/
def Separate (s : Store) : Prop :=
  ∀ k, s.records.get? k = none ∨ s.tombstones.get? k = none

variable {s : Store}

theorem Separate.tombstone_eq_none (h : s.Separate) {k : Record.Key} {r : Record}
    (hget : s.records.get? k = some r) : s.tombstones.get? k = none := by
  rcases h k with hnone | hnone
  · rw [hnone] at hget
    cases hget
  · exact hnone

theorem Separate.record_eq_none (h : s.Separate) {k : Record.Key} {t : Instant}
    (hget : s.tombstones.get? k = some t) : s.records.get? k = none := by
  rcases h k with hnone | hnone
  · exact hnone
  · rw [hnone] at hget
    cases hget

theorem Separate.congr {s' : Store} (h : s.Separate) (hr : s'.records = s.records)
    (ht : s'.tombstones = s.tombstones) : s'.Separate := by
  intro k
  rw [hr, ht]
  exact h k

theorem Separate.place (h : s.Separate) (now : Instant) (k : Record.Key) :
    (s.place now k).2.Separate :=
  h.congr (place_records s now k) (place_tombstones s now k)

theorem Separate.enter (h : s.Separate) (r : Record) : (s.enter r).Separate := by
  intro k
  rw [get?_records_enter, get?_tombstones_enter]
  by_cases hk : k = r.key
  · subst hk
    rcases h r.key with hnone | hnone
    · exact Or.inr (if_pos ⟨rfl, hnone⟩)
    · right
      split
      · rfl
      · exact hnone
  · rw [if_neg hk, if_neg (fun hc => hk hc.1)]
    exact h k

theorem Separate.bury (h : s.Separate) {k : Record.Key} (hk : s.records.get? k = none)
    (now e : Instant) : (s.bury now k e).Separate := by
  intro k'
  rw [bury_records, get?_tombstones_bury]
  by_cases hkk : k' = k
  · exact Or.inl (hkk ▸ hk)
  · rw [if_neg (fun hc => hkk hc.1)]
    exact h k'

theorem Separate.evict (h : s.Separate) (now : Instant) (k : Record.Key) (e : Instant) :
    (s.evict now k e).Separate := by
  intro k'
  rw [evict_records, evict_tombstones, Table.get?_erase, get?_tombstones_bury]
  by_cases hk : k' = k
  · exact Or.inl (if_pos hk)
  · rw [if_neg hk, if_neg (fun hc => hk hc.1)]
    exact h k'

theorem Separate.swept (h : s.Separate) (now : Instant) : (s.swept now).Separate := by
  intro k
  rw [get?_records_swept, swept_tombstones]
  rcases h k with hnone | hnone
  · exact Or.inl (live?_eq_none_iff.2 fun r hr => by rw [hnone] at hr; cases hr)
  · exact Or.inr (Table.get?_retain_of_none hnone _)

theorem Separate.merge (h : s.Separate) (now : Instant) (r : Record) :
    (s.merge now r).1.Separate := by
  by_cases hc : s.closed
  · simpa [Store.merge, hc] using h
  · rcases merge_cases (Bool.eq_false_iff.2 hc) now r with ⟨-, he⟩ | ⟨-, he⟩
    · rw [he]
      exact h
    · rw [he]
      exact (h.place now r.key).enter _

theorem Separate.removeIfNotFresher (h : s.Separate) (now : Instant) (r : Record) :
    (s.removeIfNotFresher now r).1.Separate := by
  by_cases hc : s.closed
  · simpa [Store.removeIfNotFresher, hc] using h
  · rw [removeIfNotFresher_eq (Bool.eq_false_iff.2 hc)]
    cases hget : s.records.get? r.key with
    | none => exact h.bury hget now _
    | some c =>
        by_cases hle : c.expiresAt ≤ r.expiresAt
        · simp only [if_pos hle]
          exact h.evict now _ _
        · simp only [if_neg hle]
          exact h

/-! ### Well-formed stores -/

/-- What holds of the tables of a store. -/
structure WellFormed (s : Store) : Prop where
  separate : s.Separate
  /-- Each record stands under its own key. -/
  filed : ∀ k r, s.records.get? k = some r → r.key = k
  distinct : s.records.Distinct
  distinct_tombstones : s.tombstones.Distinct

namespace WellFormed

theorem empty (maxTtl : Duration) : (Store.empty maxTtl).WellFormed :=
  ⟨fun _ => Or.inl rfl, fun _ _ h => (by cases h), Table.distinct_nil, Table.distinct_nil⟩

theorem congr {s' : Store} (h : s.WellFormed) (hr : s'.records = s.records)
    (ht : s'.tombstones = s.tombstones) : s'.WellFormed where
  separate := h.separate.congr hr ht
  filed := by rw [hr]; exact h.filed
  distinct := by rw [hr]; exact h.distinct
  distinct_tombstones := by rw [ht]; exact h.distinct_tombstones

theorem place (h : s.WellFormed) (now : Instant) (k : Record.Key) :
    (s.place now k).2.WellFormed :=
  h.congr (place_records s now k) (place_tombstones s now k)

theorem enter (h : s.WellFormed) (r : Record) : (s.enter r).WellFormed where
  separate := h.separate.enter r
  filed := by
    intro k c hc
    rw [get?_records_enter] at hc
    split at hc
    · rename_i hk
      cases hc
      exact hk.symm
    · exact h.filed k c hc
  distinct := h.distinct.insert r.key r
  distinct_tombstones := by
    unfold Store.enter
    dsimp only
    split
    · exact h.distinct_tombstones
    · exact h.distinct_tombstones.erase r.key

theorem bury (h : s.WellFormed) {k : Record.Key} (hk : s.records.get? k = none)
    (now e : Instant) : (s.bury now k e).WellFormed where
  separate := h.separate.bury hk now e
  filed := by rw [bury_records]; exact h.filed
  distinct := by rw [bury_records]; exact h.distinct
  distinct_tombstones := by
    unfold Store.bury
    split
    · exact h.distinct_tombstones
    · exact h.distinct_tombstones.insert k _

theorem filed_erase (h : s.WellFormed) (k : Record.Key) :
    ∀ k' r, (s.records.erase k).get? k' = some r → r.key = k' := by
  intro k' r hr
  rw [Table.get?_erase] at hr
  split at hr
  · cases hr
  · exact h.filed k' r hr

theorem evict (h : s.WellFormed) (now : Instant) (k : Record.Key) (e : Instant) :
    (s.evict now k e).WellFormed where
  separate := h.separate.evict now k e
  filed := by rw [evict_records]; exact h.filed_erase k
  distinct := by rw [evict_records]; exact h.distinct.erase k
  distinct_tombstones := by
    rw [evict_tombstones]
    unfold Store.bury
    split
    · exact h.distinct_tombstones
    · exact h.distinct_tombstones.insert k _

theorem swept (h : s.WellFormed) (now : Instant) : (s.swept now).WellFormed where
  separate := h.separate.swept now
  filed := by
    intro k r hr
    rw [get?_records_swept] at hr
    exact h.filed k r (live?_eq_some_iff.1 hr).1
  distinct :=
    sweep_induction (motive := fun s' => s'.records.Distinct)
      (fun _ k _ hd _ _ => hd.erase k) _ h.distinct
  distinct_tombstones := by
    rw [swept_tombstones]
    exact h.distinct_tombstones.retain _

/-- No operation leads out of the well-formed stores. -/
theorem perform (h : s.WellFormed) (now : Instant) (op : Operation) :
    (s.perform now op).WellFormed := by
  by_cases hc : s.closed
  · rw [perform_of_closed hc]
    exact h
  have hopen : s.closed = false := Bool.eq_false_iff.2 hc
  cases op with
  | upsert reg =>
      show (s.upsert now reg).1.WellFormed
      rw [upsert_eq hopen]
      exact (h.place now reg.key).enter _
  | merge r =>
      show (s.merge now r).1.WellFormed
      rcases merge_cases hopen now r with ⟨-, he⟩ | ⟨-, he⟩ <;> rw [he]
      · exact h
      · exact (h.place now r.key).enter _
  | remove k =>
      show (s.remove now k).1.WellFormed
      rw [remove_eq hopen]
      cases s.records.get? k with
      | none => exact h
      | some c => exact h.evict now k _
  | removeIfNotFresher r =>
      show (s.removeIfNotFresher now r).1.WellFormed
      rw [removeIfNotFresher_eq hopen]
      cases hget : s.records.get? r.key with
      | none => exact h.bury hget now _
      | some c =>
          by_cases hle : c.expiresAt ≤ r.expiresAt
          · simp only [if_pos hle]
            exact h.evict now _ _
          · simp only [if_neg hle]
            exact h
  | reclaim =>
      show (s.reclaim now).1.WellFormed
      obtain ⟨n, hn⟩ := reclaim_eq hopen now
      rw [hn]
      exact h.swept now
  | close => exact h.congr rfl rfl

theorem performAll (h : s.WellFormed) (asked : List (Instant × Operation)) :
    (s.performAll asked).WellFormed := by
  induction asked generalizing s with
  | nil => exact h
  | cons a rest ih => exact ih (h.perform a.1 a.2)

/-- What a page shows is live. -/
theorem live_of_mem_page (h : s.WellFormed) {now : Instant} {ns : String}
    {limit cursor : Nat} {page : Page} (hq : s.query now ns limit cursor = .ok page)
    {r : Record} (hr : r ∈ page.records) : s.live? now r.key = some r := by
  unfold query at hq
  split at hq
  · cases hq
  · cases hq
    have hmem := List.mem_mergeSort.1 (List.mem_of_mem_take hr)
    obtain ⟨hvalue, hpage⟩ := List.mem_filter.1 hmem
    obtain ⟨⟨k, r'⟩, hentry, rfl⟩ := List.mem_map.1 hvalue
    have hget := Table.get?_eq_some_of_mem h.distinct hentry
    refine live?_eq_some_iff.2 ⟨(h.filed k _ hget).symm ▸ hget, ?_⟩
    simp only [onPage, Bool.and_eq_true, Bool.not_eq_true', Record.isExpired,
      decide_eq_false_iff_not, Nat.not_le] at hpage
    exact hpage.1.2

end WellFormed

/-! ### Reachable stores -/

/-- The stores that there can be: one that was opened, empty or on a database, and then
worked on, with the clock at any time. -/
inductive Reachable : Store → Prop
  | empty (maxTtl : Duration) : Reachable (.empty maxTtl)
  | opened {maxTtl : Duration} {location : String} {now : Instant} {rows rest : Rows}
      {s : Store} (h : Store.ofRows maxTtl location now rows = .ok (s, rest)) : Reachable s
  | perform {s : Store} (h : Reachable s) (now : Instant) (op : Operation) :
      Reachable (s.perform now op)

/-- What is opened on a database is well-formed: it has no tombstones yet. -/
theorem WellFormed.ofRecords (maxTtl : Duration) (location : String) (rs : List Record) :
    (Store.ofRecords maxTtl location rs).WellFormed := by
  suffices h : ∀ t : Table Record.Key Record, t.Distinct →
      (∀ k r, t.get? k = some r → r.key = k) →
      (rs.foldl (fun t r => t.insert r.key r) t).Distinct ∧
        ∀ k r, (rs.foldl (fun t r => t.insert r.key r) t).get? k = some r → r.key = k by
    obtain ⟨hd, hf⟩ := h [] Table.distinct_nil (fun _ _ h => by cases h)
    exact ⟨fun _ => Or.inr rfl, hf, hd, Table.distinct_nil⟩
  induction rs with
  | nil => exact fun t hd hf => ⟨hd, hf⟩
  | cons r rs ih =>
      intro t hd hf
      refine ih (t.insert r.key r) (hd.insert r.key r) ?_
      intro k c hc
      rw [Table.get?_insert] at hc
      split at hc
      · rename_i hk
        cases hc
        exact hk.symm
      · exact hf k c hc

theorem Reachable.wellFormed (h : s.Reachable) : s.WellFormed := by
  induction h with
  | empty maxTtl => exact .empty maxTtl
  | @opened maxTtl location now rows rest s h =>
      unfold Store.ofRows at h
      cases hr : rows.records with
      | error row => rw [hr] at h; cases h
      | ok rs =>
          rw [hr] at h
          cases h
          exact .ofRecords maxTtl location _
  | perform _ now op ih => exact ih.perform now op

end Rendezvous.Store
