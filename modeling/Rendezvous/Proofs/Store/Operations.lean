import Rendezvous.Store.Disk

/-!
# Rendezvous.Proofs.Store.Operations

What each operation does to an open store, said once. Every change is one of a few *moves*:
a record is entered, a key is evicted and buried, an expired key is dropped. The equations
of the operations in terms of the moves are all that later modules use; none of them unfolds
an operation again.

* `Store.enter`, `Store.evict`, `Store.drop`: the moves, each with what it does to every
  field;
* `Store.SameAt`: what a move leaves alone;
* `Store.upsert_eq`, `Store.merge_cases`, `Store.remove_eq`, `Store.removeIfNotFresher_cases`,
  `Store.reclaim_eq`: the operations on an open store;
* `Operation`, `Store.perform`: the operations as data, and `Store.runAll` for a history.
-/

namespace Rendezvous

namespace Store

/-! ### Entering a record -/

/-- The place in the order that a record of a key gets, and the store once it is taken: a
live record keeps its place. -/
def place (s : Store) (now : Instant) (k : Record.Key) : Nat × Store :=
  match s.live? now k with
  | some r => (r.seq, s)
  | none => s.takeSeq

/-- Puts a record under its key, in memory and into the queue. A key without a record loses
its tombstone. -/
def enter (s : Store) (r : Record) : Store :=
  { s with
    records := s.records.insert r.key r
    tombstones := if (s.records.get? r.key).isSome then s.tombstones
      else s.tombstones.erase r.key
    queue := s.queue.map fun ops => ops ++ [.put r] }

@[simp] theorem takeSeq_fst (s : Store) : s.takeSeq.1 = s.nextSeq := rfl
@[simp] theorem takeSeq_records (s : Store) : s.takeSeq.2.records = s.records := rfl
@[simp] theorem takeSeq_tombstones (s : Store) : s.takeSeq.2.tombstones = s.tombstones := rfl
@[simp] theorem takeSeq_queue (s : Store) : s.takeSeq.2.queue = s.queue := rfl
@[simp] theorem takeSeq_closed (s : Store) : s.takeSeq.2.closed = s.closed := rfl
@[simp] theorem takeSeq_maxTtl (s : Store) : s.takeSeq.2.maxTtl = s.maxTtl := rfl
@[simp] theorem takeSeq_location (s : Store) : s.takeSeq.2.location = s.location := rfl

section Place

variable (s : Store) (now : Instant) (k : Record.Key)

@[simp] theorem place_records : (s.place now k).2.records = s.records := by
  unfold place; split <;> rfl

@[simp] theorem place_tombstones : (s.place now k).2.tombstones = s.tombstones := by
  unfold place; split <;> rfl

@[simp] theorem place_queue : (s.place now k).2.queue = s.queue := by
  unfold place; split <;> rfl

@[simp] theorem place_closed : (s.place now k).2.closed = s.closed := by
  unfold place; split <;> rfl

@[simp] theorem place_maxTtl : (s.place now k).2.maxTtl = s.maxTtl := by
  unfold place; split <;> rfl

@[simp] theorem place_location : (s.place now k).2.location = s.location := by
  unfold place; split <;> rfl

end Place

section Enter

variable (s : Store) (r : Record)

@[simp] theorem enter_records : (s.enter r).records = s.records.insert r.key r := rfl
@[simp] theorem enter_closed : (s.enter r).closed = s.closed := rfl
@[simp] theorem enter_maxTtl : (s.enter r).maxTtl = s.maxTtl := rfl
@[simp] theorem enter_location : (s.enter r).location = s.location := rfl
@[simp] theorem enter_nextSeq : (s.enter r).nextSeq = s.nextSeq := rfl

@[simp] theorem enter_queue :
    (s.enter r).queue = s.queue.map fun ops => ops ++ [.put r] := rfl

variable {s r} in
theorem enter_of_none (h : s.records.get? r.key = none) :
    s.enter r =
      { s with
        records := s.records.insert r.key r
        tombstones := s.tombstones.erase r.key
        queue := s.queue.map fun ops => ops ++ [.put r] } := by
  simp [enter, h]

variable {s r} in
theorem enter_of_some {c : Record} (h : s.records.get? r.key = some c) :
    s.enter r =
      { s with
        records := s.records.insert r.key r
        queue := s.queue.map fun ops => ops ++ [.put r] } := by
  simp [enter, h]

theorem get?_records_enter (k : Record.Key) :
    (s.enter r).records.get? k = if k = r.key then some r else s.records.get? k := by
  rw [enter_records, Table.get?_insert]

theorem get?_tombstones_enter (k : Record.Key) :
    (s.enter r).tombstones.get? k =
      if k = r.key ∧ s.records.get? r.key = none then none else s.tombstones.get? k := by
  unfold enter
  cases h : s.records.get? r.key with
  | none => simp [Table.get?_erase]
  | some c => simp

end Enter

/-! ### Taking a key away -/

/-- Takes a key away, in memory and in the queue, and buries it. -/
def evict (s : Store) (now : Instant) (k : Record.Key) (expiresAt : Instant) : Store :=
  let queued := { s with queue := s.queue.map fun ops => ops ++ [WriteOp.delete k] }
  let buried := queued.bury now k expiresAt
  { buried with records := buried.records.erase k }

/-- Takes a key away and does not bury it. -/
def drop (s : Store) (k : Record.Key) : Store :=
  { s with
    records := s.records.erase k
    queue := s.queue.map fun ops => ops ++ [.delete k] }

section Bury

variable (s : Store) (now : Instant) (k : Record.Key) (e : Instant)

@[simp] theorem bury_records : (s.bury now k e).records = s.records := by
  unfold bury; split <;> rfl

@[simp] theorem bury_queue : (s.bury now k e).queue = s.queue := by
  unfold bury; split <;> rfl

@[simp] theorem bury_closed : (s.bury now k e).closed = s.closed := by
  unfold bury; split <;> rfl

@[simp] theorem bury_maxTtl : (s.bury now k e).maxTtl = s.maxTtl := by
  unfold bury; split <;> rfl

@[simp] theorem bury_location : (s.bury now k e).location = s.location := by
  unfold bury; split <;> rfl

@[simp] theorem bury_nextSeq : (s.bury now k e).nextSeq = s.nextSeq := by
  unfold bury; split <;> rfl

/-- A tombstone is raised and never lowered, and what has expired is not buried. -/
theorem get?_tombstones_bury (k' : Record.Key) :
    (s.bury now k e).tombstones.get? k' =
      if k' = k ∧ now < e then some (max e ((s.tombstones.get? k).getD e))
      else s.tombstones.get? k' := by
  unfold bury
  by_cases he : e ≤ now
  · rw [if_pos he, if_neg (fun h => absurd h.2 (Nat.not_lt.2 he))]
  · rw [if_neg he]
    simp only [Table.alter, Table.get?_insert, Nat.not_le.1 he, and_true]

end Bury

section Evict

variable (s : Store) (now : Instant) (k : Record.Key) (e : Instant)

@[simp] theorem evict_records : (s.evict now k e).records = s.records.erase k := by
  simp [evict]

@[simp] theorem evict_queue :
    (s.evict now k e).queue = s.queue.map fun ops => ops ++ [.delete k] := by
  simp [evict]

@[simp] theorem evict_closed : (s.evict now k e).closed = s.closed := by simp [evict]
@[simp] theorem evict_maxTtl : (s.evict now k e).maxTtl = s.maxTtl := by simp [evict]
@[simp] theorem evict_location : (s.evict now k e).location = s.location := by simp [evict]
@[simp] theorem evict_nextSeq : (s.evict now k e).nextSeq = s.nextSeq := by simp [evict]

@[simp] theorem evict_tombstones :
    (s.evict now k e).tombstones = (s.bury now k e).tombstones := by
  unfold evict bury
  by_cases he : e ≤ now
  · simp [he]
  · simp [he]

@[simp] theorem drop_records : (s.drop k).records = s.records.erase k := rfl
@[simp] theorem drop_tombstones : (s.drop k).tombstones = s.tombstones := rfl
@[simp] theorem drop_closed : (s.drop k).closed = s.closed := rfl
@[simp] theorem drop_maxTtl : (s.drop k).maxTtl = s.maxTtl := rfl
@[simp] theorem drop_location : (s.drop k).location = s.location := rfl
@[simp] theorem drop_nextSeq : (s.drop k).nextSeq = s.nextSeq := rfl

@[simp] theorem drop_queue :
    (s.drop k).queue = s.queue.map fun ops => ops ++ [.delete k] := rfl

end Evict

/-! ### What a move leaves alone -/

/-- A key has the same record and the same tombstone in two stores. -/
structure SameAt (s s' : Store) (k : Record.Key) : Prop where
  record : s'.records.get? k = s.records.get? k
  tombstone : s'.tombstones.get? k = s.tombstones.get? k

theorem SameAt.trans {s s' s'' : Store} {k : Record.Key} (h : s.SameAt s' k)
    (h' : s'.SameAt s'' k) : s.SameAt s'' k :=
  ⟨h'.record.trans h.record, h'.tombstone.trans h.tombstone⟩

section SameAt

variable (s : Store) (now : Instant) {k k' : Record.Key}

theorem sameAt_place : s.SameAt (s.place now k').2 k :=
  ⟨by rw [place_records], by rw [place_tombstones]⟩

theorem sameAt_enter {r : Record} (hk : k ≠ r.key) : s.SameAt (s.enter r) k where
  record := by rw [get?_records_enter, if_neg hk]
  tombstone := by rw [get?_tombstones_enter, if_neg fun hc => hk hc.1]

theorem sameAt_bury (hk : k ≠ k') (e : Instant) : s.SameAt (s.bury now k' e) k where
  record := by rw [bury_records]
  tombstone := by rw [get?_tombstones_bury, if_neg fun hc => hk hc.1]

theorem sameAt_evict (hk : k ≠ k') (e : Instant) : s.SameAt (s.evict now k' e) k where
  record := by rw [evict_records, Table.get?_erase, if_neg hk]
  tombstone := by
    rw [evict_tombstones]
    exact (s.sameAt_bury now hk e).tombstone

end SameAt

/-! ### Live records -/

theorem live?_eq_some_iff {s : Store} {now : Instant} {k : Record.Key} {r : Record} :
    s.live? now k = some r ↔ s.records.get? k = some r ∧ now < r.expiresAt := by
  simp [live?, Option.filter_eq_some_iff, Record.isExpired]

theorem live?_eq_none_iff {s : Store} {now : Instant} {k : Record.Key} :
    s.live? now k = none ↔ ∀ r, s.records.get? k = some r → r.expiresAt ≤ now := by
  simp [live?, Option.filter_eq_none_iff, Record.isExpired]

theorem live?_congr {s s' : Store} {now : Instant} {k : Record.Key}
    (h : s'.records.get? k = s.records.get? k) : s'.live? now k = s.live? now k := by
  rw [live?, live?, h]

/-- A record that stands in the table of records is live or expired. -/
theorem live?_of_get? {s : Store} {now : Instant} {k : Record.Key} {r : Record}
    (h : s.records.get? k = some r) :
    s.live? now k = if r.expiresAt ≤ now then none else some r := by
  by_cases he : r.expiresAt ≤ now <;> simp [live?, h, Record.isExpired, he, Option.filter]

/-- What is live later was live before. -/
theorem live?_of_le {s : Store} {t u : Instant} {k : Record.Key} {r : Record} (h : t ≤ u)
    (hr : s.live? u k = some r) : s.live? t k = some r := by
  obtain ⟨hget, hlt⟩ := live?_eq_some_iff.1 hr
  exact live?_eq_some_iff.2 ⟨hget, Nat.lt_of_le_of_lt h hlt⟩

/-! ### The operations on an open store -/

variable {s : Store}

theorem persist_of_open (h : s.closed = false) (op : WriteOp) :
    s.persist op = .ok { s with queue := s.queue.map fun ops => ops ++ [op] } := by
  simp [persist, h]

theorem persist_of_closed (h : s.closed = true) (op : WriteOp) :
    s.persist op = .error .closed := by
  simp [persist, h]

/-- The expiry that a registration gets. -/
def grant (s : Store) (now : Instant) (ttl : Duration) : Instant :=
  now.add (clockMillis (ttl.min s.maxTtl))

/-- The record that a registration leaves. -/
def granted (s : Store) (now : Instant) (reg : Registration) : Record :=
  ⟨reg.namespaceName, reg.peer, reg.addrs, s.grant now reg.ttl, (s.place now reg.key).1⟩

@[simp] theorem granted_key (s : Store) (now : Instant) (reg : Registration) :
    (s.granted now reg).key = reg.key := rfl

/-- A registration enters its record, whatever was there before. -/
theorem upsert_eq (h : s.closed = false) (now : Instant) (reg : Registration) :
    s.upsert now reg =
      ((s.place now reg.key).2.enter (s.granted now reg),
        .ok (s.granted now reg,
          if (s.live? now reg.key).isSome then .refreshed else .inserted)) := by
  unfold upsert upsertOpen
  rw [if_neg (by simp [h])]
  cases hget : s.records.get? reg.key with
  | none =>
      have hlive : s.live? now reg.key = none := by simp [live?, hget]
      have hkey : (s.place now reg.key).2.records.get? (s.granted now reg).key = none := by
        rw [place_records]
        exact hget
      rw [enter_of_none hkey]
      simp only [granted, place, hlive, Option.isSome_none, Bool.false_eq_true, if_false]
      rw [persist_of_open (s := s.takeSeq.2) h]
      rfl
  | some c =>
      have hkey : (s.place now reg.key).2.records.get? (s.granted now reg).key = some c := by
        rw [place_records]
        exact hget
      rw [enter_of_some hkey]
      by_cases he : c.isExpired now
      · have hlive : s.live? now reg.key = none := by simp [live?, hget, he, Option.filter]
        simp only [granted, if_pos he, place, hlive, Option.isSome_none, Bool.false_eq_true,
          if_false]
        rw [persist_of_open (s := s.takeSeq.2) h]
        rfl
      · have hlive : s.live? now reg.key = some c := by simp [live?, hget, he, Option.filter]
        simp only [granted, if_neg he, place, hlive, Option.isSome_some, if_true]
        rw [persist_of_open h]
        rfl

/-- What is taken over of a record of another node. -/
def adopted (s : Store) (now : Instant) (r : Record) : Record :=
  { r with expiresAt := s.cap now r.expiresAt, seq := (s.place now r.key).1 }

@[simp] theorem adopted_key (s : Store) (now : Instant) (r : Record) :
    (s.adopted now r).key = r.key := rfl

/-- Whether an expiry, once capped, is later than all that is known of a key. -/
structure Outlives (s : Store) (now : Instant) (k : Record.Key) (e : Instant) : Prop where
  ahead : now < e
  live : ∀ c, s.live? now k = some c → c.expiresAt < e
  buried : s.records.get? k = none → ∀ t, s.tombstones.get? k = some t → t < e

/-- A record of another node is taken over if its expiry outlives what is known of its key,
and otherwise changes nothing. -/
theorem merge_cases (h : s.closed = false) (now : Instant) (r : Record) :
    (¬ s.Outlives now r.key (s.cap now r.expiresAt) ∧ s.merge now r = (s, .ok false)) ∨
    (s.Outlives now r.key (s.cap now r.expiresAt) ∧
      s.merge now r = ((s.place now r.key).2.enter (s.adopted now r), .ok true)) := by
  unfold merge mergeOpen
  rw [if_neg (by simp [h])]
  by_cases ha : s.cap now r.expiresAt ≤ now
  · rw [if_pos ha]
    exact Or.inl ⟨fun ho => absurd ho.ahead (Nat.not_lt.2 ha), rfl⟩
  rw [if_neg ha]
  have hahead : now < s.cap now r.expiresAt := Nat.not_le.1 ha
  cases hget : s.records.get? r.key with
  | none =>
      have hlive : s.live? now r.key = none := by simp [live?, hget]
      have hkey : (s.place now r.key).2.records.get? (s.adopted now r).key = none := by
        rw [place_records]
        exact hget
      cases ht : (s.tombstones.get? r.key).any (s.cap now r.expiresAt ≤ ·) with
      | true =>
          obtain ⟨t, htget, hle⟩ := (Option.any_eq_true _ _).1 ht
          refine Or.inl ⟨fun ho => ?_, by simp⟩
          exact absurd (ho.buried hget t htget) (Nat.not_lt.2 (by simpa using hle))
      | false =>
          refine Or.inr ⟨⟨hahead, by simp [hlive], fun _ t htget => ?_⟩, ?_⟩
          · rw [htget] at ht
            simpa using ht
          · rw [enter_of_none hkey]
            simp only [adopted, place, hlive, Bool.false_eq_true, if_false]
            rw [persist_of_open (s := s.takeSeq.2) h]
            rfl
  | some c =>
      have hkey : (s.place now r.key).2.records.get? (s.adopted now r).key = some c := by
        rw [place_records]
        exact hget
      by_cases he : c.isExpired now
      · have hlive : s.live? now r.key = none := by simp [live?, hget, he, Option.filter]
        refine Or.inr ⟨⟨hahead, by simp [hlive], by simp [hget]⟩, ?_⟩
        rw [enter_of_some hkey]
        simp only [adopted, if_pos he, place, hlive]
        rw [persist_of_open (s := s.takeSeq.2) h]
        rfl
      · have hlive : s.live? now r.key = some c := by simp [live?, hget, he, Option.filter]
        simp only [if_neg he]
        by_cases hle : s.cap now r.expiresAt ≤ c.expiresAt
        · rw [if_pos hle]
          exact Or.inl ⟨fun ho => absurd (ho.live c hlive) (Nat.not_lt.2 hle), rfl⟩
        · refine Or.inr ⟨⟨hahead, ?_, by simp [hget]⟩, ?_⟩
          · intro c' hc'
            rw [hlive] at hc'
            cases hc'
            exact Nat.not_le.1 hle
          · rw [if_neg hle, enter_of_some hkey, persist_of_open h]
            simp only [adopted, place, hlive]
            rfl

/-- A removal evicts what is stored and buries it. -/
theorem remove_eq (h : s.closed = false) (now : Instant) (k : Record.Key) :
    s.remove now k = match s.records.get? k with
      | none => (s, .ok none)
      | some c => (s.evict now k c.expiresAt, .ok (some c)) := by
  unfold remove removeOpen
  rw [if_neg (by simp [h])]
  cases hget : s.records.get? k with
  | none => rfl
  | some c =>
      rw [persist_of_open h]
      rfl

/-- A removal by another node evicts what does not expire later, leaves what does, and is
remembered where nothing is stored. -/
theorem removeIfNotFresher_eq (h : s.closed = false) (now : Instant) (r : Record) :
    s.removeIfNotFresher now r = match s.records.get? r.key with
      | none => (s.bury now r.key r.expiresAt, .ok false)
      | some c =>
        if c.expiresAt ≤ r.expiresAt then (s.evict now r.key r.expiresAt, .ok true)
        else (s, .ok false) := by
  unfold removeIfNotFresher removeIfNotFresherOpen
  rw [if_neg (by simp [h])]
  cases hget : s.records.get? r.key with
  | none => rfl
  | some c =>
      by_cases hle : c.expiresAt ≤ r.expiresAt
      · simp only [if_pos hle]
        rw [persist_of_open h]
        rfl
      · simp only [if_neg hle]

/-! ### Sweeping -/

/-- Drops those of some keys that have expired. -/
def sweep (s : Store) (now : Instant) : List Record.Key → Store
  | [] => s
  | k :: rest =>
    match s.records.get? k with
    | none => s.sweep now rest
    | some r => if r.isExpired now then (s.drop k).sweep now rest else s.sweep now rest

/-- The keys with an expired record. -/
def expiredKeys (s : Store) (now : Instant) : List Record.Key :=
  (s.records.filter fun e => e.2.isExpired now).map (·.1)

/-- What each drop of an expired key keeps, a sweep keeps. -/
theorem sweep_induction {motive : Store → Prop} {now : Instant}
    (step : ∀ s k r, motive s → s.records.get? k = some r → r.expiresAt ≤ now →
      motive (s.drop k))
    (ks : List Record.Key) (hs : motive s) : motive (s.sweep now ks) := by
  induction ks generalizing s with
  | nil => exact hs
  | cons k rest ih =>
      unfold sweep
      cases hget : s.records.get? k with
      | none => exact ih hs
      | some r =>
          by_cases he : r.isExpired now
          · simp only [if_pos he]
            exact ih (step s k r hs hget ((r.isExpired_iff now).1 he))
          · simp only [if_neg he]
            exact ih hs

@[simp] theorem sweep_closed (s : Store) (now : Instant) (ks : List Record.Key) :
    (s.sweep now ks).closed = s.closed :=
  sweep_induction (motive := fun s' => s'.closed = s.closed) (fun _ _ _ h _ _ => h) ks rfl

@[simp] theorem sweep_tombstones (s : Store) (now : Instant) (ks : List Record.Key) :
    (s.sweep now ks).tombstones = s.tombstones :=
  sweep_induction (motive := fun s' => s'.tombstones = s.tombstones) (fun _ _ _ h _ _ => h)
    ks rfl

@[simp] theorem sweep_maxTtl (s : Store) (now : Instant) (ks : List Record.Key) :
    (s.sweep now ks).maxTtl = s.maxTtl :=
  sweep_induction (motive := fun s' => s'.maxTtl = s.maxTtl) (fun _ _ _ h _ _ => h) ks rfl

@[simp] theorem sweep_location (s : Store) (now : Instant) (ks : List Record.Key) :
    (s.sweep now ks).location = s.location :=
  sweep_induction (motive := fun s' => s'.location = s.location) (fun _ _ _ h _ _ => h) ks rfl

@[simp] theorem sweep_nextSeq (s : Store) (now : Instant) (ks : List Record.Key) :
    (s.sweep now ks).nextSeq = s.nextSeq :=
  sweep_induction (motive := fun s' => s'.nextSeq = s.nextSeq) (fun _ _ _ h _ _ => h) ks rfl

/-- A sweep takes away the expired records of its keys and nothing else. -/
theorem get?_records_sweep (s : Store) (now : Instant) (ks : List Record.Key)
    (k : Record.Key) :
    (s.sweep now ks).records.get? k =
      if k ∈ ks then s.live? now k else s.records.get? k := by
  induction ks generalizing s with
  | nil => rfl
  | cons k₀ rest ih =>
      -- A key may come twice; once dropped it is neither stored nor live.
      unfold sweep
      cases hget : s.records.get? k₀ with
      | none =>
          simp only [ih, List.mem_cons]
          by_cases hk : k = k₀
          · subst hk
            simp [live?, hget]
          · simp [hk]
      | some r =>
          by_cases he : r.isExpired now
          · simp only [if_pos he, ih, List.mem_cons, drop_records, live?, Table.get?_erase]
            by_cases hk : k = k₀
            · subst hk
              simp [hget, he, Option.filter]
            · simp [hk]
          · simp only [if_neg he, ih, List.mem_cons]
            by_cases hk : k = k₀
            · subst hk
              simp [live?, hget, he, Option.filter]
            · simp [hk]

/-- Where what is stored is what was live at a time, nothing has changed for later times. -/
theorem live?_of_get?_eq_live? {s s' : Store} {t u : Instant} {k : Record.Key}
    (h : s'.records.get? k = s.live? t k) (htu : t ≤ u) : s'.live? u k = s.live? u k := by
  refine Option.ext fun r => ?_
  rw [live?_eq_some_iff, live?_eq_some_iff, h, live?_eq_some_iff]
  constructor
  · rintro ⟨⟨hget, -⟩, hu⟩
    exact ⟨hget, hu⟩
  · rintro ⟨hget, hu⟩
    exact ⟨⟨hget, Nat.lt_of_le_of_lt htu hu⟩, hu⟩

/-- A sweep takes nothing away that is live, or will be. -/
theorem live?_sweep (s : Store) {t u : Instant} (htu : t ≤ u) (ks : List Record.Key)
    (k : Record.Key) : (s.sweep t ks).live? u k = s.live? u k := by
  by_cases hk : k ∈ ks
  · exact live?_of_get?_eq_live? (by rw [get?_records_sweep, if_pos hk]) htu
  · exact live?_congr (by rw [get?_records_sweep, if_neg hk])

theorem reclaimKeys_of_open (h : s.closed = false) (now : Instant) (count : Nat)
    (ks : List Record.Key) :
    ∃ n, s.reclaimKeys now count ks = (s.sweep now ks, .ok n) := by
  induction ks generalizing s count with
  | nil => exact ⟨count, rfl⟩
  | cons k rest ih =>
      unfold reclaimKeys sweep
      cases hget : s.records.get? k with
      | none => exact ih h count
      | some r =>
          by_cases he : r.isExpired now
          · simp only [if_pos he, persist_of_open h]
            exact ih (s := s.drop k) h (count + 1)
          · simp only [if_neg he]
            exact ih h count

/-- A sweep of a closed store gets nowhere. -/
theorem reclaimKeys_fst (s : Store) (now : Instant) (count : Nat) (ks : List Record.Key) :
    (s.reclaimKeys now count ks).1 = if s.closed then s else s.sweep now ks := by
  cases h : s.closed with
  | false =>
      obtain ⟨n, hn⟩ := reclaimKeys_of_open h now count ks
      rw [hn]
      rfl
  | true =>
      rw [if_pos rfl]
      induction ks generalizing count with
      | nil => rfl
      | cons k rest ih =>
          unfold reclaimKeys
          cases hget : s.records.get? k with
          | none => exact ih count
          | some r =>
              by_cases he : r.isExpired now
              · simp only [if_pos he, persist_of_closed h]
              · simp only [if_neg he]
                exact ih count

/-- The store without its expired records and tombstones. -/
def swept (s : Store) (now : Instant) : Store :=
  { s.sweep now (s.expiredKeys now) with
    tombstones := s.tombstones.retain fun t => now < t }

/-- A sweep of an open store gets to its end. -/
theorem reclaim_eq (h : s.closed = false) (now : Instant) :
    ∃ n, s.reclaim now = (s.swept now, .ok n) := by
  obtain ⟨n, hn⟩ := reclaimKeys_of_open h now 0 (s.expiredKeys now)
  refine ⟨n, ?_⟩
  unfold reclaim reclaimOpen
  rw [if_neg (by simp [h])]
  unfold expiredKeys at hn
  simp only [hn]
  simp [swept, expiredKeys]

theorem reclaim_fst (s : Store) (now : Instant) :
    (s.reclaim now).1 = if s.closed then s else s.swept now := by
  cases h : s.closed with
  | false =>
      obtain ⟨n, hn⟩ := reclaim_eq h now
      rw [hn]
      rfl
  | true =>
      rw [reclaim, h]
      rfl

section Swept

variable (s : Store) (now : Instant)

@[simp] theorem swept_closed : (s.swept now).closed = s.closed := by simp [swept]
@[simp] theorem swept_maxTtl : (s.swept now).maxTtl = s.maxTtl := by simp [swept]
@[simp] theorem swept_location : (s.swept now).location = s.location := by simp [swept]
@[simp] theorem swept_nextSeq : (s.swept now).nextSeq = s.nextSeq := by simp [swept]

@[simp] theorem swept_tombstones :
    (s.swept now).tombstones = s.tombstones.retain fun t => now < t := rfl

/-- After a sweep what is stored is what is live. -/
theorem get?_records_swept (k : Record.Key) :
    (s.swept now).records.get? k = s.live? now k := by
  change (s.sweep now (s.expiredKeys now)).records.get? k = _
  rw [get?_records_sweep]
  by_cases hk : k ∈ s.expiredKeys now
  · rw [if_pos hk]
  · rw [if_neg hk]
    cases hget : s.records.get? k with
    | none => simp [live?, hget]
    | some r =>
        have hne : r.isExpired now = false := by
          refine Bool.eq_false_iff.2 fun he => hk ?_
          have hmem := Table.mem_of_get?_eq_some hget
          exact List.mem_map.2 ⟨(k, r), List.mem_filter.2 ⟨hmem, he⟩, rfl⟩
        simp [live?, hget, hne, Option.filter]

theorem live?_swept {u : Instant} (h : now ≤ u) (k : Record.Key) :
    (s.swept now).live? u k = s.live? u k :=
  live?_of_get?_eq_live? (get?_records_swept s now k) h

end Swept

end Store

/-! ### Time -/

/-- The clock runs from one time over those at which things are asked to another, and never
goes back. -/
def ClockRuns {α : Type} (t : Instant) : (asked : List (Instant × α)) → (u : Instant) → Prop
  | [], u => t ≤ u
  | (t', _) :: rest, u => t ≤ t' ∧ ClockRuns t' rest u

/-! ### Operations as data -/

/-- What may be asked of a store that may change it. -/
inductive Operation where
  | upsert (reg : Registration)
  | merge (r : Record)
  | remove (k : Record.Key)
  | removeIfNotFresher (r : Record)
  | reclaim
  | close
deriving DecidableEq

namespace Store

/-- Does what is asked. -/
def perform (s : Store) (now : Instant) : Operation → Store
  | .upsert reg => (s.upsert now reg).1
  | .merge r => (s.merge now r).1
  | .remove k => (s.remove now k).1
  | .removeIfNotFresher r => (s.removeIfNotFresher now r).1
  | .reclaim => (s.reclaim now).1
  | .close => s.close

/-- Does what is asked, one thing after the other, each at its time. -/
def performAll (s : Store) (asked : List (Instant × Operation)) : Store :=
  asked.foldl (fun s a => s.perform a.1 a.2) s

theorem performAll_cons (s : Store) (now : Instant) (op : Operation)
    (asked : List (Instant × Operation)) :
    s.performAll ((now, op) :: asked) = (s.perform now op).performAll asked := rfl

/-- A closed store stays as it is. -/
theorem perform_of_closed {s : Store} (h : s.closed = true) (now : Instant) (op : Operation) :
    s.perform now op = s := by
  cases op with
  | upsert reg => simp [perform, upsert, h]
  | merge r => simp [perform, merge, h]
  | remove k => simp [perform, remove, h]
  | removeIfNotFresher r => simp [perform, removeIfNotFresher, h]
  | reclaim => simp [perform, reclaim, h]
  | close =>
      cases s
      cases h
      rfl

end Store

end Rendezvous
