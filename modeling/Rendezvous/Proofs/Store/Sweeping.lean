import Rendezvous.Proofs.Store.Standing

/-!
# Rendezvous.Proofs.Store.Sweeping

Sweeps are not seen. What a store answers to registrations, to records of other nodes and to
questions depends on what counts at that time: the live records, the standing of each key and the
next place in the order. A sweep leaves all of this as it is, and every operation makes like
stores of like stores, though one may still hold what has expired and the other not.

* `Store.liveRecords`, with what each operation does to it;
* `Store.Alike`: two stores in which the same counts at a time; `Store.Alike.swept`,
  `Store.Alike.perform`;
* `Store.Call`, `Store.replies`: what is asked, and what is answered to it;
* `Store.replies_without_sweeps`.
-/

namespace Rendezvous.Store

/-! ### Live records -/

/-- The records that are live at a time, under their keys. -/
def liveRecords (s : Store) (now : Instant) : Table Record.Key Record :=
  s.records.retain fun r => !r.isExpired now

section LiveRecords

variable {s : Store} {now : Instant}

theorem get?_liveRecords (hs : s.WellFormed) (now : Instant) (k : Record.Key) :
    (s.liveRecords now).get? k = s.live? now k := Table.get?_retain hs.distinct _ k

theorem liveRecords_congr {s' : Store} (h : s'.records = s.records) :
    s'.liveRecords now = s.liveRecords now := by
  rw [liveRecords, liveRecords, h]

/-- What is live later is what is left of what was live. -/
theorem liveRecords_of_le (s : Store) {u : Instant} (h : now ≤ u) :
    s.liveRecords u = (s.liveRecords now).retain fun r => !r.isExpired u := by
  rw [liveRecords, liveRecords, Table.retain, Table.retain, Table.retain, List.filter_filter]
  refine List.filter_congr fun e _ => ?_
  cases hn : e.2.isExpired now with
  | false => simp
  | true => simp [Record.isExpired_mono h hn]

theorem liveRecords_enter (s : Store) (now : Instant) (r : Record) :
    (s.enter r).liveRecords now =
      if r.isExpired now then (s.liveRecords now).erase r.key
      else (s.liveRecords now).insert r.key r := by
  rw [liveRecords, enter_records, Table.retain_insert]
  cases r.isExpired now <;> rfl

theorem liveRecords_evict (s : Store) (now : Instant) (k : Record.Key) (e : Instant) :
    (s.evict now k e).liveRecords now = (s.liveRecords now).erase k := by
  rw [liveRecords, evict_records, Table.retain_erase, liveRecords]

/-- A key without a live record is not among the live records. -/
theorem liveRecords_erase_of_none (hs : s.WellFormed) {k : Record.Key}
    (h : s.live? now k = none) : (s.liveRecords now).erase k = s.liveRecords now :=
  Table.erase_eq_self ((get?_liveRecords hs now k).trans h)

theorem liveRecords_remove (hopen : s.closed = false) (hs : s.WellFormed) (now : Instant)
    (k : Record.Key) :
    (s.remove now k).1.liveRecords now = (s.liveRecords now).erase k := by
  rw [remove_eq hopen]
  cases hget : s.records.get? k with
  | none =>
      have hnone : s.live? now k = none := by simp [live?, hget]
      exact (liveRecords_erase_of_none hs hnone).symm
  | some c => exact liveRecords_evict s now k _

/-- A removal by another node takes a live record away if that does not expire later. -/
theorem liveRecords_removeIfNotFresher (hopen : s.closed = false) (hs : s.WellFormed)
    (now : Instant) (r : Record) :
    (s.removeIfNotFresher now r).1.liveRecords now =
      if (s.live? now r.key).any (·.expiresAt ≤ r.expiresAt) then (s.liveRecords now).erase r.key
      else s.liveRecords now := by
  rw [removeIfNotFresher_eq hopen]
  cases hget : s.records.get? r.key with
  | none =>
      have hnone : s.live? now r.key = none := by simp [live?, hget]
      rw [hnone]
      exact liveRecords_congr (bury_records ..)
  | some c =>
      by_cases he : c.expiresAt ≤ now
      · -- An expired record is not among the live ones, whether it goes or not.
        have hnone : s.live? now r.key = none := by rw [live?_of_get? hget, if_pos he]
        rw [hnone]
        by_cases hle : c.expiresAt ≤ r.expiresAt
        · simp only [if_pos hle]
          exact (liveRecords_evict ..).trans (liveRecords_erase_of_none hs hnone)
        · simp only [if_neg hle]
          rfl
      · have hlive : s.live? now r.key = some c := by rw [live?_of_get? hget, if_neg he]
        rw [hlive]
        by_cases hle : c.expiresAt ≤ r.expiresAt
        · simp only [if_pos hle, Option.any_some, decide_eq_true hle]
          exact liveRecords_evict ..
        · simp only [if_neg hle, Option.any_some, decide_eq_false hle]
          rfl

/-- A sweep drops nothing that is live, or will be. -/
theorem liveRecords_swept (hs : s.WellFormed) (now : Instant) :
    (s.swept now).liveRecords now = s.liveRecords now := by
  have h : ((s.sweep now (s.expiredKeys now)).records.Distinct ∧
      (s.sweep now (s.expiredKeys now)).liveRecords now = s.liveRecords now) := by
    refine sweep_induction (motive := fun s' =>
      s'.records.Distinct ∧ s'.liveRecords now = s.liveRecords now) ?_ _ ⟨hs.distinct, rfl⟩
    rintro s' k r ⟨hd, hlive⟩ hget he
    refine ⟨hd.erase k, Eq.trans ?_ hlive⟩
    have hnone : (s'.records.retain fun r => !r.isExpired now).get? k = none := by
      rw [Table.get?_retain hd, hget]
      simp [Option.filter, Record.isExpired, he]
    rw [liveRecords, drop_records, Table.retain_erase, Table.erase_eq_self hnone, liveRecords]
  exact h.2

end LiveRecords

/-! ### Standings after registrations, removals and sweeps -/

section Standing

variable {s : Store} {now : Instant} {k : Record.Key}

theorem standing_enter (hs : s.Separate) (r : Record) :
    (s.enter r).standing now k =
      if k = r.key then Standing.ifAhead now r.expiresAt (Rank.record r.expiresAt)
      else s.standing now k := by
  by_cases hk : k = r.key
  · subst hk
    rw [if_pos rfl]
    have hget : (s.enter r).records.get? r.key = some r := by
      rw [get?_records_enter, if_pos rfl]
    by_cases he : r.expiresAt ≤ now
    · have hl : (s.enter r).live? now r.key = none := by rw [live?_of_get? hget, if_pos he]
      rw [standing_of_none hl, (hs.enter r).tombstone?_eq_none hget, Standing.ifAhead_of_le he]
    · have hl : (s.enter r).live? now r.key = some r := by
        rw [live?_of_get? hget, if_neg he]
      rw [standing_of_live hl, Standing.ifAhead_of_lt (Nat.not_le.1 he)]
  · rw [if_neg hk]
    exact standing_congr (sameAt_enter s hk)

/-- A removal leaves a tombstone for what was live, and nothing for what was not. -/
theorem standing_remove (hopen : s.closed = false) (hs : s.Separate) (k' : Record.Key) :
    (s.remove now k').1.standing now k =
      if k = k' then
        match s.live? now k with
        | some c => (Rank.removal c.expiresAt : Standing)
        | none => s.standing now k
      else s.standing now k := by
  rw [remove_eq hopen]
  by_cases hk : k = k'
  · subst hk
    rw [if_pos rfl]
    cases hget : s.records.get? k with
    | none =>
        have hl : s.live? now k = none := by simp [live?, hget]
        rw [hl]
    | some c =>
        have hevict : (s.evict now k c.expiresAt).standing now k =
            Standing.ifAhead now c.expiresAt (Rank.removal c.expiresAt) :=
          standing_evict hs hget c.expiresAt
        by_cases he : c.expiresAt ≤ now
        · have hl : s.live? now k = none := by rw [live?_of_get? hget, if_pos he]
          rw [hl]
          refine hevict.trans ?_
          rw [Standing.ifAhead_of_le he, standing_of_none hl, hs.tombstone?_eq_none hget]
        · have hl : s.live? now k = some c := by rw [live?_of_get? hget, if_neg he]
          rw [hl]
          exact hevict.trans (Standing.ifAhead_of_lt (Nat.not_le.1 he) _)
  · rw [if_neg hk]
    cases s.records.get? k' with
    | none => rfl
    | some c => exact standing_congr (sameAt_evict s now hk _)

theorem standing_swept (hs : s.WellFormed) : (s.swept now).standing now k = s.standing now k := by
  have hlive : (s.swept now).live? now k = s.live? now k := live?_swept s now (Nat.le_refl _) k
  have htomb : (s.swept now).tombstone? now k = s.tombstone? now k := by
    rw [tombstone?, swept_tombstones, Table.get?_retain hs.distinct_tombstones, tombstone?,
      Option.filter_filter]
    simp
  rw [standing, standing, hlive, htomb]

end Standing

/-! ### What removals leave as it is -/

/-- Two stores that differ in their records and tombstones at most. -/
structure SameFrame (s t : Store) : Prop where
  nextSeq : t.nextSeq = s.nextSeq
  maxTtl : t.maxTtl = s.maxTtl
  closed : t.closed = s.closed

namespace SameFrame

variable {s : Store}

theorem remove (hopen : s.closed = false) (now : Instant) (k : Record.Key) :
    s.SameFrame (s.remove now k).1 := by
  rw [remove_eq hopen]
  cases s.records.get? k with
  | none => exact ⟨rfl, rfl, rfl⟩
  | some c => exact ⟨evict_nextSeq .., evict_maxTtl .., evict_closed ..⟩

theorem removeIfNotFresher (hopen : s.closed = false) (now : Instant) (r : Record) :
    s.SameFrame (s.removeIfNotFresher now r).1 := by
  rw [removeIfNotFresher_eq hopen]
  cases s.records.get? r.key with
  | none => exact ⟨bury_nextSeq .., bury_maxTtl .., bury_closed ..⟩
  | some c =>
      by_cases hle : c.expiresAt ≤ r.expiresAt
      · simp only [if_pos hle]
        exact ⟨evict_nextSeq .., evict_maxTtl .., evict_closed ..⟩
      · simp only [if_neg hle]
        exact ⟨rfl, rfl, rfl⟩

theorem swept (s : Store) (now : Instant) : s.SameFrame (s.swept now) :=
  ⟨swept_nextSeq .., swept_maxTtl .., swept_closed ..⟩

end SameFrame

/-! ### Stores in which the same counts -/

/-- Two stores in which the same counts at a time. -/
structure Alike (now : Instant) (s s' : Store) : Prop where
  left : s.WellFormed
  right : s'.WellFormed
  live : s.liveRecords now = s'.liveRecords now
  standing : ∀ k, s.standing now k = s'.standing now k
  nextSeq : s.nextSeq = s'.nextSeq
  maxTtl : s.maxTtl = s'.maxTtl
  closed : s.closed = s'.closed

namespace Alike

variable {s s' : Store} {now : Instant}

theorem refl (hs : s.WellFormed) : Alike now s s := ⟨hs, hs, rfl, fun _ => rfl, rfl, rfl, rfl⟩

theorem live?_eq (h : Alike now s s') (k : Record.Key) : s.live? now k = s'.live? now k := by
  rw [← get?_liveRecords h.left, ← get?_liveRecords h.right, h.live]

/-- What counts later is what is left of what counts now. -/
theorem mono (h : Alike now s s') {u : Instant} (hu : now ≤ u) : Alike u s s' where
  left := h.left
  right := h.right
  live := by rw [s.liveRecords_of_le hu, s'.liveRecords_of_le hu, h.live]
  standing k := by
    rw [standing_of_le h.left.separate hu, standing_of_le h.right.separate hu, h.standing k]
  nextSeq := h.nextSeq
  maxTtl := h.maxTtl
  closed := h.closed

theorem cap_eq (h : Alike now s s') (e : Instant) : s.cap now e = s'.cap now e := by
  rw [cap, cap, h.maxTtl]

theorem outlives_iff (h : Alike now s s') (k : Record.Key) (e : Instant) :
    s.Outlives now k e ↔ s'.Outlives now k e := by
  rw [Store.outlives_iff h.left.separate, Store.outlives_iff h.right.separate, h.standing k]

/-- The same place is handed out. -/
theorem place_fst (h : Alike now s s') (k : Record.Key) :
    (s.place now k).1 = (s'.place now k).1 := by
  rw [place, place, h.live?_eq k]
  cases s'.live? now k with
  | none => exact h.nextSeq
  | some c => rfl

theorem place (h : Alike now s s') (k : Record.Key) :
    Alike now (s.place now k).2 (s'.place now k).2 where
  left := h.left.place now k
  right := h.right.place now k
  live := by
    rw [liveRecords_congr (place_records s now k), liveRecords_congr (place_records s' now k)]
    exact h.live
  standing k' := by
    rw [standing_congr (s.sameAt_place now), standing_congr (s'.sameAt_place now)]
    exact h.standing k'
  nextSeq := by
    rw [Store.place, Store.place, h.live?_eq k]
    cases s'.live? now k with
    | none =>
        show (s.nextSeq + 1) % seqBound = (s'.nextSeq + 1) % seqBound
        rw [h.nextSeq]
    | some c => exact h.nextSeq
  maxTtl := by rw [place_maxTtl, place_maxTtl, h.maxTtl]
  closed := by rw [place_closed, place_closed, h.closed]

theorem enter (h : Alike now s s') (r : Record) : Alike now (s.enter r) (s'.enter r) where
  left := h.left.enter r
  right := h.right.enter r
  live := by rw [liveRecords_enter, liveRecords_enter, h.live]
  standing k := by
    rw [standing_enter h.left.separate, standing_enter h.right.separate, h.standing k]
  nextSeq := h.nextSeq
  maxTtl := h.maxTtl
  closed := h.closed

theorem symm (h : Alike now s s') : Alike now s' s :=
  ⟨h.right, h.left, h.live.symm, fun k => (h.standing k).symm, h.nextSeq.symm, h.maxTtl.symm,
    h.closed.symm⟩

/-! ### Operations on both -/

theorem granted_eq (h : Alike now s s') (reg : Registration) :
    s.granted now reg = s'.granted now reg := by
  rw [granted, granted, grant, grant, h.maxTtl, h.place_fst reg.key]

theorem adopted_eq (h : Alike now s s') (r : Record) : s.adopted now r = s'.adopted now r := by
  rw [adopted, adopted, h.cap_eq, h.place_fst r.key]

/-- A registration has the same answer and leaves the stores alike. -/
theorem upsert (h : Alike now s s') (hopen : s.closed = false) (reg : Registration) :
    (s.upsert now reg).2 = (s'.upsert now reg).2 ∧
      Alike now (s.upsert now reg).1 (s'.upsert now reg).1 := by
  rw [upsert_eq hopen, upsert_eq (h.closed ▸ hopen), h.granted_eq reg, h.live?_eq reg.key]
  exact ⟨rfl, (h.place reg.key).enter _⟩

/-- So has a record of another node. -/
theorem merge (h : Alike now s s') (hopen : s.closed = false) (r : Record) :
    (s.merge now r).2 = (s'.merge now r).2 ∧
      Alike now (s.merge now r).1 (s'.merge now r).1 := by
  have hopen' : s'.closed = false := h.closed ▸ hopen
  have hiff := h.outlives_iff r.key (s.cap now r.expiresAt)
  rcases merge_cases hopen now r with ⟨hno, he⟩ | ⟨ho, he⟩ <;>
    rcases merge_cases hopen' now r with ⟨hno', he'⟩ | ⟨ho', he'⟩ <;>
    rw [← h.cap_eq] at *
  · rw [he, he']
    exact ⟨rfl, h⟩
  · exact absurd (hiff.2 ho') hno
  · exact absurd (hiff.1 ho) hno'
  · rw [he, he', h.adopted_eq r]
    exact ⟨rfl, (h.place r.key).enter _⟩

/-- Two stores of which other records or tombstones are taken away stay alike if what counts of
them stays the same. -/
theorem shrink (h : Alike now s s') {t t' : Store} (ht : t.WellFormed) (ht' : t'.WellFormed)
    (hframe : s.SameFrame t) (hframe' : s'.SameFrame t')
    (hlive : t.liveRecords now = t'.liveRecords now)
    (hstanding : ∀ k, t.standing now k = t'.standing now k) : Alike now t t' where
  left := ht
  right := ht'
  live := hlive
  standing := hstanding
  nextSeq := hframe.nextSeq.trans (h.nextSeq.trans hframe'.nextSeq.symm)
  maxTtl := hframe.maxTtl.trans (h.maxTtl.trans hframe'.maxTtl.symm)
  closed := hframe.closed.trans (h.closed.trans hframe'.closed.symm)

/-- A sweep of one of the stores is of no consequence. -/
theorem swept (h : Alike now s s') : Alike now s (s'.swept now) := by
  refine h.shrink h.left (h.right.swept now) ⟨rfl, rfl, rfl⟩ (.swept s' now) ?_ fun k => ?_
  · rw [liveRecords_swept h.right, h.live]
  · rw [standing_swept h.right, h.standing k]

theorem remove (h : Alike now s s') (hopen : s.closed = false) (k : Record.Key) :
    Alike now (s.remove now k).1 (s'.remove now k).1 := by
  have hopen' : s'.closed = false := h.closed ▸ hopen
  refine h.shrink (h.left.perform now (.remove k)) (h.right.perform now (.remove k))
    (.remove hopen now k) (.remove hopen' now k) ?_ fun k' => ?_
  · rw [liveRecords_remove hopen h.left, liveRecords_remove hopen' h.right, h.live]
  · rw [standing_remove hopen h.left.separate, standing_remove hopen' h.right.separate,
      h.standing k', h.live?_eq k']

theorem removeIfNotFresher (h : Alike now s s') (hopen : s.closed = false) (r : Record) :
    Alike now (s.removeIfNotFresher now r).1 (s'.removeIfNotFresher now r).1 := by
  have hopen' : s'.closed = false := h.closed ▸ hopen
  refine h.shrink (h.left.perform now (.removeIfNotFresher r))
    (h.right.perform now (.removeIfNotFresher r)) (.removeIfNotFresher hopen now r)
    (.removeIfNotFresher hopen' now r) ?_ fun k' => ?_
  · rw [liveRecords_removeIfNotFresher hopen h.left,
      liveRecords_removeIfNotFresher hopen' h.right, h.live, h.live?_eq r.key]
  · rw [standing_removeIfNotFresher hopen h.left.separate,
      standing_removeIfNotFresher hopen' h.right.separate, h.standing k']

/-- Every operation makes like stores of like stores. -/
theorem perform (h : Alike now s s') (op : Operation) :
    Alike now (s.perform now op) (s'.perform now op) := by
  by_cases hc : s.closed
  · rw [perform_of_closed hc, perform_of_closed (h.closed ▸ hc)]
    exact h
  have hopen : s.closed = false := Bool.eq_false_iff.2 hc
  cases op with
  | upsert reg => exact (h.upsert hopen reg).2
  | merge r => exact (h.merge hopen r).2
  | remove k => exact h.remove hopen k
  | removeIfNotFresher r => exact h.removeIfNotFresher hopen r
  | reclaim =>
      show Alike now (s.reclaim now).1 (s'.reclaim now).1
      rw [reclaim_fst, reclaim_fst, if_neg hc, if_neg (h.closed ▸ hc)]
      exact h.swept.symm.swept.symm
  | close =>
      exact ⟨h.left.perform now .close, h.right.perform now .close, h.live, h.standing,
        h.nextSeq, h.maxTtl, rfl⟩

/-- A page shows live records only, in an order that other records have no part in. -/
theorem query (h : Alike now s s') (ns : String) (limit cursor : Nat) :
    s.query now ns limit cursor = s'.query now ns limit cursor := by
  have hlive (t : Store) : t.records.values.filter (onPage now ns cursor) =
      (t.liveRecords now).values.filter (onPage now ns cursor) := by
    rw [liveRecords, Table.values, Table.values, Table.retain, List.filter_map, List.filter_map,
      List.filter_filter]
    refine congrArg _ (List.filter_congr fun e _ => ?_)
    cases he : e.2.isExpired now <;> simp [onPage, he]
  rw [Store.query, Store.query, hlive s, hlive s', h.live, h.closed]

end Alike

/-! ### Questions and answers -/

/-- What may be asked of a store. -/
inductive Call where
  | perform (op : Operation)
  | get (k : Record.Key)
  | query (namespaceName : String) (limit cursor : Nat)
deriving DecidableEq

/-- An answer. -/
inductive Reply where
  | upserted (result : Except Error (Record × UpsertOutcome))
  | merged (result : Except Error Bool)
  | got (result : Except Error (Option Record))
  | listed (result : Except Error Page)

/-- The answer to a registration, to a record of another node or to a question. -/
def reply? (s : Store) (now : Instant) : Call → Option Reply
  | .perform (.upsert reg) => some (.upserted (s.upsert now reg).2)
  | .perform (.merge r) => some (.merged (s.merge now r).2)
  | .get k => some (.got (s.get now k))
  | .query ns limit cursor => some (.listed (s.query now ns limit cursor))
  | .perform _ => none

/-- The store after a call. -/
def after (s : Store) (now : Instant) : Call → Store
  | .perform op => s.perform now op
  | .get _ | .query .. => s

/-- The answers to some calls, each made at its time. -/
def replies (s : Store) : List (Instant × Call) → List Reply
  | [] => []
  | (now, call) :: rest => (s.reply? now call).toList ++ (s.after now call).replies rest

variable {s s' : Store} {now : Instant}

theorem Alike.reply? (h : Alike now s s') (call : Call) :
    s.reply? now call = s'.reply? now call := by
  cases call with
  | get k => simp only [Store.reply?, Store.get, h.closed, h.live?_eq k]
  | query ns limit cursor => simp only [Store.reply?, h.query]
  | perform op =>
      by_cases hc : s.closed
      · have hc' : s'.closed = true := h.closed ▸ hc
        cases op <;> simp [Store.reply?, Store.upsert, Store.merge, hc, hc']
      have hopen : s.closed = false := Bool.eq_false_iff.2 hc
      cases op with
      | upsert reg => simp only [Store.reply?, (h.upsert hopen reg).1]
      | merge r => simp only [Store.reply?, (h.merge hopen r).1]
      | _ => rfl

theorem Alike.after (h : Alike now s s') (call : Call) :
    Alike now (s.after now call) (s'.after now call) := by
  cases call with
  | perform op => exact h.perform op
  | get k => exact h
  | query ns limit cursor => exact h

/-- Like stores give the same answers, though only one of them is swept. -/
theorem Alike.replies {u : Instant} (h : Alike now s s') {asked : List (Instant × Call)}
    (hclock : ClockRuns now asked u) :
    s.replies (asked.filter fun a => a.2 ≠ .perform .reclaim) = s'.replies asked := by
  -- The two stores are not equal on the way: the one that is not swept still holds what has
  -- expired. So the induction is over stores that are alike.
  induction asked generalizing s s' now with
  | nil => rfl
  | cons a rest ih =>
      obtain ⟨now', call⟩ := a
      obtain ⟨hle, hrest⟩ := hclock
      have h' := h.mono hle
      by_cases hsweep : call = .perform .reclaim
      · subst hsweep
        rw [List.filter_cons_of_neg (by simp)]
        have hswept : Alike now' s (s'.reclaim now').1 := by
          rw [reclaim_fst]
          split
          · exact h'
          · exact h'.swept
        exact ih hswept hrest
      · rw [List.filter_cons_of_pos (by simpa using hsweep), Store.replies, Store.replies,
          h'.reply? call, ih (h'.after call) hrest]

/-- **Sweeps are not seen.** Of whatever is asked of an empty store, in any order and on a clock
that does not go back, leave out the sweeps: every registration, every record of another node
and every question is answered as before. -/
theorem replies_without_sweeps (maxTtl : Duration) {start finish : Instant}
    (asked : List (Instant × Call)) (hclock : ClockRuns start asked finish) :
    (Store.empty maxTtl).replies (asked.filter fun a => a.2 ≠ .perform .reclaim) =
      (Store.empty maxTtl).replies asked :=
  (Alike.refl (WellFormed.empty maxTtl)).replies hclock

/-- A peer registers, expires and is swept away, registers anew and leaves; the mark of that is
swept away as well once it no longer counts, and another node tells of the peer again. -/
def chatSwept : List (Instant × Call) :=
  [(0, .perform (.upsert ⟨"chat", default, [], .ofMillis 50⟩)), (60, .perform .reclaim),
    (60, .perform (.upsert ⟨"chat", default, [], .ofMillis 50⟩)),
    (70, .perform (.remove ("chat", default))), (80, .perform .reclaim),
    (110, .perform .reclaim), (110, .perform (.merge ⟨"chat", default, [], 150, 7⟩)),
    (120, .get ("chat", default)), (120, .query "chat" 10 0)]

theorem replies_without_sweeps_chat :
    ClockRuns 0 chatSwept 130 ∧
    chatSwept.filter (fun a => a.2 ≠ .perform .reclaim) ≠ chatSwept ∧
    (Store.empty (.ofMillis 1000)).replies
        (chatSwept.filter fun a => a.2 ≠ .perform .reclaim) =
      (Store.empty (.ofMillis 1000)).replies chatSwept := by
  have hclock : ClockRuns 0 chatSwept 130 := by simp [ClockRuns, chatSwept]
  exact ⟨hclock, by decide, replies_without_sweeps (.ofMillis 1000) chatSwept hclock⟩

end Rendezvous.Store
