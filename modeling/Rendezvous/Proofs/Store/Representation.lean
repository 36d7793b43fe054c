import Rendezvous.Proofs.Store.Durability
import Rendezvous.Proofs.Store.Rereading

/-!
# Rendezvous.Proofs.Store.Representation

What holds of every store that there can be: one that was opened, empty or on what a store has
written, and worked on, with the clock going forwards and backwards, closed in the middle of
whatever was going on, and opened again.

* `Store.Shift`: what a step does to a store, and whether it hands out a place;
  `Session.shift_act`;
* `Shift.wellFormed`, `Shift.numbered`, `Shift.stored`: what each of them keeps;
* `Session.Reached`: the sessions that there can be, and how many places were handed out in all;
* `Session.Represented`: the invariant; `Session.Reached.represented`;
* `Session.tables_consistent`: keys, places and tombstones fit together.
-/

namespace Rendezvous.Store

/-- What a step does to a store, and whether it hands out a place. -/
inductive Shift (s : Store) (now : Instant) : (takes : Bool) → Store → Prop
  | stay : Shift s now false s
  /-- A place is taken, and comes to nothing as the store has been closed. -/
  | spend (h : s.closed = true) : Shift s now true s.takeSeq.2
  | enter (r : Record) (h : s.closed = false) (hexpiry : r.expiresAt < 2 ^ 64)
      (hseq : r.seq = (s.place now r.key).1) :
      Shift s now (s.live? now r.key).isNone ((s.place now r.key).2.enter r)
  | evict (k : Record.Key) (e : Instant) (h : s.closed = false) :
      Shift s now false (s.evict now k e)
  | bury (k : Record.Key) (e : Instant) (hget : s.records.get? k = none) :
      Shift s now false (s.bury now k e)
  | sweep (ks : List Record.Key) (h : s.closed = false) : Shift s now false (s.sweep now ks)
  | swept (h : s.closed = false) : Shift s now false (s.swept now)
  | forget : Shift s now false { s with tombstones := s.tombstones.retain fun t => now < t }

variable {s s' : Store} {now : Instant} {takes : Bool} {c : Change} {base : Rows}

/-- A change is one of them, or fails before it does anything. -/
theorem Effect.shift {answer : Except Error Answer} (h : s.Effect now c s' answer) :
    ∃ takes, s.Shift now takes s' := by
  cases h with
  | refused _ _ => exact ⟨_, .stay⟩
  | spent _ h => exact ⟨_, .spend h⟩
  | registered reg h => exact ⟨_, .enter (s.granted now reg) h (add_lt now _) rfl⟩
  | adopted r h => exact ⟨_, .enter (s.adopted now r) h (s.cap_lt now _) rfl⟩
  | ignored _ => exact ⟨_, .stay⟩
  | missing _ _ => exact ⟨_, .stay⟩
  | removed k r h _ => exact ⟨_, .evict k r.expiresAt h⟩
  | remembered r hget => exact ⟨_, .bury r.key r.expiresAt hget⟩
  | displaced r _ h _ _ => exact ⟨_, .evict r.key r.expiresAt h⟩
  | fresher _ _ _ _ => exact ⟨_, .stay⟩

/-! ### Tables -/

theorem WellFormed.drop (h : s.WellFormed) (k : Record.Key) : (s.drop k).WellFormed where
  separate k' := by
    rw [drop_records, Table.get?_erase, drop_tombstones]
    rcases h.separate k' with hnone | hnone
    · left
      rw [hnone, ite_self]
    · exact .inr hnone
  filed := h.filed_erase k
  distinct := h.distinct.erase k
  distinct_tombstones := h.distinct_tombstones

theorem WellFormed.sweep (h : s.WellFormed) (now : Instant) (ks : List Record.Key) :
    (s.sweep now ks).WellFormed :=
  sweep_induction (motive := WellFormed) (fun _ k _ h _ _ => h.drop k) ks h

theorem WellFormed.forget (h : s.WellFormed) (now : Instant) :
    WellFormed { s with tombstones := s.tombstones.retain fun t => now < t } where
  separate k := by
    rcases h.separate k with hnone | hnone
    · exact .inl hnone
    · exact .inr (Table.get?_retain_of_none hnone fun t => now < t)
  filed := h.filed
  distinct := h.distinct
  distinct_tombstones := h.distinct_tombstones.retain fun t => now < t

namespace Shift

theorem wellFormed (h : s.Shift now takes s') (hs : s.WellFormed) : s'.WellFormed := by
  cases h with
  | stay => exact hs
  | spend _ => exact hs.congr rfl rfl
  | enter r _ _ _ => exact (hs.place now r.key).enter r
  | evict k e _ => exact hs.evict now k e
  | bury k e hget => exact hs.bury hget now e
  | sweep ks _ => exact hs.sweep now ks
  | swept _ => exact hs.swept now
  | forget => exact hs.forget now

/-! ### Places -/

theorem nextSeq_takeSeq_ne (s : Store) : s.takeSeq.2.nextSeq ≠ s.nextSeq := by
  intro hsame
  change (s.nextSeq + 1) % seqBound = s.nextSeq at hsame
  have hlt : (s.nextSeq + 1) % seqBound < seqBound := Nat.mod_lt _ (by decide)
  have hbound : 1 < seqBound := by decide
  rcases Nat.lt_or_ge (s.nextSeq + 1) seqBound with hmore | hlast
  · rw [Nat.mod_eq_of_lt hmore] at hsame
    omega
  · -- The last place comes in front of the first.
    have hend : s.nextSeq + 1 = seqBound := by omega
    rw [hend, Nat.mod_self] at hsame
    omega

/-- The next place is another if and only if one is handed out. -/
theorem nextSeq_eq_iff (h : s.Shift now takes s') : s'.nextSeq = s.nextSeq ↔ takes = false := by
  have hnext := nextSeq_takeSeq_ne s
  cases h with
  | stay => simp
  | spend _ => simp [hnext]
  | enter r _ _ _ =>
      rw [enter_nextSeq]
      cases hlive : s.live? now r.key with
      | some c => simp [place_of_live hlive]
      | none => simp [place_of_none hlive, hnext]
  | evict k e _ => simp
  | bury k e _ => simp
  | sweep ks _ => simp
  | swept _ => simp
  | forget => simp

theorem numbered (h : s.Shift now takes s') {n : Nat} (hs : s.Numbered n)
    (hn : n + takes.toNat < seqBound) : s'.Numbered (n + takes.toNat) := by
  cases h with
  | stay => exact hs
  | spend _ =>
      refine ⟨?_, fun k r hr => ?_, hs.apart⟩
      · show (s.nextSeq + 1) % seqBound = (n + 1 + 1) % seqBound
        rw [hs.next, Nat.mod_add_mod]
      · obtain ⟨hpos, hle⟩ := hs.placed k r hr
        exact ⟨hpos, Nat.le_succ_of_le hle⟩
  | enter r _ _ hseq => exact hs.enter hseq hn
  | evict k e _ => exact hs.erase (evict_nextSeq ..) (evict_records ..)
  | bury k e _ => exact hs.shrink (bury_nextSeq ..) fun k r hr => by rwa [bury_records] at hr
  | sweep ks _ =>
      refine hs.shrink (sweep_nextSeq ..) fun k r hr => ?_
      rw [get?_records_sweep] at hr
      split at hr
      · exact (live?_eq_some_iff.1 hr).1
      · exact hr
  | swept _ =>
      refine hs.shrink (swept_nextSeq ..) fun k r hr => ?_
      rw [get?_records_swept] at hr
      exact (live?_eq_some_iff.1 hr).1
  | forget => exact hs.shrink rfl fun _ _ hr => hr

end Shift

/-! ### Rows -/

/-- The rows that the queue makes of those that a store began with keep the places of its
records. -/
structure Stored (base : Rows) (s : Store) : Prop where
  /-- There is a disk. -/
  queued : s.queue.isSome = true
  keeps : ∃ written, (s.flush base).Keeps written s.records

namespace Stored

theorem congr (h : s.Stored base) (hr : s'.records = s.records) (hq : s'.queue = s.queue) :
    s'.Stored base where
  queued := by rw [hq]; exact h.queued
  keeps := by rw [flush, hr, hq]; exact h.keeps

theorem enter (h : s.Stored base) {r : Record} (hr : r.Bounded) : (s.enter r).Stored base := by
  obtain ⟨hqueued, hrows⟩ := flush_of_queued h.queued (enter_queue s r) base
  obtain ⟨written, hkeeps⟩ := h.keeps
  refine ⟨hqueued, written.insert r.key r, ?_⟩
  rw [hrows]
  exact hkeeps.put hr

theorem delete (h : s.Stored base) {k : Record.Key} (hr : s'.records = s.records.erase k)
    (hq : s'.queue = s.queue.map fun ops => ops ++ [.delete k]) : s'.Stored base := by
  obtain ⟨hqueued, hrows⟩ := flush_of_queued h.queued hq base
  obtain ⟨written, hkeeps⟩ := h.keeps
  refine ⟨hqueued, written.erase k, ?_⟩
  rw [hrows, hr]
  exact hkeeps.delete k

theorem sweep (h : s.Stored base) (now : Instant) (ks : List Record.Key) :
    (s.sweep now ks).Stored base :=
  sweep_induction (motive := Stored base) (fun _ _ _ h _ _ => h.delete rfl rfl) ks h

end Stored

namespace Shift

theorem stored (h : s.Shift now takes s') (hs : s.Stored base) {n : Nat} (hn : s.Numbered n)
    (hlt : n < seqBound) : s'.Stored base := by
  cases h with
  | stay => exact hs
  | spend _ => exact hs.congr rfl rfl
  | enter r _ hexpiry hseq =>
      refine (hs.congr (place_records ..) (place_queue ..)).enter ⟨hexpiry, ?_⟩
      rw [hseq, place]
      split
      · rename_i c hlive
        have hle := (hn.placed _ c (live?_eq_some_iff.1 hlive).1).2
        exact Nat.lt_of_le_of_lt hle hlt
      · show s.nextSeq < 2 ^ 64
        rw [hn.next]
        exact Nat.mod_lt _ (by decide)
  | evict k e _ => exact hs.delete (evict_records ..) (evict_queue ..)
  | bury k e _ => exact hs.congr (bury_records ..) (bury_queue ..)
  | sweep ks _ => exact hs.sweep now ks
  | swept _ => exact (hs.sweep now (s.expiredKeys now)).congr rfl rfl
  | forget => exact hs.congr rfl rfl

theorem closed (h : s.Shift now takes s') : s'.closed = s.closed := by
  cases h <;> simp

theorem location (h : s.Shift now takes s') : s'.location = s.location := by
  cases h <;> simp

/-- A store that is closed puts nothing into its queue any more. -/
theorem queue_of_closed (h : s.Shift now takes s') (hc : s.closed = true) :
    s'.queue = s.queue := by
  cases h with
  | stay | spend | forget => rfl
  | bury k e _ => exact bury_queue ..
  | enter _ h | evict _ _ h | sweep _ h | swept h =>
      rw [hc] at h
      cases h

end Shift

/-! ### Opening -/

variable {v v' : Volume} {location : String} {maxTtl : Duration} {t : Instant}

/-- A store is opened without a disk, or on the rows that its file has; then its file is left with
the rows that are left. -/
theorem openStore_cases (hopen : v.openStore location maxTtl t = (v', .ok s)) :
    (location = inMemory ∧ s = Store.empty maxTtl) ∨
      location ≠ inMemory ∧ ∃ rest, Store.ofRows maxTtl location t
          ((v.database? (v.fileOf location)).getD []) = .ok (s, rest) ∧
        v'.Houses location (v.fileOf location) ∧
        v'.files.get? (v.fileOf location) = some (.database rest) := by
  unfold Volume.openStore at hopen
  split at hopen
  · rename_i hloc
    cases hopen
    exact .inl ⟨hloc, rfl⟩
  · rename_i hloc
    refine .inr ⟨hloc, ?_⟩
    cases hdb : v.openDatabase location with
    | error e =>
        rw [hdb] at hopen
        cases hopen
    | ok opened =>
        obtain ⟨w, rows⟩ := opened
        obtain ⟨hw, hrows⟩ := (Volume.houses_of_openDatabase hdb).of_openDatabase hdb
        rw [hdb] at hopen
        dsimp only at hopen
        rw [hrows] at hopen
        cases hread : Store.ofRows maxTtl location t
            ((v.database? (v.fileOf location)).getD []) with
        | error row =>
            rw [hread] at hopen
            cases hopen
        | ok found =>
            obtain ⟨s', rest⟩ := found
            rw [hread] at hopen
            dsimp only at hopen
            cases hopen
            rw [hw.fileOf]
            exact ⟨rest, rfl, hw.write _, w.get?_write_self _ _⟩

namespace Session

/-! ### Steps -/

/-- Whether a step hands out a place. -/
def handsOut (d : Session) (now : Instant) (step : Step) : Bool :=
  decide ((d.act now step).1.store.nextSeq ≠ d.store.nextSeq)

variable {d d' : Session} {step : Step} {n m : Nat}

/-- What happens to the store in a step that does not close it, and to nothing else but what is
turned away from then on. -/
theorem shift_act (hclose : step ≠ .close) (d : Session) (now : Instant) :
    d.store.Shift now (d.handsOut now step) (d.act now step).1.store ∧
      (d.act now step).1.volume = d.volume := by
  suffices h : (∃ b, d.store.Shift now b (d.act now step).1.store) ∧
      (d.act now step).1.volume = d.volume by
    obtain ⟨⟨b, hshift⟩, hvolume⟩ := h
    have hplace : d.handsOut now step = b := by
      rw [handsOut, Bool.eq_iff_iff, decide_eq_true_iff, Ne, hshift.nextSeq_eq_iff,
        Bool.not_eq_false]
    exact ⟨hplace ▸ hshift, hvolume⟩
  have hchange (c : Change) (hc : step.change? = some c) :
      (∃ b, d.store.Shift now b (d.act now step).1.store) ∧
        (d.act now step).1.volume = d.volume := by
    rcases act_cases hc d now with hact | ⟨s', answer, heffect, hact⟩
    · rw [hact]
      exact ⟨⟨_, .stay⟩, rfl⟩
    · rw [hact]
      exact ⟨heffect.shift, rfl⟩
  cases step with
  | ask c => exact hchange c rfl
  | resume c => exact hchange c rfl
  | reclaim =>
      rw [act_reclaim]
      split
      · exact ⟨⟨_, .stay⟩, rfl⟩
      · rename_i hopen
        exact ⟨⟨_, .swept (Bool.eq_false_iff.2 fun h => hopen (.inr h))⟩, rfl⟩
  | sweep ks =>
      rw [act_sweep]
      split
      · exact ⟨⟨_, .stay⟩, rfl⟩
      · rename_i hopen
        exact ⟨⟨_, .sweep ks (Bool.eq_false_iff.2 hopen)⟩, rfl⟩
  | forget => exact ⟨⟨_, .forget⟩, rfl⟩
  | shut => exact ⟨⟨_, .stay⟩, rfl⟩
  | close => exact absurd rfl hclose

/-! ### The invariant -/

/-- The file of a session has the rows that its store began with and, once it is closed, those
that its queue has made of them. -/
structure OnDisk (d : Session) (base : Rows) (p : Path) : Prop where
  houses : d.volume.Houses d.store.location p
  file : d.volume.files.get? p =
    some (.database (if d.store.closed then d.store.flush base else base))
  stored : d.store.Stored base

/-- What holds of a session, in the course of which `n` places have been handed out: tables that
fit together, places among the first of these, and a file, if there is a disk. -/
structure Represented (n : Nat) (d : Session) : Prop where
  wellFormed : d.store.WellFormed
  numbered : ∃ m ≤ n, d.store.Numbered m
  onDisk : d.store.location ≠ inMemory → ∃ base p, d.OnDisk base p

theorem OnDisk.shift {p : Path} (h : d.OnDisk base p) (hs : d.store.Shift now takes d'.store)
    (hvolume : d'.volume = d.volume) (hn : d.store.Numbered m) (hlt : m < seqBound) :
    d'.OnDisk base p where
  houses := by
    rw [hvolume, hs.location]
    exact h.houses
  file := by
    rw [hvolume, h.file, hs.closed]
    -- Once the store is closed the file depends on its queue, which then stays as it is.
    cases hclosed : d.store.closed with
    | false => rfl
    | true => rw [if_pos rfl, if_pos rfl, flush, flush, hs.queue_of_closed hclosed]
  stored := hs.stored h.stored hn hlt

theorem OnDisk.close {p : Path} (h : d.OnDisk base p) : d.close.OnDisk base p := by
  have hstored : d.store.close.Stored base := h.stored.congr rfl rfl
  have hfile := h.file
  cases hclosed : d.store.closed with
  | true =>
      have hsame : d.close.volume = d.volume := congrArg Prod.fst (if_pos hclosed)
      rw [if_pos hclosed, ← hsame] at hfile
      refine ⟨?_, ?_, d.store_close ▸ hstored⟩
      · rw [hsame, store_close]
        exact h.houses
      · rw [hfile, store_close]
        rfl
  | false =>
      rw [if_neg (Bool.eq_false_iff.1 hclosed)] at hfile
      have hvolume : d.close.volume = d.volume.write p (.database (d.store.flush base)) :=
        congrArg Prod.fst (h.houses.closeStore hclosed h.stored.queued hfile)
      refine ⟨?_, ?_, d.store_close ▸ hstored⟩
      · rw [hvolume, store_close]
        exact h.houses.write _
      · rw [hvolume, store_close, Volume.get?_write_self]
        rfl

theorem Represented.close (h : Represented n d) : Represented n d.close := by
  refine ⟨?_, ?_, ?_⟩
  · rw [store_close]
    exact h.wellFormed.congr rfl rfl
  · obtain ⟨m, hm, hnumbered⟩ := h.numbered
    refine ⟨m, hm, ?_⟩
    rw [store_close]
    exact hnumbered.shrink rfl fun _ _ hr => hr
  · intro hloc
    rw [store_close] at hloc
    obtain ⟨base, p, hdisk⟩ := h.onDisk hloc
    exact ⟨base, p, hdisk.close⟩

/-- **A step keeps what holds,** as long as there are places. -/
theorem Represented.act (h : Represented n d) (now : Instant) (step : Step)
    (hn : n + (d.handsOut now step).toNat < seqBound) :
    Represented (n + (d.handsOut now step).toNat) (d.act now step).1 := by
  by_cases hclose : step = .close
  · subst hclose
    have hmore : Represented n d.close := h.close
    obtain ⟨m, hm, hnumbered⟩ := hmore.numbered
    exact ⟨hmore.wellFormed, ⟨m, Nat.le_add_right_of_le hm, hnumbered⟩, hmore.onDisk⟩
  · obtain ⟨hshift, hvolume⟩ := shift_act hclose d now
    obtain ⟨m, hm, hnumbered⟩ := h.numbered
    have hlt : m + (d.handsOut now step).toNat < seqBound := by omega
    refine ⟨hshift.wellFormed h.wellFormed, ⟨_, Nat.add_le_add_right hm _,
      hshift.numbered hnumbered hlt⟩, fun hloc => ?_⟩
    rw [hshift.location] at hloc
    obtain ⟨base, p, hdisk⟩ := h.onDisk hloc
    exact ⟨base, p, hdisk.shift hshift hvolume hnumbered (by omega)⟩

/-- What is opened without a disk, or on rows that keep the places of some records. -/
theorem represented_of_openStore {s₀ : Store} (hs : s₀.WellFormed) (hn : s₀.Numbered m)
    (hle : m ≤ n)
    (hkeeps : location ≠ inMemory →
      ∃ written, Rows.Keeps ((v.database? (v.fileOf location)).getD []) written s₀.records)
    (hopen : v.openStore location maxTtl t = (v', .ok s)) : Represented n ⟨v', s, false⟩ := by
  rcases openStore_cases hopen with ⟨rfl, rfl⟩ | ⟨hloc, rest, hread, hhouses, hfile⟩
  · exact ⟨.empty maxTtl, ⟨0, Nat.zero_le n, rfl, nofun, nofun⟩, fun hloc => absurd rfl hloc⟩
  · obtain ⟨written, hkeeps⟩ := hkeeps hloc
    obtain ⟨rs, left, rfl, hleft, hrs⟩ := hkeeps.reread hs.filed hread
    obtain ⟨hnumbered, htop⟩ := hn.ofRecords hrs maxTtl location
    exact ⟨.ofRecords .., ⟨topSeq rs, Nat.le_trans htop hle, hnumbered⟩,
      fun _ => ⟨rest, _, hhouses, hfile, rfl, left, hleft⟩⟩

/-! ### Whatever was done -/

/-- The rows that are found in the file of a session once it has been closed. -/
def rowsLeft (d : Session) : Rows :=
  (d.close.volume.database? (d.close.volume.fileOf d.store.location)).getD []

/-- The sessions that there can be, and the number of places that have been handed out in all. -/
inductive Reached : Nat → Session → Prop
  /-- A store is opened, without a disk or on an empty file. -/
  | opened {v v' : Volume} {location : String} {maxTtl : Duration} {t : Instant} {s : Store}
    (hempty : location ≠ inMemory → (v.database? (v.fileOf location)).getD [] = [])
    (hopen : v.openStore location maxTtl t = (v', .ok s)) : Reached 0 ⟨v', s, false⟩
  | act {n : Nat} {d : Session} (h : Reached n d) (now : Instant) (step : Step) :
    Reached (n + (d.handsOut now step).toNat) (d.act now step).1
  /-- A store is opened where a file has what another store has written, up to the moment at which
  it was closed, or beyond which its writer did not come. -/
  | reopened {n : Nat} {d : Session} {v v' : Volume} {location : String} {maxTtl : Duration}
    {t : Instant} {s : Store} (h : Reached n d) (hdisk : d.store.location ≠ inMemory)
    (hrows : (v.database? (v.fileOf location)).getD [] = d.rowsLeft)
    (hopen : v.openStore location maxTtl t = (v', .ok s)) : Reached n ⟨v', s, false⟩

/-- The rows that a session leaves keep the places of its records. -/
theorem Represented.rowsLeft (h : Represented n d) (hdisk : d.store.location ≠ inMemory) :
    ∃ written, d.rowsLeft.Keeps written d.close.store.records := by
  obtain ⟨base, p, hbefore⟩ := h.onDisk hdisk
  have hafter := hbefore.close
  obtain ⟨written, hkeeps⟩ := hafter.stored.keeps
  have hhouses := hafter.houses
  have hfile := hafter.file
  rw [store_close] at hhouses hfile
  refine ⟨written, ?_⟩
  have hrows : d.rowsLeft = d.close.store.flush base := by
    have hplace : d.close.volume.fileOf d.store.location = p := hhouses.fileOf
    rw [Session.rowsLeft, hplace, Volume.database?, hfile, store_close]
    rfl
  rw [hrows]
  exact hkeeps

/-- **What holds of every session.** -/
theorem Reached.represented (h : Reached n d) (hn : n < seqBound) : Represented n d := by
  induction h with
  | @opened v v' location maxTtl t s hempty hopen =>
      refine represented_of_openStore (.empty maxTtl) (m := 0) ⟨rfl, nofun, nofun⟩ (Nat.le_refl 0)
        (fun hloc => ⟨[], ?_⟩) hopen
      rw [hempty hloc]
      exact .nil
  | act _ now step ih => exact (ih (by omega)).act now step hn
  | @reopened n d v v' location maxTtl t s _ hdisk hrows hopen ih =>
      have hclosed := (ih hn).close
      obtain ⟨m, hm, hnumbered⟩ := hclosed.numbered
      refine represented_of_openStore hclosed.wellFormed hnumbered hm (fun _ => ?_) hopen
      rw [hrows]
      exact (ih hn).rowsLeft hdisk

/-- **Keys, places and tombstones fit together.** In every session that there can be, as long as
fewer places have been handed out in all than there are numbers: no key has both a record and a
tombstone; each record stands under its own key; no two records have one place; a place is at
least 1, and lies before the next to be handed out, unless the very last has been handed out; and
a change that fails leaves records and tombstones, and what the disk will see, as they were. -/
theorem tables_consistent (h : Reached n d) (hn : n < seqBound) :
    (∀ k, d.store.records.get? k = none ∨ d.store.tombstones.get? k = none) ∧
    (∀ k r, d.store.records.get? k = some r → r.key = k) ∧
    (∀ k k' r r', d.store.records.get? k = some r → d.store.records.get? k' = some r' →
      r.seq = r'.seq → k = k') ∧
    (∀ k r, d.store.records.get? k = some r →
      1 ≤ r.seq ∧
        (r.seq < d.store.nextSeq ∨ n + 1 = seqBound ∧ d.store.nextSeq = 0)) ∧
    (∀ now step c e d', step.change? = some c → d.act now step = (d', some (.error e)) →
      d.SameData d') := by
  have hd : Represented n d := h.represented hn
  obtain ⟨m, hm, hnumbered⟩ := hd.numbered
  refine ⟨hd.wellFormed.separate, hd.wellFormed.filed, hnumbered.apart, fun k r hget => ?_,
    fun now step c e d' hstep hact => act_error hstep hact⟩
  obtain ⟨hpos, hle⟩ := hnumbered.placed k r hget
  refine ⟨hpos, ?_⟩
  rw [hnumbered.next]
  by_cases hlast : m + 1 < seqBound
  · left
    rw [Nat.mod_eq_of_lt hlast]
    exact Nat.lt_succ_of_le hle
  · have hend : m + 1 = seqBound := by omega
    right
    rw [hend]
    exact ⟨by omega, Nat.mod_self _⟩

/-- A registration that is asked of `roomSession`. -/
def roomRegistered : Session :=
  (roomSession.act 1000 (.ask (.upsert ⟨roomKey.1, roomKey.2, [tlsAddress], .ofSecs 30⟩))).1

/-- It is found again where the store is opened for the second time. -/
theorem roomRegistered_reopened :
    ∃ v s, roomRegistered.close.volume.openStore "records" (.ofSecs 60) 3000 = (v, .ok s) ∧
      s.records.get? roomKey = some ⟨roomKey.1, roomKey.2, [tlsAddress], 31000, 1⟩ := by
  have hsound := sound_of_openStore (d := roomSession) (by decide) rfl roomSession_opened
  have hread := roomSteps_readable _ (List.mem_cons_self ..)
  obtain ⟨v, s, hopen, hrecords⟩ :=
    (hsound.act 1000 hread).reopen (by decide) (.ofSecs 60) 3000
  refine ⟨v, s, hopen, ?_⟩
  rw [hrecords]
  decide +kernel

theorem roomRegistered_reached : ∃ n, n ≤ 1 ∧ Reached n roomRegistered := by
  have hfirst : Reached 0 roomSession := .opened (fun _ => rfl) roomSession_opened
  refine ⟨_, ?_, hfirst.act 1000 _⟩
  rw [Nat.zero_add]
  exact Bool.toNat_le _

theorem tables_consistent_room :
    ∃ n d, Reached n d ∧ n < seqBound ∧
      (d.store.records.get? roomKey).map (·.seq) = some 1 ∧ 1 < d.store.nextSeq ∧
      d.store.tombstones.get? roomKey = none := by
  obtain ⟨v, s, hopen, hget⟩ := roomRegistered_reopened
  obtain ⟨n, hfew, hregistered⟩ := roomRegistered_reached
  have hreached : Reached n ⟨v, s, false⟩ := hregistered.reopened (by decide) rfl hopen
  have hn : n + 1 < seqBound := Nat.lt_of_le_of_lt (Nat.succ_le_succ hfew) (by decide)
  obtain ⟨hseparate, -, -, hplaces, -⟩ := tables_consistent hreached (Nat.lt_of_succ_lt hn)
  refine ⟨n, _, hreached, Nat.lt_of_succ_lt hn, by rw [hget]; rfl, ?_, ?_⟩
  · obtain ⟨-, hlt | ⟨hend, -⟩⟩ := hplaces roomKey _ hget
    · exact hlt
    · exact absurd hend (Nat.ne_of_lt hn)
  · rcases hseparate roomKey with hnone | hnone
    · rw [hget] at hnone
      cases hnone
    · exact hnone

end Session

end Rendezvous.Store
