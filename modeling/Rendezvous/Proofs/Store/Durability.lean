import Rendezvous.Proofs.Address.List
import Rendezvous.Proofs.Store.Journal
import Rendezvous.Proofs.Store.Volume

/-!
# Rendezvous.Proofs.Store.Durability

What is on disk is what was in memory. A *session* is a store with the files around it, and
what is asked of it comes in steps: whole changes, the rest of changes that were found to be
asked of an open store, pieces of sweeps, and the two steps in which a store is closed. So
the close may fall between any two steps, and into the middle of a change.

* `Store.Session`, `Session.Step`, `Session.act`, `Session.run`;
* `Session.Sound`: the invariant, with its step and run lemmas;
* `Session.reopened_as_closed`: what a store finds when it is opened again.
-/

namespace Rendezvous.Store

/-- A store and the files among which its own is. -/
structure Session where
  volume : Volume
  store : Store
  /-- Whether what is asked from now on is turned away. -/
  shut : Bool

namespace Session

/-! ### Steps -/

/-- What may happen to a store that is at work. -/
inductive Step where
  /-- A change is asked for. -/
  | ask (c : Change)
  /-- A change that found the store open goes on, whatever has happened since then. -/
  | resume (c : Change)
  /-- A sweep is asked for. -/
  | reclaim
  /-- A sweep that found the store open goes over some keys. -/
  | sweep (ks : List Record.Key)
  /-- A sweep that found the store open drops tombstones. -/
  | forget
  /-- The store is about to be closed: what is asked from now on is turned away. -/
  | shut
  /-- The writer is taken away, and ends when it has made all changes that were queued. -/
  | close
deriving DecidableEq

/-- The change that a step is a part of. -/
def Step.change? : Step → Option Change
  | .ask c => some c
  | .resume c => some c
  | _ => none

/-- The addresses that a step may bring are read back from their texts. -/
def Step.Readable (step : Step) : Prop :=
  ∀ c, step.change? = some c → ∀ a ∈ c.addrs, a.Readable

/-- Closes the store. -/
def close (d : Session) : Session :=
  { volume := (d.volume.closeStore d.store).1, store := (d.volume.closeStore d.store).2,
    shut := true }

/-- Takes what a change came to. -/
def take (d : Session) (changed : Store × Except Error Answer) :
    Session × Option (Except Error Answer) :=
  ({ d with store := changed.1 }, some changed.2)

/-- Takes a step, and answers if it is a part of a change. -/
def act (d : Session) (now : Instant) : Step → Session × Option (Except Error Answer)
  | .ask c =>
    if d.shut then (d, some (.error .closed)) else d.take (d.store.change now c)
  | .resume c => d.take (d.store.changeOpen now c)
  | .reclaim =>
    if d.shut then (d, none) else ({ d with store := (d.store.reclaim now).1 }, none)
  | .sweep ks => ({ d with store := (d.store.reclaimKeys now 0 ks).1 }, none)
  | .forget =>
    let tombstones := d.store.tombstones.retain fun t => now < t
    ({ d with store := { d.store with tombstones } }, none)
  | .shut => ({ d with shut := true }, none)
  | .close => (d.close, none)

/-- Takes steps, one after the other, each at its time. -/
def run (d : Session) (steps : List (Instant × Step)) : Session :=
  steps.foldl (fun d a => (d.act a.1 a.2).1) d

theorem run_append (d : Session) (before after : List (Instant × Step)) :
    d.run (before ++ after) = (d.run before).run after := List.foldl_append

variable {d d' : Session} {now : Instant} {step : Step} {c : Change}

/-- A step of a change is turned away, or has an effect on the store and on nothing else. -/
theorem act_cases (hstep : step.change? = some c) (d : Session) (now : Instant) :
    (d.act now step = (d, some (.error .closed))) ∨
      ∃ s' answer, d.store.Effect now c s' answer ∧
        d.act now step = ({ d with store := s' }, some answer) := by
  cases step with
  | ask c' =>
      cases hstep
      by_cases hs : d.shut
      · exact Or.inl (if_pos hs)
      · exact Or.inr ⟨_, _, d.store.effect_change now c, if_neg hs⟩
  | resume c' =>
      cases hstep
      exact Or.inr ⟨_, _, d.store.effect_changeOpen now c, rfl⟩
  | reclaim => cases hstep
  | sweep ks => cases hstep
  | forget => cases hstep
  | shut => cases hstep
  | close => cases hstep

/-- The same is in memory and will be on disk. -/
structure SameData (d d' : Session) : Prop where
  volume : d'.volume = d.volume
  records : d'.store.records = d.store.records
  tombstones : d'.store.tombstones = d.store.tombstones
  queue : d'.store.queue = d.store.queue

/-- A change that fails changes neither memory nor disk. -/
theorem act_error (hstep : step.change? = some c) {e : Error}
    (h : d.act now step = (d', some (.error e))) : d.SameData d' := by
  rcases act_cases hstep d now with hact | ⟨s', answer, heffect, hact⟩
  · rw [hact] at h
    cases h
    exact ⟨rfl, rfl, rfl, rfl⟩
  · rw [hact] at h
    cases h
    obtain ⟨hr, ht, hq⟩ := heffect.unchanged
    exact ⟨rfl, hr, ht, hq⟩

/-- A change that succeeds leaves the records that its answer tells of. -/
theorem act_ok (hstep : step.change? = some c) {answer : Answer}
    (h : d.act now step = (d', some (.ok answer))) :
    d.store.Told now d'.store c answer ∧
      ∀ k, k ≠ c.key → d'.store.records.get? k = d.store.records.get? k := by
  rcases act_cases hstep d now with hact | ⟨s', answer', heffect, hact⟩
  · rw [hact] at h
    cases h
  · rw [hact] at h
    cases h
    exact ⟨heffect.told, fun k hk => (heffect.sameAt hk).record⟩

theorem store_close (d : Session) : d.close.store = d.store.close :=
  Volume.closeStore_snd d.volume d.store

/-! ### Sweeps -/

theorem act_reclaim (d : Session) (now : Instant) :
    (d.act now .reclaim).1 =
      if d.shut = true ∨ d.store.closed = true then d
      else { d with store := d.store.swept now } := by
  obtain ⟨volume, store, shut⟩ := d
  unfold act
  dsimp only
  rw [Store.reclaim_fst]
  cases shut with
  | true => rfl
  | false => cases store.closed <;> rfl

theorem act_sweep (d : Session) (now : Instant) (ks : List Record.Key) :
    (d.act now (.sweep ks)).1 =
      if d.store.closed = true then d else { d with store := d.store.sweep now ks } := by
  show { d with store := (d.store.reclaimKeys now 0 ks).1 } = _
  rw [Store.reclaimKeys_fst]
  split <;> rfl

/-! ### What is live -/

/-- Steps up to a time, none of which is a part of a change of a key. -/
def Spare (steps : List (Instant × Step)) (k : Record.Key) (u : Instant) : Prop :=
  ∀ a ∈ steps, a.1 ≤ u ∧ ∀ c, a.2.change? = some c → c.key ≠ k

/-- A step that is a part of no change of a key takes nothing of it away that is live. -/
theorem live?_act (d : Session) {t u : Instant} (htu : t ≤ u) {k : Record.Key}
    (hstep : ∀ c, step.change? = some c → c.key ≠ k) :
    (d.act t step).1.store.live? u k = d.store.live? u k := by
  have hchange (c : Change) (hc : step.change? = some c) :
      (d.act t step).1.store.live? u k = d.store.live? u k := by
    rcases act_cases hc d t with hact | ⟨s', answer, heffect, hact⟩
    · rw [hact]
    · rw [hact]
      exact live?_congr (heffect.sameAt (hstep c hc).symm).record
  cases step with
  | ask c => exact hchange c rfl
  | resume c => exact hchange c rfl
  | reclaim =>
      rw [act_reclaim]
      split
      · rfl
      · exact d.store.live?_swept t htu k
  | sweep ks =>
      rw [act_sweep]
      split
      · rfl
      · exact d.store.live?_sweep htu ks k
  | forget => rfl
  | shut => rfl
  | close =>
      show d.close.store.live? u k = _
      rw [store_close]
      rfl

theorem live?_run (d : Session) {steps : List (Instant × Step)} {k : Record.Key}
    {u : Instant} (hsteps : Spare steps k u) :
    (d.run steps).store.live? u k = d.store.live? u k := by
  induction steps generalizing d with
  | nil => rfl
  | cons a rest ih =>
      obtain ⟨htu, hstep⟩ := hsteps a List.mem_cons_self
      have hrest := ih (d.act a.1 a.2).1 fun b hb => hsteps b (List.mem_cons_of_mem a hb)
      exact hrest.trans (d.live?_act htu hstep)

/-! ### The invariant -/

/-- The queue of the store is the journal of its records, and its file, which is empty when
the store is opened, has that journal once it is closed. -/
structure Sound (location : String) (p : Path) (d : Session) : Prop where
  journaled : d.store.Journaled
  located : d.store.location = location
  housed : d.volume.Houses location p
  file : d.volume.files.get? p =
    some (.database (if d.store.closed then d.store.flush [] else []))

variable {location : String} {p : Path}

/-- What happens to the store alone, and to nothing that its file has. -/
theorem Sound.withStore (h : d.Sound location p) {s : Store} (hj : s.Journaled)
    (hl : s.location = d.store.location) (hc : s.closed = d.store.closed)
    (hq : d.store.closed = true → s.queue = d.store.queue) :
    Sound location p { d with store := s } where
  journaled := hj
  located := hl.trans h.located
  housed := h.housed
  file := by
    show d.volume.files.get? p = some (.database (if s.closed then s.flush [] else []))
    rw [h.file, hc]
    -- Once the store is closed the file depends on its queue, which then stays as it is.
    cases hclosed : d.store.closed with
    | false => rfl
    | true => rw [if_pos rfl, if_pos rfl, Store.flush, Store.flush, hq hclosed]

theorem Sound.effect (h : d.Sound location p) {s' : Store}
    {answer : Except Error Answer} (he : d.store.Effect now c s' answer)
    (hc : ∀ a ∈ c.addrs, a.Readable) : Sound location p { d with store := s' } :=
  h.withStore (he.journaled h.journaled hc) he.location he.closed he.queue_of_closed

theorem Sound.close (h : d.Sound location p) : d.close.Sound location p := by
  cases hclosed : d.store.closed with
  | true =>
      have hsame : d.volume.closeStore d.store = (d.volume, d.store) := if_pos hclosed
      unfold Session.close
      rw [hsame]
      exact ⟨h.journaled, h.located, h.housed, h.file⟩
  | false =>
      have hfile := h.file
      rw [if_neg (by simp [hclosed])] at hfile
      have hhoused : d.volume.Houses d.store.location p := h.located.symm ▸ h.housed
      have hwritten := hhoused.closeStore hclosed h.journaled.queued hfile
      unfold Session.close
      rw [hwritten]
      refine ⟨h.journaled.congr rfl rfl h.journaled.nextSeq, h.located, h.housed.write _, ?_⟩
      exact d.volume.get?_write_self p _

/-- Every step keeps the invariant. -/
theorem Sound.act (h : d.Sound location p) (now : Instant) (hread : step.Readable) :
    (d.act now step).1.Sound location p := by
  have hchange (c : Change) (hc : step.change? = some c) :
      (d.act now step).1.Sound location p := by
    rcases act_cases hc d now with hact | ⟨s', answer, heffect, hact⟩
    · rw [hact]
      exact h
    · rw [hact]
      exact h.effect heffect (hread c hc)
  cases step with
  | ask c => exact hchange c rfl
  | resume c => exact hchange c rfl
  | reclaim =>
      rw [act_reclaim]
      split
      · exact h
      · rename_i hopen
        refine h.withStore (h.journaled.swept now) ?_ ?_ fun hc => absurd (Or.inr hc) hopen
        · exact Store.swept_location ..
        · exact Store.swept_closed ..
  | sweep ks =>
      rw [act_sweep]
      split
      · exact h
      · rename_i hopen
        refine h.withStore (h.journaled.sweep now ks) ?_ ?_ fun hc => absurd hc hopen
        · exact Store.sweep_location ..
        · exact Store.sweep_closed ..
  | forget =>
      exact h.withStore (h.journaled.congr rfl rfl h.journaled.nextSeq) rfl rfl fun _ => rfl
  | shut => exact ⟨h.journaled, h.located, h.housed, h.file⟩
  | close => exact h.close

theorem Sound.run (h : d.Sound location p) (steps : List (Instant × Step))
    (hread : ∀ a ∈ steps, a.2.Readable) : (d.run steps).Sound location p := by
  induction steps generalizing d with
  | nil => exact h
  | cons a rest ih =>
      refine ih (h.act a.1 (hread a List.mem_cons_self)) ?_
      exact fun b hb => hread b (List.mem_cons_of_mem a hb)

/-- What is opened on an empty file is sound. -/
theorem sound_of_openStore {v : Volume} {maxTtl : Duration} {t : Instant}
    (hloc : location ≠ Store.inMemory)
    (hempty : (v.database? (v.fileOf location)).getD [] = [])
    (hopen : v.openStore location maxTtl t = (d.volume, .ok d.store)) :
    d.Sound location (v.fileOf location) := by
  obtain ⟨hstore, hhoused, hfile⟩ := Volume.openStore_of_empty hloc hempty hopen
  refine ⟨?_, ?_, hhoused, ?_⟩
  · rw [hstore]
    exact .ofRecords_nil maxTtl location
  · rw [hstore]
    rfl
  · rw [hfile, hstore]
    rfl

/-! ### Opening again -/

/-- What is found in the file once the store is closed. -/
theorem Sound.database?_close (h : d.Sound location p) :
    d.close.volume.database? p = some (d.store.flush []) := by
  have hfile := h.close.file
  rw [store_close] at hfile
  rw [Volume.database?, hfile]
  rfl

/-- A closed store is opened again with the records that were live. -/
theorem Sound.reopen (h : d.Sound location p) (hloc : location ≠ Store.inMemory)
    (maxTtl : Duration) (now : Instant) :
    ∃ v s, d.close.volume.openStore location maxTtl now = (v, .ok s) ∧
      ∀ k, s.records.get? k = d.store.live? now k := by
  obtain ⟨s, rest, hrows, hrecords⟩ :=
    h.journaled.holds.ofRows h.journaled.filed h.journaled.storable maxTtl location now
  have hfile := h.close.file
  rw [store_close] at hfile
  obtain ⟨v, hopen⟩ := h.close.housed.openStore hloc hfile hrows
  exact ⟨v, s, hopen, hrecords⟩

/-- **What is on disk is what was in memory.** A store is opened on an empty file, any steps
are taken, and it is closed, if that was not one of the steps.

Then, however the writer has cut the queue into batches, the file is what they make of no rows;
a store that is opened on it, at any time and for any lifetimes, has just those records that
were live in memory. A change that failed has left memory and disk as they were. One that
succeeded has left what its answer tells of its key, and every other key as it was; and what it
has left is there at the end, unless something is done to the key later or it expires. -/
theorem reopened_as_closed {v : Volume} {maxTtl : Duration} {t : Instant}
    (hloc : location ≠ Store.inMemory)
    (hempty : (v.database? (v.fileOf location)).getD [] = [])
    (hopen : v.openStore location maxTtl t = (d.volume, .ok d.store))
    (steps : List (Instant × Step)) (hread : ∀ a ∈ steps, a.2.Readable) :
    (∀ batches : List (List WriteOp),
      batches.flatten = (d.run steps).store.queue.getD [] →
      (d.run steps).close.volume.database? (v.fileOf location) =
        some (Rows.applyBatches [] batches)) ∧
    (∀ (maxTtl' : Duration) (u : Instant), ∃ v' s,
      (d.run steps).close.volume.openStore location maxTtl' u = (v', .ok s) ∧
        ∀ k, s.records.get? k = (d.run steps).store.live? u k) ∧
    ∀ before after now step c, steps = before ++ (now, step) :: after →
      step.change? = some c →
      match (d.run before).act now step with
      | (_, none) => False
      | (d', some (.error _)) => (d.run before).SameData d'
      | (d', some (.ok answer)) =>
          (d.run before).store.Told now d'.store c answer ∧
          (∀ k, k ≠ c.key →
            d'.store.records.get? k = (d.run before).store.records.get? k) ∧
          ∀ u, Spare after c.key u →
            (d.run steps).store.live? u c.key = d'.store.live? u c.key := by
  have hsound := (sound_of_openStore hloc hempty hopen).run steps hread
  refine ⟨?_, hsound.reopen hloc, ?_⟩
  · intro batches hbatches
    rw [hsound.database?_close, Rows.applyBatches_eq, hbatches]
    rfl
  · rintro before after now step c rfl hstep
    split
    · rename_i d' hact
      rcases act_cases hstep (d.run before) now with h | ⟨s', answer, -, h⟩
      · rw [h] at hact
        cases hact
      · rw [h] at hact
        cases hact
    · rename_i d' e hact
      exact act_error hstep hact
    · rename_i d' answer hact
      obtain ⟨htold, hframe⟩ := act_ok hstep hact
      refine ⟨htold, hframe, fun u hspare => ?_⟩
      -- What the change left is live at the end, as none of the later steps is about its key.
      have hrun : d.run (before ++ (now, step) :: after) = d'.run after := by
        rw [run_append]
        show (((d.run before).act now step).1).run after = _
        rw [hact]
      rw [hrun]
      exact live?_run d' hspare

/-- An address that names a protocol alone. -/
def tlsAddress : Multiaddr := [.bare .tls]

theorem tlsAddress_readable : tlsAddress.Readable := by
  rw [Multiaddr.Readable, Multiaddr.parse_eq]
  decide +kernel

/-- A namespace with both separators in it. -/
def roomKey : Record.Key := ("chat\x00room/1", default)

/-- A removal is on its way when the store is closed and comes just in time, a registration
comes too late. -/
def roomSteps : List (Instant × Step) :=
  [(1000, .ask (.upsert ⟨roomKey.1, roomKey.2, [tlsAddress], .ofSecs 30⟩)),
    (1500, .ask (.merge ⟨"chat", default, [], 90000, 0⟩)), (2000, .shut),
    (2100, .resume (.remove ("chat", default))), (2200, .close),
    (2300, .resume (.upsert ⟨"late", default, [], .ofSecs 30⟩))]

/-- What is opened among no files. -/
def roomSession : Session :=
  { volume := ⟨[], [(["records"], .database [])]⟩,
    store := Store.ofRecords (.ofSecs 60) "records" [], shut := false }

theorem roomSteps_readable : ∀ a ∈ roomSteps, a.2.Readable := by
  intro a ha c hc addr haddr
  have haddr' : addr = tlsAddress := by
    simp only [roomSteps, List.mem_cons, List.not_mem_nil, or_false] at ha
    rcases ha with rfl | rfl | rfl | rfl | rfl | rfl
    · cases hc
      exact List.mem_singleton.1 haddr
    · cases hc
      cases haddr
    · cases hc
    · cases hc
      cases haddr
    · cases hc
    · cases hc
      cases haddr
  rw [haddr']
  exact tlsAddress_readable

theorem roomSession_opened :
    Volume.empty.openStore "records" (.ofSecs 60) 0 =
      (roomSession.volume, .ok roomSession.store) := by
  have hpath : Volume.path "records" = ["records"] := by decide +kernel
  have hfile (v : Volume) (hv : v.directories = []) : v.fileOf "records" = ["records"] := by
    unfold Volume.fileOf Volume.isDirectory
    rw [hpath, hv]
    rfl
  have hdatabase : Volume.empty.openDatabase "records" = .ok (roomSession.volume, []) := by
    unfold Volume.openDatabase
    rw [hfile _ rfl, hpath]
    rfl
  rw [Volume.openStore_of_openDatabase (by decide) hdatabase, hfile _ rfl]
  rfl

theorem reopened_as_closed_room :
    (∀ a ∈ roomSteps, a.2.Readable) ∧
    ∃ v s, (roomSession.run roomSteps).close.volume.openStore "records" (.ofSecs 60) 3000 =
        (v, .ok s) ∧
      s.records.get? roomKey = some ⟨roomKey.1, roomKey.2, [tlsAddress], 31000, 1⟩ ∧
      s.records.get? ("chat", default) = none ∧ s.records.get? ("late", default) = none := by
  have hempty : (Volume.empty.database? (Volume.empty.fileOf "records")).getD [] = [] := rfl
  obtain ⟨-, hreopen, -⟩ :=
    reopened_as_closed (by decide) hempty roomSession_opened roomSteps roomSteps_readable
  obtain ⟨v, s, hagain, hrecords⟩ := hreopen (.ofSecs 60) 3000
  refine ⟨roomSteps_readable, v, s, hagain, ?_, ?_, ?_⟩
  · rw [hrecords]
    decide +kernel
  · rw [hrecords]
    decide +kernel
  · rw [hrecords]
    decide +kernel

end Session

end Rendezvous.Store
