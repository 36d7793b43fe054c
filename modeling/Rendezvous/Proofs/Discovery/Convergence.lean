import Mathlib.Data.Finset.Lattice.Fold
import Rendezvous.Discovery.Service
import Rendezvous.Proofs.Store.Change
import Rendezvous.Proofs.Store.Standing

/-!
# Rendezvous.Proofs.Discovery.Convergence

Nodes that have heard the same events agree, in whatever order they heard them and however
often. Each event has a *claim* on the key that it names, a point of the order of standings,
and applying the event joins its claim to the standing of the key. A run over a list of
events therefore joins the supremum of their claims, which depends on the set of events only.

Addresses are not ranked: of two registrations with one expiry the first to come stays. They
agree where an expiry determines them.

* `Discovery.applyAll`, `Discovery.claim`, `Discovery.standing_applyAll`;
* `Discovery.origin_of_live`: where a live record's addresses come from;
* `Discovery.applyAll_converges`.
-/

namespace Rendezvous.Discovery

/-- Applies events of other nodes, one after the other, at one time. -/
def applyAll (s : Store) (now : Instant) (events : List Sync.Event) : Store :=
  events.foldl (fun s e => (applyEvent s now e).1) s

/-! ### One event -/

/-- What an event claims for the key that it names. An upsert's expiry is capped, the expiry
of a removal is not. -/
def claim (s : Store) (now : Instant) : Sync.Event → Standing
  | .upsert _ r =>
    Standing.ifAhead now (s.cap now r.expiresAt) (Rank.record (s.cap now r.expiresAt))
  | .remove _ r => Standing.ifAhead now r.expiresAt (Rank.removal r.expiresAt)

/-- What an event claims for a key. -/
def claimOn (s : Store) (now : Instant) (k : Record.Key) (e : Sync.Event) : Standing :=
  if e.record.key = k then claim s now e else ⊥

variable {s : Store} {now : Instant} {k : Record.Key}

/-- Claims depend on nothing of a store but the longest lifetime that it believes. -/
theorem claimOn_congr {s' : Store} (h : s'.maxTtl = s.maxTtl) :
    claimOn s' now k = claimOn s now k := by
  funext e
  cases e <;> simp [claimOn, claim, Store.cap, h]

theorem applyEvent_upsert (origin : String) (r : Record) :
    (applyEvent s now (.upsert origin r)).1 = (s.merge now r).1 := rfl

theorem applyEvent_remove (origin : String) (r : Record) :
    (applyEvent s now (.remove origin r)).1 = (s.removeIfNotFresher now r).1 := rfl

theorem applyEvent_separate (hs : s.Separate) (e : Sync.Event) :
    (applyEvent s now e).1.Separate := by
  cases e with
  | upsert origin r => exact hs.merge now r
  | remove origin r => exact hs.removeIfNotFresher now r

theorem applyEvent_wellFormed (hs : s.WellFormed) (e : Sync.Event) :
    (applyEvent s now e).1.WellFormed := by
  cases e with
  | upsert origin r => exact hs.perform now (.merge r)
  | remove origin r => exact hs.perform now (.removeIfNotFresher r)

/-- Applying an event is a change of the key that it names. -/
theorem effect_applyEvent (s : Store) (now : Instant) (e : Sync.Event) :
    ∃ c answer, c.key = e.record.key ∧ s.Effect now c (applyEvent s now e).1 answer := by
  cases e with
  | upsert origin r => exact ⟨.merge r, _, rfl, s.effect_change now (.merge r)⟩
  | remove origin r =>
      exact ⟨.removeIfNotFresher r, _, rfl, s.effect_change now (.removeIfNotFresher r)⟩

/-- Applying an event changes neither the cap nor whether the store is open. -/
theorem applyEvent_frame (s : Store) (now : Instant) (e : Sync.Event) :
    (applyEvent s now e).1.closed = s.closed ∧ (applyEvent s now e).1.maxTtl = s.maxTtl := by
  obtain ⟨c, answer, -, heffect⟩ := effect_applyEvent s now e
  exact ⟨heffect.closed, heffect.maxTtl⟩

/-- An event concerns no key but the one that it names. -/
theorem get?_applyEvent_of_ne (s : Store) (now : Instant) {e : Sync.Event}
    (hk : e.record.key ≠ k) :
    (applyEvent s now e).1.records.get? k = s.records.get? k := by
  obtain ⟨c, answer, hc, heffect⟩ := effect_applyEvent s now e
  exact (heffect.sameAt (hc ▸ Ne.symm hk)).record

/-- **An event is a join.** It raises the standing of each key by its claim on that key. -/
theorem standing_applyEvent (hopen : s.closed = false) (hs : s.Separate) (e : Sync.Event) :
    (applyEvent s now e).1.standing now k = s.standing now k ⊔ claimOn s now k e := by
  cases e with
  | upsert origin r =>
      rw [applyEvent_upsert]
      exact Store.standing_merge hopen hs r
  | remove origin r =>
      rw [applyEvent_remove]
      exact Store.standing_removeIfNotFresher hopen hs r

/-! ### All events -/

theorem applyAll_cons (e : Sync.Event) (events : List Sync.Event) :
    applyAll s now (e :: events) = applyAll (applyEvent s now e).1 now events := rfl

theorem applyAll_separate (hs : s.Separate) (events : List Sync.Event) :
    (applyAll s now events).Separate := by
  induction events generalizing s with
  | nil => exact hs
  | cons e rest ih => exact ih (applyEvent_separate hs e)

/-- A closed store hears nothing. -/
theorem applyAll_of_closed (hc : s.closed = true) (events : List Sync.Event) :
    applyAll s now events = s := by
  induction events with
  | nil => rfl
  | cons e rest ih =>
      have he : (applyEvent s now e).1 = s := by
        cases e with
        | upsert origin r => simp [applyEvent, Store.merge, hc]
        | remove origin r => simp [applyEvent, Store.removeIfNotFresher, hc]
      rw [applyAll_cons, he, ih]

/-- The standing of a key after a run is the supremum of what it was and of all claims on
it. -/
theorem standing_applyAll (hopen : s.closed = false) (hs : s.Separate)
    (events : List Sync.Event) :
    (applyAll s now events).standing now k =
      s.standing now k ⊔ events.toFinset.sup (claimOn s now k) := by
  induction events generalizing s with
  | nil => simp [applyAll]
  | cons e rest ih =>
      -- The cap does not change on the way, so all claims are those of the first store.
      obtain ⟨hclosed, hcap⟩ := applyEvent_frame s now e
      rw [applyAll_cons, ih (hclosed.trans hopen) (applyEvent_separate hs e), claimOn_congr hcap,
        standing_applyEvent hopen hs, List.toFinset_cons, Finset.sup_insert, sup_assoc]

/-! ### Addresses -/

/-- The addresses of a key go with its expiry: no two upserts of a list for one key share a
capped expiry with different addresses, nor does one with the live record already stored. -/
structure Unambiguous (s : Store) (now : Instant) (events : List Sync.Event) : Prop where
  upserts : ∀ o r o' r', .upsert o r ∈ events → .upsert o' r' ∈ events → r.key = r'.key →
    s.cap now r.expiresAt = s.cap now r'.expiresAt → r.addrs = r'.addrs
  stored : ∀ o r c, .upsert o r ∈ events → s.live? now r.key = some c →
    s.cap now r.expiresAt = c.expiresAt → r.addrs = c.addrs

/-- A live record after an event was there before, or is the one that the event brought. -/
theorem live_applyEvent (hopen : s.closed = false) {e : Sync.Event} {r : Record}
    (h : (applyEvent s now e).1.live? now k = some r) :
    s.live? now k = some r ∨
      ∃ o q, e = .upsert o q ∧ q.key = k ∧ r.addrs = q.addrs ∧
        r.expiresAt = s.cap now q.expiresAt := by
  obtain ⟨hget, hlt⟩ := Store.live?_eq_some_iff.1 h
  cases e with
  | upsert o q =>
      rw [applyEvent_upsert] at hget
      rcases Store.merge_cases hopen now q with ⟨-, he⟩ | ⟨-, he⟩ <;> rw [he] at hget
      · exact Or.inl (Store.live?_eq_some_iff.2 ⟨hget, hlt⟩)
      · rw [Store.get?_records_enter, Store.adopted_key, Store.place_records] at hget
        by_cases hk : k = q.key
        · rw [if_pos hk] at hget
          cases hget
          exact Or.inr ⟨o, q, rfl, hk.symm, rfl, rfl⟩
        · rw [if_neg hk] at hget
          exact Or.inl (Store.live?_eq_some_iff.2 ⟨hget, hlt⟩)
  | remove o q =>
      left
      refine Store.live?_eq_some_iff.2 ⟨?_, hlt⟩
      rw [applyEvent_remove, Store.removeIfNotFresher_eq hopen] at hget
      cases hq : s.records.get? q.key with
      | none =>
          rw [hq] at hget
          simpa using hget
      | some c =>
          rw [hq] at hget
          by_cases hle : c.expiresAt ≤ q.expiresAt
          · simp only [if_pos hle, Store.evict_records, Table.get?_erase] at hget
            by_cases hk : k = q.key
            · rw [if_pos hk] at hget
              cases hget
            · rwa [if_neg hk] at hget
          · simpa only [if_neg hle] using hget

/-- A live record after a run has the addresses and the expiry of the record that was live
before it, or those of one of the upserts of its key. -/
theorem origin_of_live (hopen : s.closed = false) {events : List Sync.Event} {r : Record}
    (h : (applyAll s now events).live? now k = some r) :
    s.live? now k = some r ∨
      ∃ o q, .upsert o q ∈ events ∧ q.key = k ∧ r.addrs = q.addrs ∧
        r.expiresAt = s.cap now q.expiresAt := by
  induction events generalizing s with
  | nil => exact Or.inl h
  | cons e rest ih =>
      obtain ⟨hclosed, hcap⟩ := applyEvent_frame s now e
      rcases ih (hclosed.trans hopen) h with hl | ⟨o, q, hmem, hk, ha, he⟩
      · rcases live_applyEvent hopen hl with hl | ⟨o, q, rfl, hk, ha, he⟩
        · exact Or.inl hl
        · exact Or.inr ⟨o, q, List.mem_cons_self, hk, ha, he⟩
      · refine Or.inr ⟨o, q, List.mem_cons_of_mem _ hmem, hk, ha, ?_⟩
        rw [he, Store.cap, Store.cap, hcap]

/-- Where an expiry determines the addresses, runs over the same events that leave a key
with one expiry leave it with the same addresses. -/
theorem addrs_eq_of_expiry_eq {events events' : List Sync.Event} (hopen : s.closed = false)
    (hsame : ∀ e, e ∈ events ↔ e ∈ events') (hu : Unambiguous s now events) {r r' : Record}
    (hr : (applyAll s now events).live? now k = some r)
    (hr' : (applyAll s now events').live? now k = some r')
    (he : r.expiresAt = r'.expiresAt) : r.addrs = r'.addrs := by
  rcases origin_of_live hopen hr with hl | ⟨o, q, hq, hk, ha, hx⟩
  · rcases origin_of_live hopen hr' with hl' | ⟨o', q', hq', hk', ha', hx'⟩
    · rw [hl] at hl'
      cases hl'
      rfl
    · rw [ha']
      refine (hu.stored o' q' r ((hsame _).2 hq') (hk' ▸ hl) ?_).symm
      rw [← hx', he]
  · rcases origin_of_live hopen hr' with hl' | ⟨o', q', hq', hk', ha', hx'⟩
    · rw [ha]
      refine hu.stored o q r' hq (hk ▸ hl') ?_
      rw [← hx, he]
    · rw [ha, ha']
      refine hu.upserts o q o' q' hq ((hsame _).2 hq') (hk.trans hk'.symm) ?_
      rw [← hx, ← hx', he]

/-! ### Convergence -/

/-- **Nodes that have heard the same events agree.** From a store in which no key has both a
record and a tombstone, two runs over the same events, in any order and with any repeated,
leave every key with the same live expiry and the same tombstone, and also with the same
addresses if an expiry determines them. -/
theorem applyAll_converges (now : Instant) {events events' : List Sync.Event}
    (hs : s.Separate) (hsame : ∀ e, e ∈ events ↔ e ∈ events') :
    (∀ k, ((applyAll s now events).live? now k).map (·.expiresAt) =
        ((applyAll s now events').live? now k).map (·.expiresAt) ∧
      (applyAll s now events).tombstone? now k = (applyAll s now events').tombstone? now k) ∧
    (Unambiguous s now events →
      ∀ k, ((applyAll s now events).live? now k).map (·.addrs) =
        ((applyAll s now events').live? now k).map (·.addrs)) := by
  by_cases hc : s.closed = true
  · rw [applyAll_of_closed hc, applyAll_of_closed hc]
    exact ⟨fun _ => ⟨rfl, rfl⟩, fun _ _ => rfl⟩
  have hopen : s.closed = false := Bool.eq_false_iff.2 hc
  have hset : events.toFinset = events'.toFinset := by
    ext e
    rw [List.mem_toFinset, List.mem_toFinset, hsame]
  have hagree (k : Record.Key) :
      ((applyAll s now events).live? now k).map (·.expiresAt) =
          ((applyAll s now events').live? now k).map (·.expiresAt) ∧
        (applyAll s now events).tombstone? now k =
          (applyAll s now events').tombstone? now k := by
    refine Store.agree_of_standing_eq (applyAll_separate hs _) (applyAll_separate hs _) ?_
    rw [standing_applyAll hopen hs, standing_applyAll hopen hs, hset]
  -- The expiries agree already, and with them go the addresses.
  refine ⟨hagree, fun hu k => ?_⟩
  have hexpiry := (hagree k).1
  cases hr : (applyAll s now events).live? now k with
  | none =>
      rw [hr] at hexpiry
      simp only [Option.map_none] at hexpiry
      rw [Option.map_eq_none_iff.1 hexpiry.symm]
  | some r =>
      rw [hr] at hexpiry
      obtain ⟨r', hr', he⟩ := Option.map_eq_some_iff.1 hexpiry.symm
      rw [hr', Option.map_some, Option.map_some,
        addrs_eq_of_expiry_eq hopen hsame hu hr hr' he.symm]

/-- A record of one peer under one namespace. -/
def chatRecord (address expiresAt : Nat) : Record :=
  ⟨"chat", default, [[.memory address]], expiresAt, 0⟩

/-- A store that grants 100 milliseconds, with a record that expires at 60. -/
def chatStore : Store :=
  { Store.empty (.ofMillis 100) with
    records := [((chatRecord 3 60).key, chatRecord 3 60)] }

/-- Two registrations, one of them capped, and two removals. -/
def chatEvents : List Sync.Event :=
  [.upsert "b" (chatRecord 1 200), .remove "b" (chatRecord 0 50), .upsert "c" (chatRecord 2 90),
    .remove "c" (chatRecord 0 95)]

theorem applyAll_converges_reversed_twice :
    chatStore.Separate ∧ (∀ e, e ∈ chatEvents ↔ e ∈ chatEvents.reverse ++ chatEvents) ∧
    Unambiguous chatStore 10 chatEvents ∧
    ∀ k,
      ((applyAll chatStore 10 chatEvents).live? 10 k).map (·.expiresAt) =
        ((applyAll chatStore 10 (chatEvents.reverse ++ chatEvents)).live? 10 k).map
          (·.expiresAt) ∧
      (applyAll chatStore 10 chatEvents).tombstone? 10 k =
        (applyAll chatStore 10 (chatEvents.reverse ++ chatEvents)).tombstone? 10 k ∧
      ((applyAll chatStore 10 chatEvents).live? 10 k).map (·.addrs) =
        ((applyAll chatStore 10 (chatEvents.reverse ++ chatEvents)).live? 10 k).map
          (·.addrs) := by
  have hs : chatStore.Separate := fun _ => Or.inr rfl
  have hsame : ∀ e, e ∈ chatEvents ↔ e ∈ chatEvents.reverse ++ chatEvents := by simp
  have hu : Unambiguous chatStore 10 chatEvents := by
    refine ⟨fun o r o' r' h h' _ he => ?_, fun o r c h hl he => ?_⟩
    · simp only [chatEvents, List.mem_cons, Sync.Event.upsert.injEq, reduceCtorEq,
        List.not_mem_nil, or_false, false_or] at h h'
      rcases h with ⟨-, rfl⟩ | ⟨-, rfl⟩ <;> rcases h' with ⟨-, rfl⟩ | ⟨-, rfl⟩
      · rfl
      · exact absurd he (by decide)
      · exact absurd he (by decide)
      · rfl
    · simp only [chatEvents, List.mem_cons, Sync.Event.upsert.injEq, reduceCtorEq,
        List.not_mem_nil, or_false, false_or] at h
      rcases h with ⟨-, rfl⟩ | ⟨-, rfl⟩
      · cases hl
        exact absurd he (by decide)
      · cases hl
        exact absurd he (by decide)
  obtain ⟨hagree, haddrs⟩ := applyAll_converges 10 hs hsame
  exact ⟨hs, hsame, hu, fun k => ⟨(hagree k).1, (hagree k).2, haddrs hu k⟩⟩

end Rendezvous.Discovery
