import Rendezvous.Proofs.Store.Invariants

/-!
# Rendezvous.Proofs.Store.Removal

What was removed does not come back through an old copy of it. A removal with an expiry
*bars* its key up to that expiry, and a barred key stays barred whatever becomes of the
tombstone: while it stands it is only ever raised; a record that takes its place expires
later; and once it has been swept away, or was never put up, its time has passed.

* `Store.Bars`: the invariant, with one lemma for each move;
* `Store.Bars.perform`, `Store.Bars.performAll`: one operation, and a run;
* `Store.removed_stays_removed`.
-/

namespace Rendezvous.Store

/-- Nothing with an expiry up to `t` can be taken over under a key: that expiry has passed, a
tombstone reaches as far, or a record is there that expires later. -/
inductive Bars (s : Store) (now : Instant) (k : Record.Key) (t : Instant) : Prop
  | passed (h : t ≤ now)
  | buried (t' : Instant) (hget : s.tombstones.get? k = some t') (h : t ≤ t')
  | outlived (r : Record) (hget : s.records.get? k = some r) (h : t < r.expiresAt)

namespace Bars

variable {s : Store} {now u : Instant} {k : Record.Key} {t : Instant}

theorem mono (h : s.Bars now k t) (hu : now ≤ u) : s.Bars u k t := by
  cases h with
  | passed h => exact passed (Nat.le_trans h hu)
  | buried t' hget h => exact buried t' hget h
  | outlived r hget h => exact outlived r hget h

theorem congr {s' : Store} (h : s.Bars now k t) (hsame : s.SameAt s' k) :
    s'.Bars now k t := by
  cases h with
  | passed h => exact passed h
  | buried t' hget h => exact buried t' (hsame.tombstone.trans hget) h
  | outlived r hget h => exact outlived r (hsame.record.trans hget) h

/-- An expiry that outlives what is known of a barred key is later than the bar. -/
theorem lt_of_outlives (h : s.Bars now k t) (hs : s.Separate) {e : Instant}
    (ho : s.Outlives now k e) : t < e := by
  cases h with
  | passed h => exact Nat.lt_of_le_of_lt h ho.ahead
  | buried t' hget h =>
      exact Nat.lt_of_le_of_lt h (ho.buried (hs.record_eq_none hget) t' hget)
  | outlived r hget h =>
      by_cases he : now < r.expiresAt
      · exact Nat.lt_trans h (ho.live r (live?_eq_some_iff.2 ⟨hget, he⟩))
      · exact Nat.lt_trans h (Nat.lt_of_le_of_lt (Nat.not_lt.1 he) ho.ahead)

/-! ### The moves -/

theorem place (h : s.Bars now k t) (k' : Record.Key) : (s.place now k').2.Bars now k t :=
  h.congr (s.sameAt_place now)

/-- A record may be entered under another key, or if it expires later than the bar. -/
theorem enter (h : s.Bars now k t) {r : Record} (hr : r.key = k → t < r.expiresAt) :
    (s.enter r).Bars now k t := by
  by_cases hk : r.key = k
  · refine outlived r ?_ (hr hk)
    rw [get?_records_enter, if_pos hk.symm]
  · exact h.congr (s.sameAt_enter (Ne.symm hk))

/-- Burying a key only raises its tombstone. -/
theorem bury (h : s.Bars now k t) {k' : Record.Key} (hnone : s.records.get? k' = none)
    (e : Instant) : (s.bury now k' e).Bars now k t := by
  by_cases hk : k = k'
  · subst hk
    cases h with
    | passed h => exact passed h
    | buried t' hget h =>
        by_cases he : now < e
        · refine buried (max e t') ?_ (Nat.le_trans h (Nat.le_max_right e t'))
          rw [get?_tombstones_bury, if_pos ⟨rfl, he⟩, hget]
          rfl
        · refine buried t' ?_ h
          rw [get?_tombstones_bury, if_neg (fun hc => he hc.2), hget]
    | outlived r hget h =>
        rw [hnone] at hget
        cases hget
  · exact h.congr (s.sameAt_bury now hk e)

/-- A key with the tombstone that burying it leaves is barred up to that expiry. -/
theorem of_tombstone {s s' : Store} {e : Instant}
    (hs' : s'.tombstones.get? k = (s.bury now k e).tombstones.get? k) (h : t ≤ e) :
    s'.Bars now k t := by
  by_cases he : now < e
  · refine buried (max e ((s.tombstones.get? k).getD e)) ?_
      (Nat.le_trans h (Nat.le_max_left _ _))
    rw [hs', get?_tombstones_bury, if_pos ⟨rfl, he⟩]
  · exact passed (Nat.le_trans h (Nat.not_lt.1 he))

theorem of_evict (s : Store) (now : Instant) (k : Record.Key) {e : Instant} (h : t ≤ e) :
    (s.evict now k e).Bars now k t :=
  of_tombstone (by rw [evict_tombstones]) h

theorem of_bury (s : Store) (now : Instant) (k : Record.Key) {e : Instant} (h : t ≤ e) :
    (s.bury now k e).Bars now k t :=
  of_tombstone rfl h

/-- A record is evicted with an expiry that is not before its own. -/
theorem evict (h : s.Bars now k t) (hs : s.Separate) {k' : Record.Key} {c : Record}
    (hget : s.records.get? k' = some c) {e : Instant} (hle : c.expiresAt ≤ e) :
    (s.evict now k' e).Bars now k t := by
  by_cases hk : k = k'
  · subst hk
    cases h with
    | passed h => exact passed h
    | buried t' hburied h =>
        rw [hs.tombstone_eq_none hget] at hburied
        cases hburied
    | outlived r hr h =>
        -- The record that outlived the bar is the one that goes.
        rw [hget] at hr
        cases hr
        exact of_evict s now k (Nat.le_trans (Nat.le_of_lt h) hle)
  · exact h.congr (s.sameAt_evict now hk e)

/-- What a sweep takes away has expired, so that its bar has passed. -/
theorem swept (h : s.Bars now k t) (hd : s.tombstones.Distinct) :
    (s.swept now).Bars now k t := by
  cases h with
  | passed h => exact passed h
  | buried t' hget h =>
      by_cases ht : now < t'
      · refine buried t' ?_ h
        rw [swept_tombstones, Table.get?_retain hd, hget, Option.filter_some, if_pos]
        exact decide_eq_true ht
      · exact passed (Nat.le_trans h (Nat.not_lt.1 ht))
  | outlived r hget h =>
      by_cases he : now < r.expiresAt
      · refine outlived r ?_ h
        rw [get?_records_swept]
        exact live?_eq_some_iff.2 ⟨hget, he⟩
      · exact passed (Nat.le_of_lt (Nat.lt_of_lt_of_le h (Nat.not_lt.1 he)))

/-! ### Runs -/

/-- Every operation keeps a bar, but for a registration of the key itself. -/
theorem perform (h : s.Bars now k t) (hs : s.WellFormed) {op : Operation}
    (hop : ∀ reg, op = .upsert reg → reg.key ≠ k) : (s.perform now op).Bars now k t := by
  by_cases hc : s.closed
  · rw [perform_of_closed hc]
    exact h
  have hopen : s.closed = false := Bool.eq_false_iff.2 hc
  cases op with
  | upsert reg =>
      show (s.upsert now reg).1.Bars now k t
      rw [upsert_eq hopen]
      exact (h.place reg.key).enter fun hk => absurd hk (hop reg rfl)
  | merge r =>
      show (s.merge now r).1.Bars now k t
      rcases merge_cases hopen now r with ⟨-, he⟩ | ⟨ho, he⟩ <;> rw [he]
      · exact h
      · refine (h.place r.key).enter fun hk => ?_
        have hk' : r.key = k := hk
        exact h.lt_of_outlives hs.separate (hk' ▸ ho)
  | remove k' =>
      show (s.remove now k').1.Bars now k t
      rw [remove_eq hopen]
      cases hget : s.records.get? k' with
      | none => exact h
      | some c => exact h.evict hs.separate hget (Nat.le_refl _)
  | removeIfNotFresher r =>
      show (s.removeIfNotFresher now r).1.Bars now k t
      rw [removeIfNotFresher_eq hopen]
      cases hget : s.records.get? r.key with
      | none => exact h.bury hget _
      | some c =>
          by_cases hle : c.expiresAt ≤ r.expiresAt
          · simp only [if_pos hle]
            exact h.evict hs.separate hget hle
          · simp only [if_neg hle]
            exact h
  | reclaim =>
      show (s.reclaim now).1.Bars now k t
      obtain ⟨n, hn⟩ := reclaim_eq hopen now
      rw [hn]
      exact h.swept hs.distinct_tombstones
  | close => exact h.congr ⟨rfl, rfl⟩

/-- A bar outlasts every run without a registration of its key. -/
theorem performAll (h : s.Bars now k t) (hs : s.WellFormed)
    {asked : List (Instant × Operation)} (hclock : ClockRuns now asked u)
    (hlocal : ∀ a ∈ asked, ∀ reg, a.2 = .upsert reg → reg.key ≠ k) :
    (s.performAll asked).Bars u k t := by
  induction asked generalizing s now with
  | nil => exact h.mono hclock
  | cons a rest ih =>
      obtain ⟨now', op⟩ := a
      rw [performAll_cons]
      refine ih ((h.mono hclock.1).perform hs (hlocal _ List.mem_cons_self))
        (hs.perform now' op) hclock.2 ?_
      exact fun a ha => hlocal a (List.mem_cons_of_mem _ ha)

/-- A barred key shows nothing that expires by then. -/
theorem lt_of_live (h : s.Bars now k t) (hs : s.Separate) {r : Record}
    (hr : s.live? now k = some r) : t < r.expiresAt := by
  obtain ⟨hget, hlt⟩ := live?_eq_some_iff.1 hr
  cases h with
  | passed h => exact Nat.lt_of_le_of_lt h hlt
  | buried t' hburied h =>
      rw [hs.tombstone_eq_none hget] at hburied
      cases hburied
  | outlived r' hget' h =>
      rw [hget] at hget'
      cases hget'
      exact h

/-- A record that expires by then is not taken over under a barred key, and changes
nothing. -/
theorem merge_eq (h : s.Bars now k t) (hs : s.Separate) {r : Record} (hk : r.key = k)
    (hr : r.expiresAt ≤ t) : (s.merge now r).1 = s ∧ (s.merge now r).2 ≠ .ok true := by
  by_cases hc : s.closed
  · simp [Store.merge, hc]
  rcases merge_cases (Bool.eq_false_iff.2 hc) now r with ⟨-, he⟩ | ⟨ho, -⟩
  · simp [he]
  · have hlt : t < s.cap now r.expiresAt := h.lt_of_outlives hs (hk ▸ ho)
    have hcap : s.cap now r.expiresAt ≤ r.expiresAt := Nat.min_le_left _ _
    exact absurd (Nat.lt_of_lt_of_le hlt (Nat.le_trans hcap hr)) (Nat.lt_irrefl t)

end Bars

/-! ### Removals -/

/-- A key has been removed with an expiry: here, with that of its record, or by another node,
whose removal found no record that expires later. -/
inductive Removes (s : Store) (now : Instant) (k : Record.Key) (t : Instant) : Store → Prop
  | here {r : Record} (h : (s.remove now k).2 = .ok (some r)) (ht : r.expiresAt = t) :
    Removes s now k t (s.remove now k).1
  | elsewhere {r : Record} {changed : Bool}
    (h : (s.removeIfNotFresher now r).2 = .ok changed) (hk : r.key = k)
    (ht : r.expiresAt = t) (hle : ∀ c, s.records.get? k = some c → c.expiresAt ≤ t) :
    Removes s now k t (s.removeIfNotFresher now r).1

variable {s s₁ : Store} {now u : Instant} {k : Record.Key} {t : Instant}

theorem Removes.wellFormed (h : s.Removes now k t s₁) (hs : s.WellFormed) :
    s₁.WellFormed := by
  cases h with
  | here _ _ => exact hs.perform now (.remove k)
  | @elsewhere r _ _ _ _ _ => exact hs.perform now (.removeIfNotFresher r)

/-- A removal bars its key. -/
theorem Removes.bars (h : s.Removes now k t s₁) : s₁.Bars now k t := by
  cases h with
  | @here r h ht =>
      have hopen : s.closed = false := by
        refine Bool.eq_false_iff.2 fun hc => ?_
        simp [remove, hc] at h
      rw [remove_eq hopen] at h ⊢
      cases hget : s.records.get? k with
      | none =>
          rw [hget] at h
          cases h
      | some c =>
          rw [hget] at h
          cases h
          exact .of_evict s now k (Nat.le_of_eq ht.symm)
  | @elsewhere r changed h hk ht hle =>
      have hopen : s.closed = false := by
        refine Bool.eq_false_iff.2 fun hc => ?_
        simp [removeIfNotFresher, hc] at h
      subst hk ht
      rw [removeIfNotFresher_eq hopen]
      cases hget : s.records.get? r.key with
      | none => exact .of_bury s now r.key (Nat.le_refl _)
      | some c =>
          simp only [if_pos (hle c hget)]
          exact .of_evict s now r.key (Nat.le_refl _)

/-- **What was removed stays removed.** Once a key has been removed with an expiry, then
after any run in which the clock does not go back and the key is not registered here, a
record of that key with an expiry not beyond that of the removal is never taken over: it
changes nothing. Whatever is shown of the key expires later than the removal. -/
theorem removed_stays_removed (hs : s.Reachable) (hrem : s.Removes now k t s₁)
    {asked : List (Instant × Operation)} (hclock : ClockRuns now asked u)
    (hlocal : ∀ a ∈ asked, ∀ reg, a.2 = .upsert reg → reg.key ≠ k) :
    (∀ r, r.key = k → r.expiresAt ≤ t →
      ((s₁.performAll asked).merge u r).1 = s₁.performAll asked ∧
        ((s₁.performAll asked).merge u r).2 ≠ .ok true) ∧
    (∀ r, (s₁.performAll asked).get u k = .ok (some r) → t < r.expiresAt) ∧
    (∀ ns limit cursor page, (s₁.performAll asked).query u ns limit cursor = .ok page →
      ∀ r ∈ page.records, r.key = k → t < r.expiresAt) := by
  have hs₁ := hrem.wellFormed hs.wellFormed
  have hbars := hrem.bars.performAll hs₁ hclock hlocal
  have hs₂ : (s₁.performAll asked).WellFormed := hs₁.performAll asked
  refine ⟨fun r hk hr => hbars.merge_eq hs₂.separate hk hr, fun r hr => ?_, ?_⟩
  · unfold get at hr
    split at hr
    · cases hr
    · exact hbars.lt_of_live hs₂.separate (Except.ok.inj hr)
  · intro ns limit cursor page hq r hr hk
    exact hbars.lt_of_live hs₂.separate (hk ▸ hs₂.live_of_mem_page hq hr)

/-- The key of one peer under one namespace. -/
def chatKey : Record.Key := ("chat", default)

/-- A store in which that peer was registered at 0 and expires at 100. -/
def chatRegistered : Store :=
  (Store.empty (.ofMillis 1000)).perform 0 (.upsert ⟨"chat", default, [], .ofMillis 100⟩)

/-- A fresher record takes the place of the tombstone and is removed in its turn, and a sweep
clears what is left of both. -/
def chatSuccession : List (Instant × Operation) :=
  [(20, .merge ⟨"chat", default, [], 150, 0⟩), (25, .remove chatKey), (200, .reclaim)]

theorem removed_stays_removed_past_successor :
    chatRegistered.Reachable ∧
    chatRegistered.Removes 10 chatKey 100 (chatRegistered.remove 10 chatKey).1 ∧
    ClockRuns 10 chatSuccession 200 ∧
    (∀ a ∈ chatSuccession, ∀ reg, a.2 = .upsert reg → reg.key ≠ chatKey) ∧
    let s := (chatRegistered.remove 10 chatKey).1.performAll chatSuccession
    (∀ r, r.key = chatKey → r.expiresAt ≤ 100 →
      (s.merge 200 r).1 = s ∧ (s.merge 200 r).2 ≠ .ok true) ∧
    (∀ r, s.get 200 chatKey = .ok (some r) → 100 < r.expiresAt) ∧
    (∀ ns limit cursor page, s.query 200 ns limit cursor = .ok page →
      ∀ r ∈ page.records, r.key = chatKey → 100 < r.expiresAt) := by
  have hs : chatRegistered.Reachable := (Reachable.empty _).perform 0 _
  have hrem : chatRegistered.Removes 10 chatKey 100 (chatRegistered.remove 10 chatKey).1 :=
    .here (r := ⟨"chat", default, [], 100, 1⟩) rfl rfl
  have hclock : ClockRuns 10 chatSuccession 200 := by
    simp [ClockRuns, chatSuccession]
  have hlocal : ∀ a ∈ chatSuccession, ∀ reg, a.2 = .upsert reg → reg.key ≠ chatKey := by
    simp [chatSuccession]
  exact ⟨hs, hrem, hclock, hlocal, removed_stays_removed hs hrem hclock hlocal⟩

end Rendezvous.Store
