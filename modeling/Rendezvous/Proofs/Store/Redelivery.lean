import Rendezvous.Proofs.Store.Horizon
import Rendezvous.Proofs.Store.Sweeping

/-!
# Rendezvous.Proofs.Store.Redelivery

A record that is delivered again. What was believed of its expiry when it was taken over stands
against it from then on, as the record or as the tombstone that took its place, so that it is
taken over again only if more of its expiry is believed by then. Nothing more ever is if all of
it was; but a record that outlasts the longest lifetime is believed a little more at each moment.

* `Operation.Follows`: what may be asked between two deliveries of a record;
* `Store.Stands`: what is known of a key ranks no lower than a record of an expiry, with
  `Store.Stands.perform` for one operation and `Store.Stands.performAll` for a run;
* `Store.merge_again`, `Store.merge_next`: when a record is taken over again;
* `Store.redeliveries_idle_iff`.
-/

namespace Rendezvous

/-- What may be asked between two deliveries of a record: that it be taken over, that its key be
removed, here or by another node, and sweeps. -/
inductive Operation.Follows (r : Record) : Operation → Prop
  | merge : Follows r (.merge r)
  | remove : Follows r (.remove r.key)
  | removeIfNotFresher {q : Record} (h : q.key = r.key) : Follows r (.removeIfNotFresher q)
  | reclaim : Follows r .reclaim

theorem Operation.Follows.ne_close {r : Record} {op : Operation} (h : op.Follows r) :
    op ≠ .close := by
  rintro rfl
  cases h

namespace Store

/-! ### What stands against a delivery -/

/-- What is known of a key ranks no lower than a record with a given expiry, for as long as such
a record would count. -/
def Stands (s : Store) (now : Instant) (k : Record.Key) (e : Instant) : Prop :=
  Standing.ifAhead now e (Rank.record e) ≤ s.standing now k

namespace Stands

variable {s : Store} {now u : Instant} {k : Record.Key} {e : Instant} {r : Record}

theorem mono (h : s.Stands now k e) (hs : s.Separate) (hu : now ≤ u) : s.Stands u k e := by
  have hafter := Standing.after_mono u h
  have hrank : (ofLex (Rank.record e)).1 = e := rfl
  rw [Standing.after_ifAhead hu hrank, ← standing_of_le hs hu] at hafter
  exact hafter

/-- What was taken over stands. -/
theorem of_merge (hopen : s.closed = false) (hs : s.Separate) (now : Instant) (r : Record) :
    (s.merge now r).1.Stands now r.key (s.cap now r.expiresAt) := by
  rw [Stands, standing_merge hopen hs, if_pos rfl]
  exact le_sup_right

/-- A removal ranks above the record that it takes away, and whatever else may be asked does not
lower what is known. -/
theorem perform (h : s.Stands now r.key e) (hopen : s.closed = false) (hs : s.WellFormed)
    {op : Operation} (hop : op.Follows r) : (s.perform now op).Stands now r.key e := by
  cases hop with
  | merge =>
      rw [Stands, Store.perform, standing_merge hopen hs.separate]
      exact le_sup_of_le_left h
  | remove =>
      rw [Stands, Store.perform, standing_remove hopen hs.separate, if_pos rfl]
      cases hlive : s.live? now r.key with
      | none => exact h
      | some c =>
          rw [Stands, standing_of_live hlive] at h
          exact h.trans (WithBot.coe_le_coe.2 (Rank.record_le_removal.2 (Nat.le_refl _)))
  | removeIfNotFresher hk =>
      rw [Stands, Store.perform, standing_removeIfNotFresher hopen hs.separate]
      exact le_sup_of_le_left h
  | reclaim =>
      rw [Stands, Store.perform, reclaim_fst, if_neg (by simp [hopen]), standing_swept hs]
      exact h

theorem performAll (h : s.Stands now r.key e) (hopen : s.closed = false) (hs : s.WellFormed)
    {asked : List (Instant × Operation)} (hclock : ClockRuns now asked u)
    (hasked : ∀ a ∈ asked, a.2.Follows r) : (s.performAll asked).Stands u r.key e := by
  induction asked generalizing s now with
  | nil => exact h.mono hs.separate hclock
  | cons a rest ih =>
      have hop := hasked a List.mem_cons_self
      have hstep := (h.mono hs.separate hclock.1).perform hopen hs hop
      exact ih hstep (((s.perform_fixed a.1 a.2).2 hop.ne_close).trans hopen)
        (hs.perform a.1 a.2) hclock.2 fun b hb => hasked b (List.mem_cons_of_mem _ hb)

end Stands

/-! ### Deliveries -/

section Deliveries

variable {s : Store} {now u : Instant} {r : Record} {asked : List (Instant × Operation)}

/-- What outlives a standing outlives the record that stands behind it. -/
theorem Stands.lt_of_outlives {k : Record.Key} {e e' : Instant} (h : s.Stands u k e)
    (hs : s.Separate) (hout : s.Outlives u k e') : e < e' := by
  have hlt := (outlives_iff hs).1 hout
  rw [Standing.ifAhead_of_lt hout.ahead] at hlt
  by_cases he : u < e
  · rw [Stands, Standing.ifAhead_of_lt he] at h
    exact Rank.record_lt_record.1 (WithBot.coe_lt_coe.1 (h.trans_lt hlt))
  · exact Nat.lt_of_le_of_lt (Nat.not_lt.1 he) hout.ahead

theorem cap_congr {s' : Store} (h : s'.maxTtl = s.maxTtl) (now e : Instant) :
    s'.cap now e = s.cap now e := by
  rw [cap, cap, h]

/-- A store that took a record over is open. -/
theorem open_of_merge (h : (s.merge now r).2 = .ok true) : s.closed = false := by
  refine Bool.eq_false_iff.2 fun hc => ?_
  rw [merge, if_pos hc] at h
  cases h

/-- After a record was taken over and whatever may follow, it is taken over again only if more of
its expiry is believed than was; else nothing changes. -/
theorem merge_again (hs : s.WellFormed) (hmerge : (s.merge now r).2 = .ok true)
    (hclock : ClockRuns now asked u) (hasked : ∀ a ∈ asked, a.2.Follows r) :
    let s' := (s.merge now r).1.performAll asked
    s'.merge u r = (s', .ok false) ∨
      (s'.merge u r).2 = .ok true ∧ s.cap now r.expiresAt < s.cap u r.expiresAt := by
  intro s'
  have hopen := open_of_merge hmerge
  obtain ⟨hmax, hclosed⟩ := s.perform_fixed now (.merge r)
  obtain ⟨hmaxs, hcloseds⟩ := (s.perform now (.merge r)).performAll_fixed asked
  have hopen₁ := (hclosed nofun).trans hopen
  have hwf₁ := hs.perform now (.merge r)
  have hstands : s'.Stands u r.key (s.cap now r.expiresAt) :=
    (Stands.of_merge hopen hs.separate now r).performAll hopen₁ hwf₁ hclock hasked
  have hopen' : s'.closed = false := (hcloseds fun a ha => (hasked a ha).ne_close).trans hopen₁
  have hcap : s'.cap u r.expiresAt = s.cap u r.expiresAt := cap_congr (hmaxs.trans hmax) u _
  rcases merge_cases hopen' u r with ⟨-, he⟩ | ⟨hout, he⟩
  · exact .inl he
  · refine .inr ⟨by rw [he], ?_⟩
    rw [← hcap]
    exact hstands.lt_of_outlives (hwf₁.performAll asked).separate hout

/-- More is believed of an expiry at the next moment, unless it is believed as far as the clock
reaches. -/
theorem cap_lt_cap_succ {e : Instant} (h : s.cap now e ≠ Nat.min e Instant.last) :
    s.cap now e < s.cap (now + 1) e := by
  have hmin (e t last : Nat) (h : min e (min last t) ≠ min e last) :
      min e (min last t) < min e (min last (t + 1)) := by
    omega
  rw [cap, cap, Instant.add, Instant.add, Nat.add_right_comm]
  exact hmin e (now + clockMillis s.maxTtl) Instant.last h

/-- A record that is not believed in full is taken over again at the next moment. -/
theorem merge_next (hs : s.WellFormed) (hmerge : (s.merge now r).2 = .ok true)
    (hcut : s.cap now r.expiresAt ≠ Nat.min r.expiresAt Instant.last) :
    ((s.merge now r).1.merge (now + 1) r).2 = .ok true := by
  have hopen := open_of_merge hmerge
  have hlt := cap_lt_cap_succ hcut
  obtain ⟨hfixed, hclosed⟩ := s.perform_fixed now (.merge r)
  have hmax : (s.merge now r).1.maxTtl = s.maxTtl := hfixed
  have hopen₁ : (s.merge now r).1.closed = false := (hclosed nofun).trans hopen
  have hwf₁ : (s.merge now r).1.WellFormed := hs.perform now (.merge r)
  -- What was taken over is all that is known of the key, and it is lower.
  have hout : s.Outlives now r.key (s.cap now r.expiresAt) := by
    rcases merge_cases hopen now r with ⟨-, he⟩ | ⟨hout, -⟩
    · rw [he] at hmerge
      cases hmerge
    · exact hout
  have hstanding : (s.merge now r).1.standing (now + 1) r.key =
      Standing.ifAhead (now + 1) (s.cap now r.expiresAt) (Rank.record (s.cap now r.expiresAt)) := by
    rw [standing_of_le hwf₁.separate (Nat.le_succ now), standing_merge hopen hs.separate,
      if_pos rfl, sup_eq_right.2 ((outlives_iff hs.separate).1 hout).le]
    exact Standing.after_ifAhead (Nat.le_succ now) rfl
  have hagain : (s.merge now r).1.Outlives (now + 1) r.key
      ((s.merge now r).1.cap (now + 1) r.expiresAt) := by
    have hahead : now + 1 < s.cap (now + 1) r.expiresAt :=
      Nat.lt_of_le_of_lt (Nat.succ_le_of_lt hout.ahead) hlt
    rw [cap_congr hmax, outlives_iff hwf₁.separate, hstanding, Standing.ifAhead_of_lt hahead]
    by_cases he : now + 1 < s.cap now r.expiresAt
    · rw [Standing.ifAhead_of_lt he]
      exact WithBot.coe_lt_coe.2 (Rank.record_lt_record.2 hlt)
    · rw [Standing.ifAhead_of_le (Nat.not_lt.1 he)]
      exact WithBot.bot_lt_coe _
  rcases merge_cases hopen₁ (now + 1) r with ⟨hno, -⟩ | ⟨-, he⟩
  · exact absurd hagain hno
  · rw [he]

end Deliveries

/-- **A delivery is idle for good once all of an expiry is believed, and only then.** Let a record
be taken over. Whatever follows of deliveries of it, removals of its key and sweeps, while the
clock does not go back, each further delivery of it is answered with no and changes nothing, if
and only if what was believed of its expiry is all of it that the clock can show. -/
theorem redeliveries_idle_iff {s : Store} (hs : s.Reachable) {now : Instant} {r : Record}
    (hmerge : (s.merge now r).2 = .ok true) :
    (∀ asked u, (∀ a ∈ asked, a.2.Follows r) → ClockRuns now asked u →
        let s' := (s.merge now r).1.performAll asked
        s'.merge u r = (s', .ok false)) ↔
      s.cap now r.expiresAt = Nat.min r.expiresAt Instant.last := by
  constructor
  · intro hidle
    by_contra hcut
    have hnext := hidle [] (now + 1) nofun (Nat.le_succ now)
    have hagain := merge_next hs.wellFormed hmerge hcut
    rw [show (s.merge now r).1.merge (now + 1) r = _ from hnext] at hagain
    cases hagain
  · intro hall asked u hasked hclock
    rcases merge_again hs.wellFormed hmerge hclock hasked with hidle | ⟨-, hlt⟩
    · exact hidle
    · have hle : s.cap u r.expiresAt ≤ Nat.min r.expiresAt Instant.last :=
        Nat.le_min.2 ⟨Nat.min_le_left _ _, (Nat.min_le_right _ _).trans (Instant.add_le_last _ _)⟩
      exact absurd hlt (Nat.not_lt.2 (hall ▸ hle))

/-- A record of a peer that expires at the given time. -/
def heardOf (e : Instant) : Record := ⟨"chat", default, [], e, 0⟩

theorem redeliveries_idle_iff_minute :
    let heard := heardOf 60000
    let s := (Store.empty (.ofSecs 3600)).merge 0 heard
    s.2 = .ok true ∧ ∀ asked u, (∀ a ∈ asked, a.2.Follows heard) → ClockRuns 0 asked u →
      (s.1.performAll asked).merge u heard = (s.1.performAll asked, .ok false) := by
  have hmerge : ((Store.empty (.ofSecs 3600)).merge 0 (heardOf 60000)).2 = .ok true := by
    decide +kernel
  exact ⟨hmerge, (redeliveries_idle_iff (Reachable.empty _) hmerge).2 (by decide +kernel)⟩

/-- Two hours are more than a store that grants one believes: a peer that has left since it was
heard of is back when the same record is delivered again. -/
theorem far_record_revived :
    let heard := heardOf 7200000
    let s := (Store.empty (.ofSecs 3600)).merge 0 heard
    let left := s.1.performAll [(10, .remove heard.key)]
    s.2 = .ok true ∧ (Operation.remove heard.key).Follows heard ∧
      ClockRuns 0 [(10, Operation.remove heard.key)] 20 ∧ left.get 20 heard.key = .ok none ∧
      (left.merge 20 heard).2 = .ok true ∧
      (left.merge 20 heard).1.get 20 heard.key =
        .ok (some { heard with expiresAt := 3600020, seq := 2 }) := by
  refine ⟨by decide +kernel, .remove, by simp [ClockRuns], ?_, ?_, ?_⟩
  all_goals decide +kernel

end Store

end Rendezvous
