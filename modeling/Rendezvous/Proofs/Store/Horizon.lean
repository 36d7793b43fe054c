import Rendezvous.Proofs.Store.Removal

/-!
# Rendezvous.Proofs.Store.Horizon

How far into the future a store remembers. Whatever enters it by a registration or as a record
heard of is cut to the longest lifetime, and a removal made here buries a key with the expiry
of its record. A removal heard of brings an expiry of its own, which nothing cuts: what is
known of a key stays within the longest lifetime exactly if every such removal does.

* `Operation.Brings`: the expiry that a removal heard of brings;
* `Store.Reaches`: how far what is known of a key reaches, one lemma for each move;
* `Store.Reaches.perform`, `Store.Reaches.performAll`: one operation, and a run;
* `Operation.Quiet`: operations that raise no tombstone of a key;
* `Store.within_maxTtl_iff`: the bound, and what is left of a tombstone behind it.
-/

namespace Rendezvous

/-- A removal heard of brings its expiry to a key. -/
def Operation.Brings (op : Operation) (k : Record.Key) (e : Instant) : Prop :=
  ∃ r, op = .removeIfNotFresher r ∧ r.key = k ∧ r.expiresAt = e

namespace Store

/-! ### How far a key reaches -/

/-- No record of a key expires after `h`, and a tombstone of it that does has an expiry that
was heard of. -/
structure Reaches (s : Store) (k : Record.Key) (h : Nat) (heard : Instant → Prop) : Prop where
  record : ∀ r, s.records.get? k = some r → r.expiresAt ≤ h
  tombstone : ∀ e, s.tombstones.get? k = some e → e ≤ h ∨ heard e

variable {s : Store} {now : Instant} {k : Record.Key} {h : Nat} {heard : Instant → Prop}

/-- What is granted or believed is at most the longest lifetime. -/
theorem add_clockMillis_le {d m : Duration} (hd : d.nanos ≤ m.nanos) (now : Instant) :
    now.add (clockMillis d) ≤ now + m.millis :=
  calc now.add (clockMillis d) ≤ now + clockMillis d := Nat.min_le_right _ _
    _ ≤ now + d.millis := Nat.add_le_add_left (Nat.mod_le _ _) now
    _ ≤ now + m.millis := Nat.add_le_add_left (Nat.div_le_div_right hd) now

theorem grant_le (s : Store) (now : Instant) (ttl : Duration) :
    s.grant now ttl ≤ now + s.maxTtl.millis :=
  add_clockMillis_le (by rw [Duration.nanos_min]; exact Nat.min_le_right _ _) now

theorem cap_le (s : Store) (now e : Instant) : s.cap now e ≤ now + s.maxTtl.millis :=
  Nat.le_trans (Nat.min_le_right _ _) (add_clockMillis_le (Nat.le_refl _) now)

namespace Reaches

theorem mono (hs : s.Reaches k h heard) {h' : Nat} (hle : h ≤ h') : s.Reaches k h' heard where
  record r hr := Nat.le_trans (hs.record r hr) hle
  tombstone e he := (hs.tombstone e he).imp_left fun hl => Nat.le_trans hl hle

theorem congr {s' : Store} (hs : s.Reaches k h heard) (hsame : s.SameAt s' k) :
    s'.Reaches k h heard where
  record r hr := hs.record r (hsame.record.symm.trans hr)
  tombstone e he := hs.tombstone e (hsame.tombstone.symm.trans he)

theorem place (hs : s.Reaches k h heard) (now : Instant) (k' : Record.Key) :
    (s.place now k').2.Reaches k h heard :=
  hs.congr (s.sameAt_place now)

theorem enter (hs : s.Reaches k h heard) {r : Record} (hr : r.expiresAt ≤ h) :
    (s.enter r).Reaches k h heard where
  record := by
    intro r' hr'
    rw [get?_records_enter] at hr'
    split at hr'
    · cases hr'
      exact hr
    · exact hs.record r' hr'
  tombstone := by
    intro e he
    rw [get?_tombstones_enter] at he
    split at he
    · cases he
    · exact hs.tombstone e he

/-- Burying a key raises its tombstone to the expiry with which it is buried, if at all. -/
theorem tombstone_bury (hs : s.Reaches k h heard) (now : Instant) {k' : Record.Key} {e : Instant}
    (he : k' = k → e ≤ h ∨ heard e) :
    ∀ e', (s.bury now k' e).tombstones.get? k = some e' → e' ≤ h ∨ heard e' := by
  intro e' he'
  rw [get?_tombstones_bury] at he'
  by_cases hk : k = k' ∧ now < e
  · rw [if_pos hk] at he'
    cases he'
    rw [← hk.1]
    cases ht : s.tombstones.get? k with
    | none =>
        rw [Option.getD_none, Nat.max_self]
        exact he hk.1.symm
    | some e₀ =>
        -- The tombstone was there before, or is raised now.
        rw [Option.getD_some]
        rcases Nat.le_total e e₀ with hle | hle
        · rw [Nat.max_eq_right hle]
          exact hs.tombstone e₀ ht
        · rw [Nat.max_eq_left hle]
          exact he hk.1.symm
  · rw [if_neg hk] at he'
    exact hs.tombstone e' he'

theorem bury (hs : s.Reaches k h heard) (now : Instant) {k' : Record.Key} {e : Instant}
    (he : k' = k → e ≤ h ∨ heard e) : (s.bury now k' e).Reaches k h heard where
  record := by
    rw [bury_records]
    exact hs.record
  tombstone := hs.tombstone_bury now he

theorem evict (hs : s.Reaches k h heard) (now : Instant) {k' : Record.Key} {e : Instant}
    (he : k' = k → e ≤ h ∨ heard e) : (s.evict now k' e).Reaches k h heard where
  record := by
    intro r hr
    rw [evict_records, Table.get?_erase] at hr
    split at hr
    · cases hr
    · exact hs.record r hr
  tombstone := by
    rw [evict_tombstones]
    exact hs.tombstone_bury now he

theorem swept (hs : s.Reaches k h heard) (hd : s.tombstones.Distinct) (now : Instant) :
    (s.swept now).Reaches k h heard where
  record := by
    intro r hr
    rw [get?_records_swept] at hr
    exact hs.record r (live?_eq_some_iff.1 hr).1
  tombstone := by
    intro e he
    rw [swept_tombstones, Table.get?_retain hd] at he
    exact hs.tombstone e (Option.filter_eq_some_iff.1 he).1

end Reaches

/-! ### Runs -/

/-- What is granted and believed stays as it is, and a store is closed by closing it only. -/
theorem perform_fixed (s : Store) (now : Instant) (op : Operation) :
    (s.perform now op).maxTtl = s.maxTtl ∧
      (op ≠ .close → (s.perform now op).closed = s.closed) := by
  by_cases hc : s.closed
  · rw [perform_of_closed hc]
    exact ⟨rfl, fun _ => rfl⟩
  have hopen : s.closed = false := Bool.eq_false_iff.2 hc
  cases op with
  | upsert reg => simp [perform, upsert_eq hopen]
  | merge r =>
      rcases merge_cases hopen now r with ⟨-, he⟩ | ⟨-, he⟩ <;> simp [perform, he]
  | remove k =>
      simp only [perform, remove_eq hopen]
      split <;> simp
  | removeIfNotFresher r =>
      simp only [perform, removeIfNotFresher_eq hopen]
      split
      · simp
      · split <;> simp
  | reclaim => simp [perform, reclaim_fst, hopen]
  | close => exact ⟨rfl, fun hne => absurd rfl hne⟩

theorem performAll_fixed (s : Store) (asked : List (Instant × Operation)) :
    (s.performAll asked).maxTtl = s.maxTtl ∧
      ((∀ a ∈ asked, a.2 ≠ .close) → (s.performAll asked).closed = s.closed) := by
  induction asked generalizing s with
  | nil => exact ⟨rfl, fun _ => rfl⟩
  | cons a rest ih =>
      obtain ⟨hmax, hclosed⟩ := s.perform_fixed a.1 a.2
      obtain ⟨hmaxs, hcloseds⟩ := ih (s.perform a.1 a.2)
      refine ⟨hmaxs.trans hmax, fun hne => ?_⟩
      have hrest := hcloseds fun b hb => hne b (List.mem_cons_of_mem _ hb)
      exact hrest.trans (hclosed (hne a List.mem_cons_self))

namespace Reaches

/-- Whatever is done at a time reaches no further than the longest lifetime from then on, but
for the expiry of a removal heard of. -/
theorem perform (hs : s.Reaches k h heard) (hh : now + s.maxTtl.millis ≤ h)
    (hwf : s.WellFormed) {op : Operation} (hop : ∀ e, op.Brings k e → heard e) :
    (s.perform now op).Reaches k h heard := by
  by_cases hc : s.closed
  · rw [perform_of_closed hc]
    exact hs
  have hopen : s.closed = false := Bool.eq_false_iff.2 hc
  cases op with
  | upsert reg =>
      show (s.upsert now reg).1.Reaches k h heard
      rw [upsert_eq hopen]
      exact (hs.place now reg.key).enter (Nat.le_trans (s.grant_le now reg.ttl) hh)
  | merge r =>
      show (s.merge now r).1.Reaches k h heard
      rcases merge_cases hopen now r with ⟨-, he⟩ | ⟨-, he⟩ <;> rw [he]
      · exact hs
      · exact (hs.place now r.key).enter (Nat.le_trans (s.cap_le now r.expiresAt) hh)
  | remove k' =>
      show (s.remove now k').1.Reaches k h heard
      rw [remove_eq hopen]
      cases hget : s.records.get? k' with
      | none => exact hs
      | some c => exact hs.evict now fun hk => Or.inl (hs.record c (hk ▸ hget))
  | removeIfNotFresher r =>
      have hbrings : r.key = k → r.expiresAt ≤ h ∨ heard r.expiresAt :=
        fun hk => Or.inr (hop _ ⟨r, rfl, hk, rfl⟩)
      show (s.removeIfNotFresher now r).1.Reaches k h heard
      rw [removeIfNotFresher_eq hopen]
      cases hget : s.records.get? r.key with
      | none => exact hs.bury now hbrings
      | some c =>
          by_cases hle : c.expiresAt ≤ r.expiresAt
          · simp only [if_pos hle]
            exact hs.evict now hbrings
          · simp only [if_neg hle]
            exact hs
  | reclaim =>
      show (s.reclaim now).1.Reaches k h heard
      obtain ⟨n, hn⟩ := reclaim_eq hopen now
      rw [hn]
      exact hs.swept hwf.distinct_tombstones now
  | close => exact hs.congr ⟨rfl, rfl⟩

/-- The bound moves on with the clock. -/
theorem performAll {t u : Instant} (hs : s.Reaches k (t + s.maxTtl.millis) heard)
    (hwf : s.WellFormed) {asked : List (Instant × Operation)} (hclock : ClockRuns t asked u)
    (hasked : ∀ a ∈ asked, ∀ e, a.2.Brings k e → heard e) :
    (s.performAll asked).Reaches k (u + s.maxTtl.millis) heard := by
  induction asked generalizing s t with
  | nil => exact hs.mono (Nat.add_le_add_right hclock _)
  | cons a rest ih =>
      obtain ⟨now, op⟩ := a
      have hnow : s.Reaches k (now + s.maxTtl.millis) heard :=
        hs.mono (Nat.add_le_add_right hclock.1 _)
      have hstep := hnow.perform (Nat.le_refl _) hwf (hasked _ List.mem_cons_self)
      rw [performAll_cons, ← (s.perform_fixed now op).1]
      rw [← (s.perform_fixed now op).1] at hstep
      refine ih hstep (hwf.perform now op) hclock.2 ?_
      exact fun a ha => hasked a (List.mem_cons_of_mem _ ha)

end Reaches

/-! ### Tombstones left alone -/

end Store

/-- An operation that raises no tombstone of a key. -/
def Operation.Quiet (k : Record.Key) : Operation → Prop
  | .remove k' => k' ≠ k
  | .removeIfNotFresher r => r.key ≠ k
  | .upsert _ | .merge _ | .reclaim | .close => True

namespace Store

variable {s : Store} {now : Instant} {k : Record.Key}

/-- A tombstone that nothing raises was there before. -/
theorem tombstone_of_quiet (hwf : s.WellFormed) {op : Operation} (hq : op.Quiet k) {e : Instant}
    (he : (s.perform now op).tombstones.get? k = some e) : s.tombstones.get? k = some e := by
  by_cases hc : s.closed
  · rwa [perform_of_closed hc] at he
  have hopen : s.closed = false := Bool.eq_false_iff.2 hc
  have henter (k' : Record.Key) (r : Record)
      (h : ((s.place now k').2.enter r).tombstones.get? k = some e) :
      s.tombstones.get? k = some e := by
    rw [get?_tombstones_enter, place_tombstones] at h
    split at h
    · cases h
    · exact h
  cases op with
  | upsert reg =>
      simp only [perform, upsert_eq hopen] at he
      exact henter _ _ he
  | merge r =>
      rcases merge_cases hopen now r with ⟨-, hm⟩ | ⟨-, hm⟩ <;> simp only [perform, hm] at he
      · exact he
      · exact henter _ _ he
  | remove k' =>
      simp only [perform, remove_eq hopen] at he
      split at he
      · exact he
      · exact (s.sameAt_evict now (Ne.symm hq) _).tombstone.symm.trans he
  | removeIfNotFresher r =>
      simp only [perform, removeIfNotFresher_eq hopen] at he
      split at he
      · exact (s.sameAt_bury now (Ne.symm hq) _).tombstone.symm.trans he
      · split at he
        · exact (s.sameAt_evict now (Ne.symm hq) _).tombstone.symm.trans he
        · exact he
  | reclaim =>
      simp only [perform, reclaim_fst, hopen, Bool.false_eq_true, if_false, swept_tombstones,
        Table.get?_retain hwf.distinct_tombstones] at he
      exact (Option.filter_eq_some_iff.1 he).1
  | close => exact he

theorem tombstone_of_quiets (hwf : s.WellFormed) {asked : List (Instant × Operation)}
    (hq : ∀ a ∈ asked, a.2.Quiet k) {e : Instant}
    (he : (s.performAll asked).tombstones.get? k = some e) : s.tombstones.get? k = some e := by
  induction asked generalizing s with
  | nil => exact he
  | cons a rest ih =>
      have hfirst : (s.perform a.1 a.2).tombstones.get? k = some e :=
        ih (hwf.perform a.1 a.2) (fun b hb => hq b (List.mem_cons_of_mem _ hb)) he
      exact tombstone_of_quiet hwf (hq a List.mem_cons_self) hfirst

/-- A removal heard of bars its key up to the expiry that it carries, or found a record that
expires later. -/
theorem bars_of_heard (hopen : s.closed = false) (now : Instant) (r : Record) :
    (s.removeIfNotFresher now r).1.Bars now r.key r.expiresAt := by
  rw [removeIfNotFresher_eq hopen]
  cases hget : s.records.get? r.key with
  | none => exact .of_bury s now r.key (Nat.le_refl _)
  | some c =>
      by_cases hle : c.expiresAt ≤ r.expiresAt
      · simp only [if_pos hle]
        exact .of_evict s now r.key (Nat.le_refl _)
      · simp only [if_neg hle]
        exact .outlived c hget (Nat.not_le.1 hle)

/-- Behind the expiry of its tombstone a key that shows nothing has none after a sweep, and
takes over any record with time left. -/
theorem spent_of_le (hopen : s.closed = false) (hwf : s.WellFormed)
    (hle : ∀ e, s.tombstones.get? k = some e → e ≤ now) :
    (s.reclaim now).1.tombstones.get? k = none ∧
      ∀ r, r.key = k → s.live? now k = none → now < s.cap now r.expiresAt →
        (s.merge now r).2 = .ok true := by
  refine ⟨?_, ?_⟩
  · rw [reclaim_fst, hopen, if_neg Bool.false_ne_true, swept_tombstones,
      Table.get?_retain hwf.distinct_tombstones, Option.filter_eq_none_iff]
    intro e he
    simpa using hle e he
  · rintro r rfl hlive hahead
    have houtlives : s.Outlives now r.key (s.cap now r.expiresAt) := by
      refine ⟨hahead, fun c hc => ?_, fun _ e he => Nat.lt_of_le_of_lt (hle e he) hahead⟩
      rw [hlive] at hc
      cases hc
    rcases merge_cases hopen now r with ⟨hnot, -⟩ | ⟨-, hm⟩
    · exact absurd houtlives hnot
    · rw [hm]

end Store

/-! ### The bound -/

/-- The clock runs over a history up to any of its moments, and on from there. -/
theorem clockRuns_append_cons {α : Type} {t u now : Instant} {x : α}
    {done rest : List (Instant × α)} :
    ClockRuns t (done ++ (now, x) :: rest) u ↔ ClockRuns t done now ∧ ClockRuns now rest u := by
  induction done generalizing t with
  | nil => exact Iff.rfl
  | cons a done ih => exact (and_congr_right' ih).trans and_assoc.symm

theorem ClockRuns.le {α : Type} {t u : Instant} {asked : List (Instant × α)}
    (h : ClockRuns t asked u) : t ≤ u := by
  induction asked generalizing t with
  | nil => exact h
  | cons a rest ih => exact Nat.le_trans h.1 (ih h.2)

theorem ClockRuns.le_of_mem {α : Type} {t u : Instant} {asked : List (Instant × α)}
    (h : ClockRuns t asked u) {a : Instant × α} (ha : a ∈ asked) : a.1 ≤ u := by
  obtain ⟨done, rest, rfl⟩ := List.append_of_mem ha
  exact (clockRuns_append_cons.1 h).2.le

namespace Store

/-- A store that was opened empty and then worked on. -/
def worked (maxTtl : Duration) (asked : List (Instant × Operation)) : Store :=
  (Store.empty maxTtl).performAll asked

section Worked

variable {maxTtl : Duration} {asked : List (Instant × Operation)} {t u : Instant}
  {k : Record.Key}

theorem wellFormed_worked (maxTtl : Duration) (asked : List (Instant × Operation)) :
    (worked maxTtl asked).WellFormed :=
  (WellFormed.empty maxTtl).performAll asked

theorem closed_worked (maxTtl : Duration) (hopen : ∀ a ∈ asked, a.2 ≠ .close) :
    (worked maxTtl asked).closed = false :=
  ((Store.empty maxTtl).performAll_fixed asked).2 hopen

theorem reaches_worked (maxTtl : Duration) (hclock : ClockRuns t asked u)
    {heard : Instant → Prop} (hasked : ∀ a ∈ asked, ∀ e, a.2.Brings k e → heard e) :
    (worked maxTtl asked).Reaches k (u + maxTtl.millis) heard :=
  have hempty : (Store.empty maxTtl).Reaches k (t + maxTtl.millis) heard :=
    ⟨fun _ hr => (by cases hr), fun _ he => (by cases he)⟩
  hempty.performAll (.empty maxTtl) hclock hasked

/-- **The longest lifetime bounds what is remembered, but for removals heard of.** Take any
run of an open store in which the clock does not go back, and any key. Its record never
expires later than the longest lifetime from now; a tombstone that does carries the expiry of
a removal heard of. So its tombstone stays within the bound at every moment exactly if every
removal heard of it carries an expiry within the bound. And once the clock has come to the
expiry of a tombstone that was not raised any more, a sweep takes it away and it keeps no
record out. -/
theorem within_maxTtl_iff (maxTtl : Duration) (k : Record.Key) (hclock : ClockRuns t asked u)
    (hopen : ∀ a ∈ asked, a.2 ≠ .close) :
    (∀ r, (worked maxTtl asked).records.get? k = some r → r.expiresAt ≤ u + maxTtl.millis) ∧
    (∀ e, (worked maxTtl asked).tombstones.get? k = some e →
      e ≤ u + maxTtl.millis ∨ ∃ a ∈ asked, a.2.Brings k e) ∧
    ((∀ done now op, done ++ [(now, op)] <+: asked → ∀ e,
        (worked maxTtl (done ++ [(now, op)])).tombstones.get? k = some e →
          e ≤ now + maxTtl.millis) ↔
      ∀ a ∈ asked, ∀ e, a.2.Brings k e → e ≤ a.1 + maxTtl.millis) ∧
    (∀ done rest, asked = done ++ rest → (∀ a ∈ rest, a.2.Quiet k) →
      (∀ e, (worked maxTtl done).tombstones.get? k = some e → e ≤ u) →
      ((worked maxTtl asked).reclaim u).1.tombstones.get? k = none ∧
        ∀ r, r.key = k → (worked maxTtl asked).live? u k = none →
          u < (worked maxTtl asked).cap u r.expiresAt →
            ((worked maxTtl asked).merge u r).2 = .ok true) := by
  have hreaches : (worked maxTtl asked).Reaches k (u + maxTtl.millis)
      (fun e => ∃ a ∈ asked, a.2.Brings k e) :=
    reaches_worked maxTtl hclock fun a ha e he => ⟨a, ha, he⟩
  refine ⟨hreaches.record, hreaches.tombstone, ⟨?_, ?_⟩, ?_⟩
  · rintro hbound ⟨now, op⟩ ha e ⟨r, rfl, rfl, rfl⟩
    obtain ⟨done, rest, rfl⟩ := List.append_of_mem ha
    have hprefix : done ++ [(now, .removeIfNotFresher r)] <+:
        done ++ (now, .removeIfNotFresher r) :: rest := ⟨rest, List.append_cons .. |>.symm⟩
    have hdone : ClockRuns t (done ++ [(now, .removeIfNotFresher r)]) now :=
      clockRuns_append_cons.2 ⟨(clockRuns_append_cons.1 hclock).1, Nat.le_refl now⟩
    have hclosed : (worked maxTtl done).closed = false :=
      closed_worked maxTtl fun a ha => hopen a (List.mem_append_left _ ha)
    have hstep : worked maxTtl (done ++ [(now, .removeIfNotFresher r)]) =
        ((worked maxTtl done).removeIfNotFresher now r).1 := by
      rw [worked, performAll, List.foldl_append]
      rfl
    -- The removal leaves a tombstone as late as its expiry, or a later record that is bounded.
    rcases bars_of_heard hclosed now r with hpassed | ⟨e, he, hle⟩ | ⟨c, hc, hlt⟩
    · exact Nat.le_trans hpassed (Nat.le_add_right ..)
    · exact Nat.le_trans hle (hbound done now _ hprefix e (hstep ▸ he))
    · have hrecord : (worked maxTtl (done ++ [(now, .removeIfNotFresher r)])).Reaches r.key
          (now + maxTtl.millis) fun _ => True :=
        reaches_worked maxTtl hdone fun _ _ _ _ => trivial
      exact Nat.le_trans (Nat.le_of_lt hlt) (hrecord.record c (hstep ▸ hc))
  · rintro hheard done now op ⟨rest, rfl⟩ e he
    rw [List.append_assoc, List.singleton_append] at hclock
    have hdone : ClockRuns t (done ++ [(now, op)]) now :=
      clockRuns_append_cons.2 ⟨(clockRuns_append_cons.1 hclock).1, Nat.le_refl now⟩
    have hwithin : (worked maxTtl (done ++ [(now, op)])).Reaches k (now + maxTtl.millis)
        (· ≤ now + maxTtl.millis) :=
      reaches_worked maxTtl hdone fun a ha e he =>
        Nat.le_trans (hheard a (List.mem_append_left _ ha) e he)
          (Nat.add_le_add_right (hdone.le_of_mem ha) _)
    exact (hwithin.tombstone e he).elim id id
  · rintro done rest rfl hquiet hpassed
    refine spent_of_le (closed_worked maxTtl hopen) (wellFormed_worked ..) fun e he => ?_
    rw [worked, performAll, List.foldl_append] at he
    exact hpassed e (tombstone_of_quiets (wellFormed_worked maxTtl done) hquiet he)

/-- A peer registers for a tenth of a second and is removed; another node has removed it as
well, with an expiry a little later. -/
def chatRemovals : List (Instant × Operation) :=
  [(0, .upsert ⟨"chat", default, [], .ofMillis 100⟩), (10, .remove chatKey),
    (20, .removeIfNotFresher ⟨"chat", default, [], 120, 0⟩), (30, .reclaim)]

theorem within_maxTtl_iff_chat :
    ClockRuns 0 chatRemovals 120 ∧ (∀ a ∈ chatRemovals, a.2 ≠ .close) ∧
    (∀ done now op, done ++ [(now, op)] <+: chatRemovals → ∀ e,
      (worked (.ofMillis 1000) (done ++ [(now, op)])).tombstones.get? chatKey = some e →
        e ≤ now + 1000) ∧
    (worked (.ofMillis 1000) chatRemovals).tombstones.get? chatKey = some 120 ∧
    ((worked (.ofMillis 1000) chatRemovals).reclaim 120).1.tombstones.get? chatKey = none := by
  have hclock : ClockRuns 0 chatRemovals 120 := by
    simp [ClockRuns, chatRemovals]
  have hopen : ∀ a ∈ chatRemovals, a.2 ≠ .close := by
    simp [chatRemovals]
  obtain ⟨-, -, hiff, hspent⟩ :=
    within_maxTtl_iff (.ofMillis 1000) chatKey hclock hopen
  have hraised : (worked (.ofMillis 1000) chatRemovals).tombstones.get? chatKey = some 120 := rfl
  refine ⟨hclock, hopen, hiff.2 ?_, hraised, (hspent chatRemovals [] rfl (by simp) ?_).1⟩
  · rintro a ha e ⟨r, hop, -, rfl⟩
    simp only [chatRemovals, List.mem_cons, List.not_mem_nil, or_false] at ha
    rcases ha with rfl | rfl | rfl | rfl <;> cases hop
    decide
  · intro e he
    cases hraised.symm.trans he
    exact Nat.le_refl 120

/-- A removal that was heard of with the last expiry the clock can show stays in a store that
believes no record for longer than an hour: an hour later a sweep leaves it there, and a record
with a minute to live is kept out. -/
theorem far_removal_outlasts_maxTtl :
    let s := worked (.ofSecs 3600)
      [(0, .removeIfNotFresher ⟨"chat", default, [], Instant.last, 1⟩)]
    s.tombstones.get? chatKey = some Instant.last ∧
    ¬ Instant.last ≤ 0 + (Duration.ofSecs 3600).millis ∧
    (s.reclaim 3600000).1.tombstones.get? chatKey = some Instant.last ∧
    (s.merge 3600000 ⟨"chat", default, [], 3660000, 1⟩).2 = .ok false := by
  exact ⟨rfl, by decide, rfl, rfl⟩

end Worked

end Store

end Rendezvous
