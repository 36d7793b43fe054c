import Mathlib.Data.Prod.Lex
import Mathlib.Order.BoundedOrder.Lattice
import Mathlib.Order.WithBot
import Rendezvous.Proofs.Store.Invariants

/-!
# Rendezvous.Proofs.Store.Standing

What is known of a key at a time, as a point of a linear order. A record and a removal are
ranked by their expiry, and at one expiry the removal ranks higher; what has expired is as
good as nothing. The nine branches in which a change of another node is taken over are one
rule in this order: the standing of the key becomes the greater of its standing so far and
the rank of the change.

* `Rank`, `Standing`, `Store.standing`;
* `Store.standing_eq_record_iff`, `Store.standing_eq_removal_iff`: the standing of a key tells
  its live record's expiry and its tombstone;
* `Store.standing_merge`, `Store.standing_removeIfNotFresher`: both changes are joins.
-/

namespace Rendezvous

/-! ### Ranks -/

/-- The rank of a change: its expiry, and whether it is a removal. -/
abbrev Rank : Type := Nat ×ₗ Bool

namespace Rank

/-- The rank of a record. -/
def record (e : Instant) : Rank := toLex (e, false)

/-- The rank of a removal. -/
def removal (e : Instant) : Rank := toLex (e, true)

variable {a b : Nat}

@[simp] theorem record_le_record : record a ≤ record b ↔ a ≤ b := by
  simp only [record, Prod.Lex.toLex_le_toLex, le_refl, and_true]
  exact Nat.le_iff_lt_or_eq.symm

@[simp] theorem record_le_removal : record a ≤ removal b ↔ a ≤ b := by
  simp only [record, removal, Prod.Lex.toLex_le_toLex, Bool.false_le, and_true]
  exact Nat.le_iff_lt_or_eq.symm

@[simp] theorem removal_le_removal : removal a ≤ removal b ↔ a ≤ b := by
  simp only [removal, Prod.Lex.toLex_le_toLex, le_refl, and_true]
  exact Nat.le_iff_lt_or_eq.symm

@[simp] theorem removal_le_record : removal a ≤ record b ↔ a < b := by
  simp [record, removal, Prod.Lex.toLex_le_toLex]

@[simp] theorem record_lt_record : record a < record b ↔ a < b := by
  rw [← not_le, record_le_record, not_le]

@[simp] theorem removal_lt_record : removal a < record b ↔ a < b := by
  rw [← not_le, record_le_removal, not_le]

@[simp] theorem record_inj : record a = record b ↔ a = b := by
  simp [record]

@[simp] theorem removal_inj : removal a = removal b ↔ a = b := by
  simp [removal]

theorem record_ne_removal (a b : Nat) : record a ≠ removal b := by
  simp [record, removal]

end Rank

/-! ### Standings -/

/-- What is known of a key; that nothing is known is the least. -/
abbrev Standing : Type := WithBot Rank

/-- What a rank with a given expiry counts for at a time. -/
def Standing.ifAhead (now e : Instant) (rank : Rank) : Standing :=
  if now < e then rank else ⊥

theorem Standing.ifAhead_of_lt {now e : Instant} (h : now < e) (rank : Rank) :
    ifAhead now e rank = rank := if_pos h

theorem Standing.ifAhead_of_le {now e : Instant} (h : e ≤ now) (rank : Rank) :
    ifAhead now e rank = ⊥ := if_neg (Nat.not_lt.2 h)

/-- What is left of a standing at a later time. -/
def Standing.after (now : Instant) : Standing → Standing
  | ⊥ => ⊥
  | (rank : Rank) => ifAhead now (ofLex rank).1 rank

section After

variable {now u : Instant}

@[simp] theorem Standing.after_bot : after u ⊥ = ⊥ := rfl

theorem Standing.after_coe (rank : Rank) :
    after u rank = ifAhead u (ofLex rank).1 rank := rfl

@[simp] theorem Standing.after_record (e : Instant) :
    after u (Rank.record e) = ifAhead u e (Rank.record e) := rfl

@[simp] theorem Standing.after_removal (e : Instant) :
    after u (Rank.removal e) = ifAhead u e (Rank.removal e) := rfl

/-- The greater of two standings lasts longer. -/
theorem Standing.after_mono (u : Instant) : Monotone (after u) := by
  intro x y hxy
  induction x using WithBot.recBotCoe with
  | bot => exact bot_le
  | coe a =>
      obtain ⟨b, rfl, hab⟩ := WithBot.coe_le_iff.1 hxy
      have hfst : (ofLex a).1 ≤ (ofLex b).1 := by
        rcases Prod.Lex.le_iff.1 hab with h | h
        · exact h.le
        · exact h.1.le
      by_cases ha : u < (ofLex a).1
      · have hb : u < (ofLex b).1 := ha.trans_le hfst
        rw [after_coe, after_coe, ifAhead_of_lt ha, ifAhead_of_lt hb]
        exact hxy
      · rw [after_coe, ifAhead_of_le (not_lt.1 ha)]
        exact bot_le

theorem Standing.after_sup (x y : Standing) : after u (x ⊔ y) = after u x ⊔ after u y :=
  (after_mono u).map_sup x y

/-- What a rank with a given expiry counts for runs out at that expiry. -/
theorem Standing.after_ifAhead (h : now ≤ u) {e : Instant} {rank : Rank}
    (he : (ofLex rank).1 = e) : after u (ifAhead now e rank) = ifAhead u e rank := by
  by_cases hlt : now < e
  · rw [ifAhead_of_lt hlt, after_coe, he]
  · rw [ifAhead_of_le (not_lt.1 hlt), ifAhead_of_le ((not_lt.1 hlt).trans h), after_bot]

end After

namespace Store

/-- The tombstone of a key, if it has not expired. -/
def tombstone? (s : Store) (now : Instant) (k : Record.Key) : Option Instant :=
  (s.tombstones.get? k).filter fun t => now < t

theorem tombstone?_of_get? {s : Store} {now : Instant} {k : Record.Key} {t : Instant}
    (h : s.tombstones.get? k = some t) :
    s.tombstone? now k = if now < t then some t else none := by
  simp [tombstone?, h, Option.filter_some]

theorem tombstone?_of_none {s : Store} {now : Instant} {k : Record.Key}
    (h : s.tombstones.get? k = none) : s.tombstone? now k = none := by
  simp [tombstone?, h]

/-- What is known of a key. -/
def standing (s : Store) (now : Instant) (k : Record.Key) : Standing :=
  match s.live? now k with
  | some r => Rank.record r.expiresAt
  | none =>
    match s.tombstone? now k with
    | some t => Rank.removal t
    | none => ⊥

variable {s : Store} {now : Instant} {k : Record.Key}

theorem standing_of_live {r : Record} (h : s.live? now k = some r) :
    s.standing now k = Rank.record r.expiresAt := by
  simp [standing, h]

theorem standing_of_none (h : s.live? now k = none) :
    s.standing now k =
      match s.tombstone? now k with
      | some t => (Rank.removal t : Standing)
      | none => ⊥ := by
  simp [standing, h]

/-- Where a record stands there is no tombstone. -/
theorem Separate.tombstone?_eq_none (hs : s.Separate) {r : Record}
    (h : s.records.get? k = some r) : s.tombstone? now k = none :=
  tombstone?_of_none (hs.tombstone_eq_none h)

theorem standing_eq_record_iff {e : Instant} :
    s.standing now k = Rank.record e ↔ (s.live? now k).map (·.expiresAt) = some e := by
  cases hl : s.live? now k with
  | some r => simp [standing_of_live hl]
  | none =>
      rw [standing_of_none hl]
      cases s.tombstone? now k with
      | some t => simpa using (Rank.record_ne_removal e t).symm
      | none => simp

theorem standing_eq_removal_iff (hs : s.Separate) {t : Instant} :
    s.standing now k = Rank.removal t ↔ s.tombstone? now k = some t := by
  cases hl : s.live? now k with
  | some r =>
      rw [standing_of_live hl, hs.tombstone?_eq_none (live?_eq_some_iff.1 hl).1]
      simpa using Rank.record_ne_removal r.expiresAt t
  | none =>
      rw [standing_of_none hl]
      cases s.tombstone? now k with
      | some t' => simp
      | none => simp

/-- Two stores in which a key has one standing agree on its live record's expiry and on its
tombstone. -/
theorem agree_of_standing_eq {s' : Store} (hs : s.Separate) (hs' : s'.Separate)
    (h : s.standing now k = s'.standing now k) :
    (s.live? now k).map (·.expiresAt) = (s'.live? now k).map (·.expiresAt) ∧
      s.tombstone? now k = s'.tombstone? now k := by
  constructor
  · refine Option.ext fun e => ?_
    rw [← standing_eq_record_iff, ← standing_eq_record_iff, h]
  · refine Option.ext fun t => ?_
    rw [← standing_eq_removal_iff hs, ← standing_eq_removal_iff hs', h]

/-- The standing of a key depends on its entries only. -/
theorem standing_congr {s' : Store} (h : s.SameAt s' k) :
    s'.standing now k = s.standing now k := by
  simp [standing, live?, tombstone?, h.record, h.tombstone]

/-- As time goes by a standing runs out and nothing takes its place. -/
theorem standing_of_le (hs : s.Separate) {u : Instant} (h : now ≤ u) :
    s.standing u k = (s.standing now k).after u := by
  cases hget : s.records.get? k with
  | some r =>
      have hnone : s.tombstone? u k = none := hs.tombstone?_eq_none hget
      have hnone' : s.tombstone? now k = none := hs.tombstone?_eq_none hget
      by_cases hu : r.expiresAt ≤ u
      · have hl : s.live? u k = none := by rw [live?_of_get? hget, if_pos hu]
        by_cases hn : r.expiresAt ≤ now
        · have hl' : s.live? now k = none := by rw [live?_of_get? hget, if_pos hn]
          rw [standing_of_none hl, standing_of_none hl', hnone, hnone', Standing.after_bot]
        · have hl' : s.live? now k = some r := by rw [live?_of_get? hget, if_neg hn]
          rw [standing_of_none hl, standing_of_live hl', hnone, Standing.after_record,
            Standing.ifAhead_of_le hu]
      · have hl : s.live? u k = some r := by rw [live?_of_get? hget, if_neg hu]
        rw [standing_of_live hl, standing_of_live (live?_of_le h hl), Standing.after_record,
          Standing.ifAhead_of_lt (not_le.1 hu)]
  | none =>
      have hl (t : Instant) : s.live? t k = none := by simp [live?, hget]
      rw [standing_of_none (hl u), standing_of_none (hl now)]
      cases ht : s.tombstones.get? k with
      | none => rw [tombstone?_of_none ht, tombstone?_of_none ht, Standing.after_bot]
      | some t =>
          rw [tombstone?_of_get? ht, tombstone?_of_get? ht]
          by_cases hu : u < t
          · rw [if_pos hu, if_pos (h.trans_lt hu), Standing.after_removal,
              Standing.ifAhead_of_lt hu]
          · rw [if_neg hu]
            by_cases hn : now < t
            · rw [if_pos hn, Standing.after_removal, Standing.ifAhead_of_le (not_lt.1 hu)]
            · rw [if_neg hn, Standing.after_bot]

/-! ### Taking over a record -/

/-- An expiry outlives what is known of a key if the record that it would make ranks above
the standing of the key. -/
theorem outlives_iff (hs : s.Separate) {e : Instant} :
    s.Outlives now k e ↔ s.standing now k < Standing.ifAhead now e (Rank.record e) := by
  by_cases he : now < e
  · rw [Standing.ifAhead_of_lt he]
    cases hl : s.live? now k with
    | some c =>
        rw [standing_of_live hl, WithBot.coe_lt_coe, Rank.record_lt_record]
        constructor
        · intro h
          exact h.live c hl
        · intro h
          refine ⟨he, ?_, ?_⟩
          · intro c' hc'
            rw [hl] at hc'
            cases hc'
            exact h
          · intro hnone
            rw [(live?_eq_some_iff.1 hl).1] at hnone
            cases hnone
    | none =>
        rw [standing_of_none hl]
        cases ht : s.tombstone? now k with
        | some t =>
            obtain ⟨htget, hlt⟩ := Option.filter_eq_some_iff.1 ht
            rw [WithBot.coe_lt_coe, Rank.removal_lt_record]
            constructor
            · intro h
              exact h.buried (hs.record_eq_none htget) t htget
            · intro h
              refine ⟨he, by simp [hl], ?_⟩
              intro _ t' ht'
              rw [htget] at ht'
              cases ht'
              exact h
        | none =>
            -- A tombstone that is left has expired and bars nothing that lies ahead.
            refine iff_of_true ⟨he, by simp [hl], ?_⟩ (WithBot.bot_lt_coe _)
            intro _ t htget
            have hle : t ≤ now := by
              simpa using (Option.filter_eq_none_iff.1 ht) t htget
            exact Nat.lt_of_le_of_lt hle he
  · rw [Standing.ifAhead_of_le (Nat.not_lt.1 he)]
    exact iff_of_false (fun h => he h.ahead) not_lt_bot

/-- A record of another node raises the standing of its key to its own rank. -/
theorem standing_merge (hopen : s.closed = false) (hs : s.Separate) (r : Record) :
    (s.merge now r).1.standing now k =
      s.standing now k ⊔
        if r.key = k then
          Standing.ifAhead now (s.cap now r.expiresAt) (Rank.record (s.cap now r.expiresAt))
        else ⊥ := by
  rcases merge_cases hopen now r with ⟨hno, he⟩ | ⟨ho, he⟩
  · rw [he]
    by_cases hk : r.key = k
    · subst hk
      rw [if_pos rfl]
      rw [outlives_iff hs, not_lt] at hno
      exact (sup_eq_left.2 hno).symm
    · simp [hk]
  · rw [he]
    by_cases hk : r.key = k
    · subst hk
      have hahead := ho.ahead
      rw [outlives_iff hs] at ho
      rw [if_pos rfl, sup_eq_right.2 ho.le, Standing.ifAhead_of_lt hahead]
      refine standing_of_live (r := s.adopted now r) ?_
      refine live?_eq_some_iff.2 ⟨?_, hahead⟩
      rw [get?_records_enter, adopted_key, if_pos rfl]
    · rw [if_neg hk, sup_bot_eq]
      exact standing_congr ((s.sameAt_place now).trans (sameAt_enter _ (Ne.symm hk)))

/-! ### Taking over a removal -/

/-- Burying a key without a record raises its standing to the rank of the removal. -/
theorem standing_bury (hnone : s.records.get? k = none) (e : Instant) :
    (s.bury now k e).standing now k =
      s.standing now k ⊔ Standing.ifAhead now e (Rank.removal e) := by
  have hl : s.live? now k = none := by simp [live?, hnone]
  have hl' : (s.bury now k e).live? now k = none := by simp [live?, hnone]
  rw [standing_of_none hl, standing_of_none hl']
  have hb := get?_tombstones_bury s now k e k
  by_cases he : now < e
  · rw [if_pos ⟨rfl, he⟩] at hb
    rw [Standing.ifAhead_of_lt he, tombstone?_of_get? hb]
    cases ht : s.tombstones.get? k with
    | none =>
        rw [tombstone?_of_none ht]
        simp [he]
    | some t =>
        have hmax : now < max e t := Nat.lt_of_lt_of_le he (Nat.le_max_left e t)
        rw [tombstone?_of_get? ht, Option.getD_some, if_pos hmax]
        by_cases hlt : now < t
        · rw [if_pos hlt]
          rcases le_total e t with h | h
          · simp [h]
          · simp [h]
        · -- An expired tombstone is lower than one that lies ahead, so raising it shows.
          have hte : t ≤ e := Nat.le_trans (Nat.not_lt.1 hlt) (Nat.le_of_lt he)
          simp [hlt, max_eq_left hte]
  · rw [if_neg (fun h => he h.2)] at hb
    rw [Standing.ifAhead_of_le (Nat.not_lt.1 he), sup_bot_eq]
    simp only [tombstone?, hb]

/-- What is evicted is known as a removal from then on, if the removal lies ahead. -/
theorem standing_evict (hs : s.Separate) {c : Record} (hget : s.records.get? k = some c)
    (e : Instant) :
    (s.evict now k e).standing now k = Standing.ifAhead now e (Rank.removal e) := by
  have hnone : s.tombstones.get? k = none := hs.tombstone_eq_none hget
  have hl : (s.evict now k e).live? now k = none := by
    simp [live?, Table.get?_erase]
  have hb := get?_tombstones_bury s now k e k
  rw [← evict_tombstones] at hb
  rw [standing_of_none hl]
  by_cases he : now < e
  · rw [if_pos ⟨rfl, he⟩, hnone] at hb
    rw [Standing.ifAhead_of_lt he, tombstone?_of_get? hb]
    simp [he]
  · rw [if_neg (fun h => he h.2), hnone] at hb
    rw [Standing.ifAhead_of_le (Nat.not_lt.1 he), tombstone?_of_none hb]

/-- A removal by another node raises the standing of its key to its own rank. -/
theorem standing_removeIfNotFresher (hopen : s.closed = false) (hs : s.Separate)
    (r : Record) :
    (s.removeIfNotFresher now r).1.standing now k =
      s.standing now k ⊔
        if r.key = k then Standing.ifAhead now r.expiresAt (Rank.removal r.expiresAt)
        else ⊥ := by
  rw [removeIfNotFresher_eq hopen]
  cases hget : s.records.get? r.key with
  | none =>
      by_cases hk : r.key = k
      · subst hk
        rw [if_pos rfl]
        exact standing_bury hget _
      · rw [if_neg hk, sup_bot_eq]
        exact standing_congr (s.sameAt_bury now (Ne.symm hk) _)
  | some c =>
      by_cases hle : c.expiresAt ≤ r.expiresAt
      · simp only [if_pos hle]
        by_cases hk : r.key = k
        · subst hk
          rw [if_pos rfl, standing_evict hs hget]
          refine (sup_eq_right.2 ?_).symm
          cases hl : s.live? now r.key with
          | some c' =>
              -- The record that goes ranks below its removal.
              obtain ⟨hget', hlt⟩ := live?_eq_some_iff.1 hl
              rw [hget] at hget'
              cases hget'
              rw [standing_of_live hl,
                Standing.ifAhead_of_lt (Nat.lt_of_lt_of_le hlt hle), WithBot.coe_le_coe]
              exact Rank.record_le_removal.2 hle
          | none =>
              rw [standing_of_none hl, hs.tombstone?_eq_none hget]
              exact bot_le
        · rw [if_neg hk, sup_bot_eq]
          exact standing_congr (s.sameAt_evict now (Ne.symm hk) _)
      · simp only [if_neg hle]
        refine (sup_eq_left.2 ?_).symm
        by_cases hk : r.key = k
        · subst hk
          rw [if_pos rfl]
          by_cases he : now < r.expiresAt
          · have hl : s.live? now r.key = some c :=
              live?_eq_some_iff.2 ⟨hget, Nat.lt_trans he (Nat.not_le.1 hle)⟩
            rw [Standing.ifAhead_of_lt he, standing_of_live hl, WithBot.coe_le_coe]
            exact Rank.removal_le_record.2 (Nat.not_le.1 hle)
          · rw [Standing.ifAhead_of_le (Nat.not_lt.1 he)]
            exact bot_le
        · rw [if_neg hk]
          exact bot_le

end Store

end Rendezvous
