import Rendezvous.Proofs.Store.Invariants

/-!
# Rendezvous.Proofs.Store.Numbering

Places in the order of insertion. An operation that enters a record under a key without a live
one hands out the next place; a live record keeps its place whatever is entered over it.

* `Store.inserts`, `Store.insertions`: the operations that hand out a place, and their number;
* `Store.Move`, `Store.move_perform`: every operation as one of the moves;
* `Store.Numbered`: no two records have one place, and all places have been handed out;
  `Store.Numbered.perform`, `Store.Numbered.performAll`;
* `Store.seq_perform`: a live record keeps its place.
-/

namespace Rendezvous.Store

/-! ### Insertions -/

/-- Whether an operation inserts a record: it enters one under a key without a live record. -/
def inserts (s : Store) (now : Instant) : Operation → Bool
  | .upsert reg =>
    match (s.upsert now reg).2 with
    | .ok (_, .inserted) => true
    | _ => false
  | .merge r =>
    match (s.merge now r).2 with
    | .ok true => (s.live? now r.key).isNone
    | _ => false
  | .remove _ | .removeIfNotFresher _ | .reclaim | .close => false

/-- The number of insertions among some operations. -/
def insertions (s : Store) : List (Instant × Operation) → Nat
  | [] => 0
  | (now, op) :: rest => (s.inserts now op).toNat + (s.perform now op).insertions rest

theorem insertions_append (s : Store) (before after : List (Instant × Operation)) :
    s.insertions (before ++ after) =
      s.insertions before + (s.performAll before).insertions after := by
  induction before generalizing s with
  | nil => simp [insertions, performAll]
  | cons a rest ih =>
      obtain ⟨now, op⟩ := a
      rw [List.cons_append, insertions, insertions, performAll_cons, ih, Nat.add_assoc]

variable {s : Store} {now : Instant}

theorem place_of_live {k : Record.Key} {c : Record} (h : s.live? now k = some c) :
    s.place now k = (c.seq, s) := by
  rw [place, h]

theorem place_of_none {k : Record.Key} (h : s.live? now k = none) :
    s.place now k = s.takeSeq := by
  rw [place, h]

/-! ### Moves -/

/-- The moves by which operations change a store, and whether they insert a record. -/
inductive Move (s : Store) (now : Instant) : (inserts : Bool) → Store → Prop
  | stay : Move s now false s
  | enter (r : Record) (h : s.closed = false) (hseq : r.seq = (s.place now r.key).1) :
      Move s now (s.live? now r.key).isNone ((s.place now r.key).2.enter r)
  | evict (k : Record.Key) (c : Record) (e : Instant) (h : s.closed = false)
      (hget : s.records.get? k = some c) (hle : c.expiresAt ≤ e) :
      Move s now false (s.evict now k e)
  | bury (k : Record.Key) (e : Instant) (h : s.closed = false)
      (hget : s.records.get? k = none) : Move s now false (s.bury now k e)
  | sweep (h : s.closed = false) : Move s now false (s.swept now)
  | close : Move s now false s.close

/-- **Every operation is a move.** -/
theorem move_perform (s : Store) (now : Instant) (op : Operation) :
    s.Move now (s.inserts now op) (s.perform now op) := by
  by_cases hc : s.closed
  · have hno : s.inserts now op = false := by
      cases op with
      | upsert reg => simp [inserts, upsert, hc]
      | merge r => simp [inserts, merge, hc]
      | _ => rfl
    rw [perform_of_closed hc, hno]
    exact .stay
  have hopen : s.closed = false := Bool.eq_false_iff.2 hc
  cases op with
  | upsert reg =>
      have hins : s.inserts now (.upsert reg) = (s.live? now reg.key).isNone := by
        rw [inserts, upsert_eq hopen]
        cases s.live? now reg.key <;> rfl
      rw [perform, hins, upsert_eq hopen]
      exact .enter (s.granted now reg) hopen rfl
  | merge r =>
      rcases merge_cases hopen now r with ⟨-, he⟩ | ⟨-, he⟩
      · rw [perform, inserts, he]
        exact .stay
      · rw [perform, inserts, he]
        exact .enter (s.adopted now r) hopen rfl
  | remove k =>
      rw [perform, inserts, remove_eq hopen]
      cases hget : s.records.get? k with
      | none => exact .stay
      | some c => exact .evict k c _ hopen hget (Nat.le_refl _)
  | removeIfNotFresher r =>
      rw [perform, inserts, removeIfNotFresher_eq hopen]
      cases hget : s.records.get? r.key with
      | none => exact .bury r.key _ hopen hget
      | some c =>
          by_cases hle : c.expiresAt ≤ r.expiresAt
          · simp only [if_pos hle]
            exact .evict r.key c _ hopen hget hle
          · simp only [if_neg hle]
            exact .stay
  | reclaim =>
      obtain ⟨n, hn⟩ := reclaim_eq hopen now
      rw [perform, inserts, hn]
      exact .sweep hopen
  | close => exact .close

/-! ### Places -/

/-- The records of a store have places among the first `n`, no two the same, and the next to be
handed out is the one after these. -/
structure Numbered (s : Store) (n : Nat) : Prop where
  next : s.nextSeq = (n + 1) % seqBound
  placed : ∀ k r, s.records.get? k = some r → 0 < r.seq ∧ r.seq ≤ n
  apart : ∀ k k' r r', s.records.get? k = some r → s.records.get? k' = some r' →
    r.seq = r'.seq → k = k'

namespace Numbered

variable {n : Nat}

/-- Taking records away leaves the others where they are. -/
theorem shrink {s' : Store} (h : s.Numbered n) (hnext : s'.nextSeq = s.nextSeq)
    (hsub : ∀ k r, s'.records.get? k = some r → s.records.get? k = some r) :
    s'.Numbered n where
  next := hnext.trans h.next
  placed k r hr := h.placed k r (hsub k r hr)
  apart k k' r r' hr hr' := h.apart k k' r r' (hsub k r hr) (hsub k' r' hr')

/-- A record may take the place of another under its key. -/
theorem replace (h : s.Numbered n) {c r : Record} (hget : s.records.get? r.key = some c)
    (hseq : r.seq = c.seq) : (s.enter r).Numbered n where
  next := h.next
  placed := by
    intro k r' hr'
    rw [get?_records_enter] at hr'
    split at hr'
    · cases hr'
      rw [hseq]
      exact h.placed _ c hget
    · exact h.placed k r' hr'
  apart := by
    -- Each record stands where one with its place stood before.
    have hold : ∀ k r', (s.enter r).records.get? k = some r' →
        ∃ c', s.records.get? k = some c' ∧ c'.seq = r'.seq := by
      intro k r' hr'
      rw [get?_records_enter] at hr'
      split at hr'
      · rename_i hk
        cases hr'
        exact ⟨c, hk ▸ hget, hseq.symm⟩
      · exact ⟨r', hr', rfl⟩
    intro k k' r₁ r₂ h₁ h₂ heq
    obtain ⟨c₁, hc₁, hs₁⟩ := hold k r₁ h₁
    obtain ⟨c₂, hc₂, hs₂⟩ := hold k' r₂ h₂
    exact h.apart k k' c₁ c₂ hc₁ hc₂ (hs₁.trans (heq.trans hs₂.symm))

/-- A record may be entered under any key with the next place. -/
theorem insert (h : s.Numbered n) (hn : n + 1 < seqBound) {r : Record}
    (hseq : r.seq = s.nextSeq) : (s.takeSeq.2.enter r).Numbered (n + 1) := by
  have hplace : r.seq = n + 1 := by rw [hseq, h.next, Nat.mod_eq_of_lt hn]
  refine ⟨?_, ?_, ?_⟩
  · show (s.nextSeq + 1) % seqBound = (n + 1 + 1) % seqBound
    rw [h.next, Nat.mod_eq_of_lt hn]
  · intro k r' hr'
    rw [get?_records_enter, takeSeq_records] at hr'
    split at hr'
    · cases hr'
      omega
    · have := h.placed k r' hr'
      omega
  · intro k k' r₁ r₂ h₁ h₂ heq
    rw [get?_records_enter, takeSeq_records] at h₁ h₂
    split at h₁ <;> split at h₂
    · rename_i hk hk'
      exact hk.trans hk'.symm
    · -- The new place is beyond all that were handed out before.
      cases h₁
      have := h.placed k' r₂ h₂
      omega
    · cases h₂
      have := h.placed k r₁ h₁
      omega
    · exact h.apart k k' r₁ r₂ h₁ h₂ heq

/-- Entering a record in the place that its key is given. -/
theorem enter (h : s.Numbered n) {r : Record} (hseq : r.seq = (s.place now r.key).1)
    (hn : n + (s.live? now r.key).isNone.toNat < seqBound) :
    ((s.place now r.key).2.enter r).Numbered (n + (s.live? now r.key).isNone.toNat) := by
  cases hlive : s.live? now r.key with
  | some c =>
      rw [place_of_live hlive] at hseq ⊢
      exact h.replace (live?_eq_some_iff.1 hlive).1 hseq
  | none =>
      rw [hlive] at hn
      rw [place_of_none hlive] at hseq ⊢
      exact h.insert hn hseq

theorem erase (h : s.Numbered n) {s' : Store} {k : Record.Key}
    (hnext : s'.nextSeq = s.nextSeq) (hrecords : s'.records = s.records.erase k) :
    s'.Numbered n := by
  refine h.shrink hnext ?_
  intro k' r hr
  rw [hrecords, Table.get?_erase] at hr
  split at hr
  · cases hr
  · exact hr

/-- An operation keeps the records in their places, and hands out one more place if it
inserts. -/
theorem perform (h : s.Numbered n) (op : Operation)
    (hn : n + (s.inserts now op).toNat < seqBound) :
    (s.perform now op).Numbered (n + (s.inserts now op).toNat) := by
  have hmove := s.move_perform now op
  generalize s.inserts now op = inserted, s.perform now op = s' at hn hmove
  cases hmove with
  | stay => exact h
  | enter r _ hseq => exact h.enter hseq hn
  | evict k c e _ _ _ => exact h.erase (evict_nextSeq ..) (evict_records ..)
  | bury k e _ _ => exact h.shrink (bury_nextSeq ..) fun k r hr => by rwa [bury_records] at hr
  | sweep _ =>
      refine h.shrink (swept_nextSeq ..) ?_
      intro k r hr
      rw [get?_records_swept] at hr
      exact (live?_eq_some_iff.1 hr).1
  | close => exact h.shrink rfl fun _ _ hr => hr

theorem performAll (h : s.Numbered n) {asked : List (Instant × Operation)}
    (hn : n + s.insertions asked < seqBound) :
    (s.performAll asked).Numbered (n + s.insertions asked) := by
  induction asked generalizing s n with
  | nil => exact h
  | cons a rest ih =>
      obtain ⟨now, op⟩ := a
      rw [insertions, ← Nat.add_assoc] at hn ⊢
      rw [performAll_cons]
      exact ih (h.perform op (by omega)) hn

end Numbered

/-! ### Keeping a place -/

/-- Whatever stands under a key after an operation stands where its live record stood. -/
theorem seq_perform {k : Record.Key} {c r : Record} {op : Operation}
    (hlive : s.live? now k = some c) (hget : (s.perform now op).records.get? k = some r) :
    r.seq = c.seq := by
  have hsame (hr : s.records.get? k = some r) : r.seq = c.seq := by
    rw [(live?_eq_some_iff.1 hlive).1] at hr
    cases hr
    rfl
  have hmove := s.move_perform now op
  generalize s.inserts now op = inserted, s.perform now op = s' at hget hmove
  cases hmove with
  | stay => exact hsame hget
  | enter r' _ hseq =>
      rw [get?_records_enter, place_records] at hget
      split at hget
      · rename_i hk
        cases hget
        rw [hseq, ← hk, place_of_live hlive]
      · exact hsame hget
  | evict k' _ _ _ _ _ =>
      rw [evict_records, Table.get?_erase] at hget
      split at hget
      · cases hget
      · exact hsame hget
  | bury _ _ _ _ =>
      rw [bury_records] at hget
      exact hsame hget
  | sweep _ =>
      rw [get?_records_swept, hlive] at hget
      cases hget
      rfl
  | close => exact hsame hget

end Rendezvous.Store
