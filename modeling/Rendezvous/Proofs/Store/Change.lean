import Rendezvous.Proofs.Store.Operations

/-!
# Rendezvous.Proofs.Store.Change

A change of one key in two parts, as the store may be closed after it was found open and
before the change is put into the queue. What the second part can do, on an open store or a
closed one, is said once, and all that is known of a change is read off there.

* `Store.Change`, `Store.Answer`: what is asked about a key, and what is answered;
* `Store.change`, `Store.changeOpen`: a change, and the part of it behind the open check;
* `Store.Effect`, `Store.effect_change`, `Store.effect_changeOpen`: what it does;
* `Store.Effect.sameAt`, `Store.Effect.unchanged`, `Store.Effect.told`: what it leaves alone,
  and what its answer says.
-/

namespace Rendezvous.Store

/-! ### Changes and answers -/

/-- What may be asked of a store about a key. -/
inductive Change where
  | upsert (reg : Registration)
  | merge (r : Record)
  | remove (k : Record.Key)
  | removeIfNotFresher (r : Record)
deriving DecidableEq

/-- What a store that is open answers. -/
inductive Answer where
  | upserted (r : Record) (outcome : UpsertOutcome)
  | merged (taken : Bool)
  | removed (found : Option Record)
  | displaced (gone : Bool)
deriving DecidableEq

/-- The key that a change is about. -/
def Change.key : Change → Record.Key
  | .upsert reg => reg.key
  | .merge r => r.key
  | .remove k => k
  | .removeIfNotFresher r => r.key

/-- The addresses that a change may bring. -/
def Change.addrs : Change → List Multiaddr
  | .upsert reg => reg.addrs
  | .merge r => r.addrs
  | .remove _ => []
  | .removeIfNotFresher _ => []

/-- Makes a change, once the store has been found open. -/
def changeOpen (s : Store) (now : Instant) : Change → Store × Except Error Answer
  | .upsert reg => (s.upsertOpen now reg).map id (·.map fun a => .upserted a.1 a.2)
  | .merge r => (s.mergeOpen now r).map id (·.map .merged)
  | .remove k => (s.removeOpen now k).map id (·.map .removed)
  | .removeIfNotFresher r => (s.removeIfNotFresherOpen now r).map id (·.map .displaced)

/-- Makes a change. -/
def change (s : Store) (now : Instant) : Change → Store × Except Error Answer
  | .upsert reg => (s.upsert now reg).map id (·.map fun a => .upserted a.1 a.2)
  | .merge r => (s.merge now r).map id (·.map .merged)
  | .remove k => (s.remove now k).map id (·.map .removed)
  | .removeIfNotFresher r => (s.removeIfNotFresher now r).map id (·.map .displaced)

variable {s s' : Store} {now : Instant} {c : Change}

theorem change_of_closed (h : s.closed = true) (now : Instant) (c : Change) :
    s.change now c = (s, .error .closed) := by
  cases c with
  | upsert reg => simp [change, upsert, h, Except.map]
  | merge r => simp [change, merge, h, Except.map]
  | remove k => simp [change, remove, h, Except.map]
  | removeIfNotFresher r => simp [change, removeIfNotFresher, h, Except.map]

theorem change_of_open (h : s.closed = false) (now : Instant) (c : Change) :
    s.change now c = s.changeOpen now c := by
  cases c with
  | upsert reg => simp [change, changeOpen, upsert, h]
  | merge r => simp [change, changeOpen, merge, h]
  | remove k => simp [change, changeOpen, remove, h]
  | removeIfNotFresher r => simp [change, changeOpen, removeIfNotFresher, h]

/-! ### Effects -/

/-- What a change does to a store that was found open, and what is answered. On a store that
has been closed since then, what would change the records fails; it may have taken a place in
the order by then. -/
inductive Effect (s : Store) (now : Instant) : Change → Store → Except Error Answer → Prop
  | refused (c : Change) (h : s.closed = true) : Effect s now c s (.error .closed)
  | spent (c : Change) (h : s.closed = true) : Effect s now c s.takeSeq.2 (.error .closed)
  | registered (reg : Registration) (h : s.closed = false) :
      Effect s now (.upsert reg) ((s.place now reg.key).2.enter (s.granted now reg))
        (.ok (.upserted (s.granted now reg)
          (if (s.live? now reg.key).isSome then .refreshed else .inserted)))
  | adopted (r : Record) (h : s.closed = false) :
      Effect s now (.merge r) ((s.place now r.key).2.enter (s.adopted now r))
        (.ok (.merged true))
  | ignored (r : Record) : Effect s now (.merge r) s (.ok (.merged false))
  | missing (k : Record.Key) (hget : s.records.get? k = none) :
      Effect s now (.remove k) s (.ok (.removed none))
  | removed (k : Record.Key) (r : Record) (h : s.closed = false)
      (hget : s.records.get? k = some r) :
      Effect s now (.remove k) (s.evict now k r.expiresAt) (.ok (.removed (some r)))
  | remembered (r : Record) (hget : s.records.get? r.key = none) :
      Effect s now (.removeIfNotFresher r) (s.bury now r.key r.expiresAt)
        (.ok (.displaced false))
  | displaced (r r' : Record) (h : s.closed = false) (hget : s.records.get? r.key = some r')
      (hle : r'.expiresAt ≤ r.expiresAt) :
      Effect s now (.removeIfNotFresher r) (s.evict now r.key r.expiresAt)
        (.ok (.displaced true))
  | fresher (r r' : Record) (hget : s.records.get? r.key = some r')
      (hlt : r.expiresAt < r'.expiresAt) :
      Effect s now (.removeIfNotFresher r) s (.ok (.displaced false))

/-- **A change of an open store has an effect.** -/
theorem effect_of_open (h : s.closed = false) (now : Instant) (c : Change) :
    s.Effect now c (s.changeOpen now c).1 (s.changeOpen now c).2 := by
  rw [← change_of_open h]
  cases c with
  | upsert reg =>
      rw [change, upsert_eq h]
      exact .registered reg h
  | merge r =>
      rw [change]
      rcases merge_cases h now r with ⟨-, he⟩ | ⟨-, he⟩
      · rw [he]
        exact .ignored r
      · rw [he]
        exact .adopted r h
  | remove k =>
      rw [change, remove_eq h]
      cases hget : s.records.get? k with
      | none => exact .missing k hget
      | some r => exact .removed k r h hget
  | removeIfNotFresher r =>
      rw [change, removeIfNotFresher_eq h]
      cases hget : s.records.get? r.key with
      | none => exact .remembered r hget
      | some r' =>
          by_cases hle : r'.expiresAt ≤ r.expiresAt
          · simp only [if_pos hle]
            exact .displaced r r' h hget hle
          · simp only [if_neg hle]
            exact .fresher r r' hget (Nat.not_le.1 hle)

/-- Nothing that has to be put into the queue is done once the store is closed. -/
theorem commit_of_closed {α : Type} (h : s.closed = true) (failed : Store) (op : WriteOp)
    (answer : α) (finish : Store → Store) :
    commit failed (s.persist op) answer finish = (failed, .error .closed) := by
  rw [persist_of_closed h]
  rfl

/-- **So has one that comes too late.** -/
theorem effect_of_closed (h : s.closed = true) (now : Instant) (c : Change) :
    s.Effect now c (s.changeOpen now c).1 (s.changeOpen now c).2 := by
  -- Branches that take a place in the order do so before they reach the queue.
  have htaken : s.takeSeq.2.closed = true := h
  cases c with
  | upsert reg =>
      cases hget : s.records.get? reg.key with
      | none =>
          simp only [changeOpen, upsertOpen, hget, commit_of_closed htaken]
          exact .spent _ h
      | some r =>
          by_cases he : r.isExpired now
          · simp only [changeOpen, upsertOpen, hget, if_pos he, commit_of_closed htaken]
            exact .spent _ h
          · simp only [changeOpen, upsertOpen, hget, if_neg he, commit_of_closed h]
            exact .refused _ h
  | merge r =>
      by_cases ha : s.cap now r.expiresAt ≤ now
      · simp only [changeOpen, mergeOpen, if_pos ha]
        exact .ignored r
      cases hget : s.records.get? r.key with
      | none =>
          by_cases ht : (s.tombstones.get? r.key).any (s.cap now r.expiresAt ≤ ·)
          · simp only [changeOpen, mergeOpen, if_neg ha, hget, if_pos ht]
            exact .ignored r
          · simp only [changeOpen, mergeOpen, if_neg ha, hget, if_neg ht,
              commit_of_closed htaken]
            exact .spent _ h
      | some r' =>
          by_cases he : r'.isExpired now
          · simp only [changeOpen, mergeOpen, if_neg ha, hget, if_pos he,
              commit_of_closed htaken]
            exact .spent _ h
          · by_cases hle : s.cap now r.expiresAt ≤ r'.expiresAt
            · simp only [changeOpen, mergeOpen, if_neg ha, hget, if_neg he, if_pos hle]
              exact .ignored r
            · simp only [changeOpen, mergeOpen, if_neg ha, hget, if_neg he, if_neg hle,
                commit_of_closed h]
              exact .refused _ h
  | remove k =>
      cases hget : s.records.get? k with
      | none =>
          simp only [changeOpen, removeOpen, hget]
          exact .missing k hget
      | some r =>
          simp only [changeOpen, removeOpen, hget, commit_of_closed h]
          exact .refused _ h
  | removeIfNotFresher r =>
      cases hget : s.records.get? r.key with
      | none =>
          simp only [changeOpen, removeIfNotFresherOpen, hget]
          exact .remembered r hget
      | some r' =>
          by_cases hle : r'.expiresAt ≤ r.expiresAt
          · simp only [changeOpen, removeIfNotFresherOpen, hget, if_pos hle,
              commit_of_closed h]
            exact .refused _ h
          · simp only [changeOpen, removeIfNotFresherOpen, hget, if_neg hle]
            exact .fresher r r' hget (Nat.not_le.1 hle)

theorem effect_changeOpen (s : Store) (now : Instant) (c : Change) :
    s.Effect now c (s.changeOpen now c).1 (s.changeOpen now c).2 := by
  cases h : s.closed with
  | false => exact effect_of_open h now c
  | true => exact effect_of_closed h now c

theorem effect_change (s : Store) (now : Instant) (c : Change) :
    s.Effect now c (s.change now c).1 (s.change now c).2 := by
  cases h : s.closed with
  | false =>
      rw [change_of_open h]
      exact effect_of_open h now c
  | true =>
      rw [change_of_closed h]
      exact .refused c h

/-! ### What every effect has in common -/

namespace Effect

variable {answer : Except Error Answer}

theorem closed (h : s.Effect now c s' answer) : s'.closed = s.closed := by
  cases h <;> simp

theorem location (h : s.Effect now c s' answer) : s'.location = s.location := by
  cases h <;> simp

theorem maxTtl (h : s.Effect now c s' answer) : s'.maxTtl = s.maxTtl := by
  cases h <;> simp

/-- A store that is closed puts nothing into its queue any more. -/
theorem queue_of_closed (h : s.Effect now c s' answer) (hc : s.closed = true) :
    s'.queue = s.queue := by
  cases h with
  | refused _ _ => rfl
  | spent _ _ => rfl
  | registered _ ho => rw [hc] at ho; cases ho
  | adopted _ ho => rw [hc] at ho; cases ho
  | ignored _ => rfl
  | missing _ _ => rfl
  | removed _ _ ho _ => rw [hc] at ho; cases ho
  | remembered _ _ => exact bury_queue ..
  | displaced _ _ ho _ _ => rw [hc] at ho; cases ho
  | fresher _ _ _ _ => rfl

/-- A change that fails changes no record, no tombstone and nothing that the disk sees. -/
theorem unchanged {e : Error} (h : s.Effect now c s' (.error e)) :
    s'.records = s.records ∧ s'.tombstones = s.tombstones ∧ s'.queue = s.queue := by
  cases h with
  | refused _ _ => exact ⟨rfl, rfl, rfl⟩
  | spent _ _ => exact ⟨rfl, rfl, rfl⟩

/-- A change is about its key. -/
theorem sameAt (h : s.Effect now c s' answer) {k : Record.Key} (hk : k ≠ c.key) :
    s.SameAt s' k := by
  cases h with
  | refused _ _ => exact ⟨rfl, rfl⟩
  | spent _ _ => exact ⟨rfl, rfl⟩
  | registered reg _ => exact (s.sameAt_place now).trans (sameAt_enter _ hk)
  | adopted r _ => exact (s.sameAt_place now).trans (sameAt_enter _ hk)
  | ignored _ => exact ⟨rfl, rfl⟩
  | missing _ _ => exact ⟨rfl, rfl⟩
  | removed _ _ _ _ => exact s.sameAt_evict now hk _
  | remembered _ _ => exact s.sameAt_bury now hk _
  | displaced _ _ _ _ _ => exact s.sameAt_evict now hk _
  | fresher _ _ _ _ => exact ⟨rfl, rfl⟩

end Effect

/-! ### What an answer says -/

/-- What the answer to a change of a key says of the records before and after it. -/
def Told (s : Store) (now : Instant) (s' : Store) : Change → Answer → Prop
  | .upsert reg, .upserted r outcome =>
      s'.records.get? reg.key = some r ∧ r.addrs = reg.addrs ∧
        r.expiresAt = s.grant now reg.ttl ∧
        (outcome = .refreshed ↔ (s.live? now reg.key).isSome = true)
  | .merge r, .merged true =>
      ∃ r', s'.records.get? r.key = some r' ∧ r'.addrs = r.addrs ∧
        r'.expiresAt = s.cap now r.expiresAt
  | .merge r, .merged false => s'.records.get? r.key = s.records.get? r.key
  | .remove k, .removed found => s.records.get? k = found ∧ s'.records.get? k = none
  | .removeIfNotFresher r, .displaced gone =>
      s'.records.get? r.key =
          (s.records.get? r.key).filter (fun r' => r.expiresAt < r'.expiresAt) ∧
        (gone = true ↔ s'.records.get? r.key ≠ s.records.get? r.key)
  | _, _ => False

/-- **What is answered is so.** -/
theorem Effect.told {answer : Answer} (h : s.Effect now c s' (.ok answer)) :
    s.Told now s' c answer := by
  cases h with
  | registered reg _ =>
      refine ⟨?_, rfl, rfl, ?_⟩
      · rw [get?_records_enter]
        exact if_pos rfl
      · split <;> simp_all
  | adopted r _ =>
      refine ⟨s.adopted now r, ?_, rfl, rfl⟩
      rw [get?_records_enter]
      exact if_pos rfl
  | ignored r => exact rfl
  | missing k hget => exact ⟨hget, hget⟩
  | removed k r _ hget =>
      refine ⟨hget, ?_⟩
      rw [evict_records, Table.get?_erase_self]
  | remembered r hget =>
      rw [Told, bury_records, hget]
      simp
  | displaced r r' _ hget hle =>
      rw [Told, evict_records, Table.get?_erase_self, hget,
        Option.filter_some_neg (by simpa using hle)]
      simp
  | fresher r r' hget hlt =>
      rw [Told, hget, Option.filter_some_pos (by simpa using hlt)]
      simp

end Rendezvous.Store
