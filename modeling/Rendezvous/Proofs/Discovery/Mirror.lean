import Rendezvous.Proofs.Discovery.Convergence

/-!
# Rendezvous.Proofs.Discovery.Mirror

One node is written to, another hears of each change at once. The reader takes over a record
only if it expires later than all that it has heard of the key; the writer always lets the
newest registration count. So the reader shows what the writer shows as long as each
registration *keeps* the order of expiries, and no longer: it expires later than all that was
announced of its key, or repeats the live record, or leaves nothing on either side.

* `Discovery.Replication`, `Discovery.Replication.step`: the two nodes and one change;
* `Discovery.Replication.Sound`: the reader's standings are those of what was announced;
* `Discovery.Replication.mirrors_step_iff`: one change;
* `Discovery.Replication.mirrorsThroughout_iff`: a history.
-/

namespace Rendezvous.Discovery

/-! ### A writer and a reader -/

/-- What is asked of the node that is written to. -/
inductive Wish where
  | register (reg : Registration)
  | unregister (namespaceName : String) (peer : PeerId)
deriving DecidableEq

/-- What becomes of a wish: the store that it leaves and what is announced. -/
def fulfil (s : Store) (now : Instant) : Wish → Store × Option Sync.Announcement
  | .register reg => ((register s now reg).store, (register s now reg).announced)
  | .unregister ns p => ((unregister s now ns p).store, (unregister s now ns p).announced)

/-- Two nodes, one of which tells the other, and what it has told so far. -/
structure Replication where
  origin : String
  writer : Store
  reader : Store
  announced : List Sync.Announcement

namespace Replication

/-- Two empty nodes. -/
def start (origin : String) (maxTtl : Duration) : Replication :=
  ⟨origin, .empty maxTtl, .empty maxTtl, []⟩

/-- The writer has become another store, and the reader is told of the change. -/
def tell (p : Replication) (now : Instant) (writer : Store) (a : Sync.Announcement) :
    Replication :=
  { p with
    writer
    reader := (applyEvent p.reader now (a.toEvent p.origin)).1
    announced := p.announced ++ [a] }

/-- The writer fulfils a wish, and the reader is told. -/
def step (p : Replication) (now : Instant) (w : Wish) : Replication :=
  match fulfil p.writer now w with
  | (s, none) => { p with writer := s }
  | (s, some a) => p.tell now s a

/-- One wish after the other, each at its time. -/
def run (p : Replication) (history : List (Instant × Wish)) : Replication :=
  history.foldl (fun p a => p.step a.1 a.2) p

end Replication

/-- What is compared of a record. -/
def shown (r : Record) : List Multiaddr × Instant := (r.addrs, r.expiresAt)

namespace Replication

/-- Both nodes answer the same for a key. -/
def Mirrors (p : Replication) (now : Instant) (k : Record.Key) : Prop :=
  (p.reader.get now k).map (·.map shown) = (p.writer.get now k).map (·.map shown)

/-- Both nodes answer the same for a key after each step of a history and at any time
since. -/
def MirrorsThroughout (k : Record.Key) : Replication → List (Instant × Wish) → Prop
  | _, [] => True
  | p, (t, w) :: rest =>
    (∀ u, t ≤ u → (p.step t w).Mirrors u k) ∧ MirrorsThroughout k (p.step t w) rest

end Replication

/-- A registration is one that the store accepts. -/
def Accepts (s : Store) (reg : Registration) : Prop :=
  checkNamespace reg.namespaceName = .ok () ∧ checkTtl s reg.ttl = .ok ()

namespace Replication

/-- A registration keeps the order of expiries. -/
inductive Keeps (p : Replication) (now : Instant) (reg : Registration) : Prop
  /-- It expires later than all that was announced of its key. -/
  | later (hahead : now < p.writer.grant now reg.ttl)
    (h : ∀ a ∈ p.announced, a.record.key = reg.key →
      a.record.expiresAt < p.writer.grant now reg.ttl)
  /-- It repeats the live record. -/
  | same (h : (p.writer.live? now reg.key).map shown =
      some (reg.addrs, p.writer.grant now reg.ttl))
  /-- It is granted no time, and no record was live. -/
  | nothing (h : p.writer.grant now reg.ttl ≤ now)
    (hnone : p.writer.live? now reg.key = none)

/-- Each accepted registration of a key in a history keeps the order of expiries. -/
def KeepsThroughout (k : Record.Key) : Replication → List (Instant × Wish) → Prop
  | _, [] => True
  | p, (t, w) :: rest =>
    (∀ reg, w = .register reg → Accepts p.writer reg → reg.key = k → p.Keeps t reg) ∧
      KeepsThroughout k (p.step t w) rest

/-! ### One wish -/

/-- What a step can be. -/
inductive Moves (p : Replication) (now : Instant) : Wish → Replication → Prop
  | stays {w : Wish} (h : ∀ reg, w = .register reg → ¬ Accepts p.writer reg) :
    Moves p now w p
  | registers (reg : Registration) (h : Accepts p.writer reg) :
    Moves p now (.register reg)
      (p.tell now ((p.writer.place now reg.key).2.enter (p.writer.granted now reg))
        (.upsert (p.writer.granted now reg)))
  | unregisters (ns : String) (peer : PeerId) (c : Record)
    (hget : p.writer.records.get? (ns, peer) = some c) :
    Moves p now (.unregister ns peer)
      (p.tell now (p.writer.evict now (ns, peer) c.expiresAt) (.remove c))

variable {p : Replication} {now : Instant}

theorem step_moves (hopen : p.writer.closed = false) (w : Wish) :
    p.Moves now w (p.step now w) := by
  cases w with
  | register reg =>
      by_cases h : Accepts p.writer reg
      · obtain ⟨hns, httl⟩ := h
        have hstep : p.step now (.register reg) =
            p.tell now ((p.writer.place now reg.key).2.enter (p.writer.granted now reg))
              (.upsert (p.writer.granted now reg)) := by
          simp only [step, fulfil, register, hns, httl, Store.upsert_eq hopen]
        rw [hstep]
        exact .registers reg ⟨hns, httl⟩
      · have hstep : p.step now (.register reg) = p := by
          unfold Accepts at h
          simp only [step, fulfil, register]
          cases hns : checkNamespace reg.namespaceName with
          | error e => rfl
          | ok _ =>
              cases httl : checkTtl p.writer reg.ttl with
              | error e => rfl
              | ok _ => exact absurd ⟨hns, httl⟩ h
        rw [hstep]
        refine .stays fun reg' he => ?_
        cases he
        exact h
  | unregister ns peer =>
      have hrefused (hstep : p.step now (.unregister ns peer) = p) :
          p.Moves now (.unregister ns peer) (p.step now (.unregister ns peer)) := by
        rw [hstep]
        exact .stays (fun _ he => by cases he)
      cases hns : checkNamespace ns with
      | error e =>
          refine hrefused ?_
          simp only [step, fulfil, unregister, hns]
          rfl
      | ok _ =>
          cases hget : p.writer.records.get? (ns, peer) with
          | none =>
              refine hrefused ?_
              simp only [step, fulfil, unregister, hns, Store.remove_eq hopen, hget]
              rfl
          | some c =>
              have hstep : p.step now (.unregister ns peer) =
                  p.tell now (p.writer.evict now (ns, peer) c.expiresAt) (.remove c) := by
                simp only [step, fulfil, unregister, hns, Store.remove_eq hopen, hget]
                rfl
              rw [hstep]
              exact .unregisters ns peer c hget

/-! ### What the reader has heard -/

/-- The rank of an announcement. -/
def rank : Sync.Announcement → Rank
  | .upsert r => .record r.expiresAt
  | .remove r => .removal r.expiresAt

theorem rank_expiry (a : Sync.Announcement) : (ofLex (rank a)).1 = a.record.expiresAt := by
  cases a <;> rfl

theorem rank_lt_record {a : Sync.Announcement} {e : Instant} :
    rank a < Rank.record e ↔ a.record.expiresAt < e := by
  cases a with
  | upsert r => exact Rank.record_lt_record
  | remove r => exact Rank.removal_lt_record

/-- What an announcement counts for on a key at a time. -/
def said (now : Instant) (k : Record.Key) (a : Sync.Announcement) : Standing :=
  if a.record.key = k then Standing.ifAhead now a.record.expiresAt (rank a) else ⊥

theorem after_said {t u : Instant} (h : t ≤ u) (k : Record.Key) (a : Sync.Announcement) :
    (said t k a).after u = said u k a := by
  unfold said
  by_cases hk : a.record.key = k
  · rw [if_pos hk, if_pos hk, Standing.after_ifAhead h (rank_expiry a)]
  · rw [if_neg hk, if_neg hk, Standing.after_bot]

/-- A store that believes the expiry of a registration takes an announcement at its word. -/
theorem claimOn_toEvent {s : Store} (origin : String) (k : Record.Key)
    {a : Sync.Announcement}
    (hcap : ∀ r, a = .upsert r → s.cap now r.expiresAt = r.expiresAt) :
    claimOn s now k (a.toEvent origin) = said now k a := by
  cases a with
  | upsert r =>
      show (if r.key = k then Standing.ifAhead now (s.cap now r.expiresAt)
        (Rank.record (s.cap now r.expiresAt)) else ⊥) = _
      rw [hcap r rfl]
      rfl
  | remove r => rfl

/-- A record ranks above an announcement of its key if it expires later. -/
theorem said_lt_record_iff {e : Instant} (hahead : now < e) (k : Record.Key)
    (a : Sync.Announcement) :
    said now k a < (Rank.record e : Standing) ↔
      (a.record.key = k → a.record.expiresAt < e) := by
  unfold said
  by_cases hk : a.record.key = k
  · rw [if_pos hk]
    by_cases ha : now < a.record.expiresAt
    · rw [Standing.ifAhead_of_lt ha, WithBot.coe_lt_coe, rank_lt_record]
      exact ⟨fun h _ => h, fun h => h hk⟩
    · have hle : a.record.expiresAt ≤ now := Nat.not_lt.1 ha
      rw [Standing.ifAhead_of_le hle]
      exact iff_of_true (WithBot.bot_lt_coe _) fun _ => Nat.lt_of_le_of_lt hle hahead
  · rw [if_neg hk]
    exact iff_of_true (WithBot.bot_lt_coe _) fun h => absurd h hk

/-- Both stores are open and in order, and what the reader knows of each key is the greatest
of what was announced of it. -/
structure Sound (p : Replication) (now : Instant) : Prop where
  writer_open : p.writer.closed = false
  reader_open : p.reader.closed = false
  same_cap : p.reader.maxTtl = p.writer.maxTtl
  writer_wellFormed : p.writer.WellFormed
  reader_wellFormed : p.reader.WellFormed
  heard : ∀ u, now ≤ u → ∀ k,
    p.reader.standing u k = p.announced.toFinset.sup (said u k)

theorem Sound.mono (hp : p.Sound now) {u : Instant} (h : now ≤ u) : p.Sound u :=
  { hp with heard := fun u' hu => hp.heard u' (Nat.le_trans h hu) }

theorem Sound.start (origin : String) (maxTtl : Duration) (now : Instant) :
    (start origin maxTtl).Sound now where
  writer_open := rfl
  reader_open := rfl
  same_cap := rfl
  writer_wellFormed := .empty maxTtl
  reader_wellFormed := .empty maxTtl
  heard _ _ _ := rfl

/-- Telling of a change that the reader takes at its word. -/
theorem Sound.tell (hp : p.Sound now) {writer : Store} {a : Sync.Announcement}
    (hopen : writer.closed = false) (hmax : writer.maxTtl = p.writer.maxTtl)
    (hwriter : writer.WellFormed)
    (hword : ∀ r, a = .upsert r → p.reader.cap now r.expiresAt = r.expiresAt) :
    (p.tell now writer a).Sound now := by
  have hsep := hp.reader_wellFormed.separate
  obtain ⟨hclosed, hcap⟩ := applyEvent_frame p.reader now (a.toEvent p.origin)
  refine ⟨hopen, hclosed.trans hp.reader_open, ?_, hwriter,
    applyEvent_wellFormed hp.reader_wellFormed _, fun u hu k => ?_⟩
  · exact hcap.trans (hp.same_cap.trans hmax.symm)
  · show (applyEvent p.reader now (a.toEvent p.origin)).1.standing u k =
      (p.announced ++ [a]).toFinset.sup (said u k)
    rw [Store.standing_of_le (applyEvent_separate hsep _) hu,
      standing_applyEvent hp.reader_open hsep, Standing.after_sup, claimOn_toEvent _ _ hword,
      after_said hu, ← Store.standing_of_le hsep hu, hp.heard u hu, List.toFinset_append,
      Finset.sup_union]
    simp

/-- What a writer grants, a reader with the same cap believes. -/
theorem cap_grant {s s' : Store} (h : s'.maxTtl = s.maxTtl) (hfits : s.maxTtl.millis < 2 ^ 64)
    (now : Instant) (ttl : Duration) : s'.cap now (s.grant now ttl) = s.grant now ttl := by
  have hle : (ttl.min s.maxTtl).millis ≤ s.maxTtl.millis := by
    unfold Duration.millis
    rw [Duration.nanos_min]
    exact Nat.div_le_div_right (Nat.min_le_right _ _)
  have hmillis : Store.clockMillis (ttl.min s.maxTtl) ≤ Store.clockMillis s.maxTtl := by
    unfold Store.clockMillis
    have hbound : s.maxTtl.millis < Nat.pow 2 64 := hfits
    rw [Nat.mod_eq_of_lt (Nat.lt_of_le_of_lt hle hbound), Nat.mod_eq_of_lt hbound]
    exact hle
  unfold Store.cap Store.grant
  rw [h]
  refine Nat.min_eq_left ?_
  unfold Instant.add
  refine Nat.le_min.2 ⟨Nat.min_le_left _ _, Nat.le_trans (Nat.min_le_right _ _) ?_⟩
  exact Nat.add_le_add_left hmillis now

/-- No step leads out of the sound replications. -/
theorem Sound.step (hp : p.Sound now) (hfits : p.writer.maxTtl.millis < 2 ^ 64) (w : Wish) :
    (p.step now w).Sound now ∧ (p.step now w).writer.maxTtl = p.writer.maxTtl := by
  have hmoves : p.Moves now w (p.step now w) := step_moves hp.writer_open w
  revert hmoves
  generalize p.step now w = q
  intro hmoves
  cases hmoves with
  | stays _ => exact ⟨hp, rfl⟩
  | registers reg _ =>
      have hmax : ((p.writer.place now reg.key).2.enter (p.writer.granted now reg)).maxTtl =
          p.writer.maxTtl := by
        rw [Store.enter_maxTtl, Store.place_maxTtl]
      refine ⟨hp.tell ?_ hmax ((hp.writer_wellFormed.place now reg.key).enter _) ?_, hmax⟩
      · rw [Store.enter_closed, Store.place_closed, hp.writer_open]
      · intro r hr
        cases hr
        exact cap_grant hp.same_cap hfits now reg.ttl
  | unregisters ns peer c hget =>
      have hmax := Store.evict_maxTtl p.writer now (ns, peer) c.expiresAt
      refine ⟨hp.tell ?_ hmax (hp.writer_wellFormed.evict now _ _) ?_, hmax⟩
      · rw [Store.evict_closed, hp.writer_open]
      · intro r hr
        cases hr

/-- The reader takes over a record if it expires later than all that was announced of its
key. -/
theorem Sound.outlives_iff (hp : p.Sound now) {k : Record.Key} {e : Instant} :
    p.reader.Outlives now k e ↔
      now < e ∧ ∀ a ∈ p.announced, a.record.key = k → a.record.expiresAt < e := by
  rw [Store.outlives_iff hp.reader_wellFormed.separate, hp.heard now (Nat.le_refl _)]
  by_cases he : now < e
  · rw [Standing.ifAhead_of_lt he, Finset.sup_lt_iff (WithBot.bot_lt_coe _)]
    simp only [List.mem_toFinset, said_lt_record_iff he, he, true_and]
  · rw [Standing.ifAhead_of_le (Nat.not_lt.1 he)]
    exact iff_of_false not_lt_bot fun h => he h.1

/-! ### What both show -/

variable {k : Record.Key}

theorem Sound.mirrors_iff (hp : p.Sound now) {u : Instant} :
    p.Mirrors u k ↔
      (p.reader.live? u k).map shown = (p.writer.live? u k).map shown := by
  simp [Mirrors, Store.get, hp.reader_open, hp.writer_open, Except.map]

/-- What is shown later is what was shown before and has not expired. -/
theorem shown_of_le {s : Store} {u : Instant} (h : now ≤ u) :
    (s.live? u k).map shown = ((s.live? now k).map shown).filter (u < ·.2) := by
  cases hget : s.records.get? k with
  | none => simp [Store.live?, hget]
  | some r =>
      rw [Store.live?_of_get? hget, Store.live?_of_get? hget]
      by_cases hu : r.expiresAt ≤ u
      · by_cases hn : r.expiresAt ≤ now
        · rw [if_pos hu, if_pos hn, Option.map_none, Option.filter_none]
        · have hlate : decide (u < (shown r).2) = false := decide_eq_false (Nat.not_lt.2 hu)
          rw [if_pos hu, if_neg hn, Option.map_none, Option.map_some, Option.filter, hlate]
          rfl
      · have hn : ¬ r.expiresAt ≤ now := fun hn => hu (Nat.le_trans hn h)
        have hahead : decide (u < (shown r).2) = true := decide_eq_true (Nat.not_le.1 hu)
        rw [if_neg hu, if_neg hn, Option.map_some, Option.filter, hahead]
        rfl

theorem Sound.mirrors_mono (hp : p.Sound now) (h : p.Mirrors now k) {u : Instant}
    (hu : now ≤ u) : p.Mirrors u k := by
  rw [hp.mirrors_iff] at h ⊢
  rw [shown_of_le hu, shown_of_le hu, h]

/-- What a store shows of a key under which a record has just been entered. -/
theorem shown_enter (now : Instant) (s : Store) (r : Record) :
    ((s.enter r).live? now r.key).map shown =
      if now < r.expiresAt then some (shown r) else none := by
  have hget : (s.enter r).records.get? r.key = some r := by
    rw [Store.get?_records_enter, if_pos rfl]
  rw [Store.live?_of_get? hget]
  by_cases h : now < r.expiresAt
  · rw [if_pos h, if_neg (Nat.not_le.2 h), Option.map_some]
  · rw [if_neg h, if_pos (Nat.not_lt.1 h), Option.map_none]

/-- A key that a removal names is live no longer, unless its record expires later. -/
theorem live?_removeIfNotFresher {s : Store} (hopen : s.closed = false) {r : Record}
    (h : ∀ c, s.live? now r.key = some c → c.expiresAt ≤ r.expiresAt) :
    (s.removeIfNotFresher now r).1.live? now r.key = none := by
  rw [Store.removeIfNotFresher_eq hopen]
  cases hget : s.records.get? r.key with
  | none => simp [Store.live?, hget]
  | some c =>
      by_cases hle : c.expiresAt ≤ r.expiresAt
      · simp [hle, Store.live?, Table.get?_erase]
      · simp only [if_neg hle]
        rw [Store.live?_eq_none_iff]
        intro c' hc'
        rw [hget] at hc'
        cases hc'
        by_contra hlt
        exact hle (h c (Store.live?_eq_some_iff.2 ⟨hget, Nat.not_le.1 hlt⟩))

/-- Telling of a change of another key changes nothing that is shown. -/
theorem Sound.mirrors_tell_of_ne (hp : p.Sound now) {writer : Store} {a : Sync.Announcement}
    (hq : (p.tell now writer a).Sound now) (hk : a.record.key ≠ k)
    (hwriter : writer.records.get? k = p.writer.records.get? k) :
    (p.tell now writer a).Mirrors now k ↔ p.Mirrors now k := by
  rw [hq.mirrors_iff, hp.mirrors_iff]
  have hreader : (p.tell now writer a).reader.live? now k = p.reader.live? now k := by
    refine Store.live?_congr (get?_applyEvent_of_ne p.reader now ?_)
    cases a <;> exact hk
  rw [hreader]
  show _ = (writer.live? now k).map shown ↔ _
  rw [Store.live?_congr hwriter]

/-- Where the reader does not take a registration over, it keeps the order of expiries just if
the writer shows of the key what it showed before. -/
theorem Sound.keeps_iff_of_not_outlives (hp : p.Sound now) {reg : Registration}
    (hno : ¬ p.reader.Outlives now reg.key (p.writer.grant now reg.ttl)) :
    p.Keeps now reg ↔ (p.writer.live? now reg.key).map shown =
      if now < p.writer.grant now reg.ttl
        then some (reg.addrs, p.writer.grant now reg.ttl) else none := by
  rw [hp.outlives_iff] at hno
  by_cases hahead : now < p.writer.grant now reg.ttl
  · rw [if_pos hahead]
    refine ⟨fun hkeeps => ?_, .same⟩
    cases hkeeps with
    | later _ h => exact absurd ⟨hahead, h⟩ hno
    | same h => exact h
    | nothing h _ => exact absurd hahead (Nat.not_lt.2 h)
  · rw [if_neg hahead, Option.map_eq_none_iff]
    refine ⟨fun hkeeps => ?_, .nothing (Nat.not_lt.1 hahead)⟩
    cases hkeeps with
    | later h _ => exact absurd h hahead
    | same h =>
        -- What is live expires later than now, which the grant does not.
        obtain ⟨c, hc, hshown⟩ := Option.map_eq_some_iff.1 h
        have hexp : c.expiresAt = p.writer.grant now reg.ttl := congrArg Prod.snd hshown
        have hlt := (Store.live?_eq_some_iff.1 hc).2
        rw [hexp] at hlt
        exact absurd hlt hahead
    | nothing _ hnone => exact hnone

/-- A registration of a key on which both agreed leaves them in agreement just if it keeps the
order of expiries. -/
theorem Sound.mirrors_register_iff (hp : p.Sound now) (reg : Registration)
    (hq : (p.tell now ((p.writer.place now reg.key).2.enter (p.writer.granted now reg))
      (.upsert (p.writer.granted now reg))).Sound now)
    (hfits : p.writer.maxTtl.millis < 2 ^ 64) (hm : p.Mirrors now reg.key) :
    (p.tell now ((p.writer.place now reg.key).2.enter (p.writer.granted now reg))
      (.upsert (p.writer.granted now reg))).Mirrors now reg.key ↔ p.Keeps now reg := by
  have hcap : p.reader.cap now (p.writer.granted now reg).expiresAt =
      p.writer.grant now reg.ttl := cap_grant hp.same_cap hfits now reg.ttl
  rw [hp.mirrors_iff] at hm
  rw [hq.mirrors_iff]
  show ((p.reader.merge now (p.writer.granted now reg)).1.live? now reg.key).map shown =
    (((p.writer.place now reg.key).2.enter (p.writer.granted now reg)).live? now
      (p.writer.granted now reg).key).map shown ↔ _
  rw [shown_enter]
  rcases Store.merge_cases hp.reader_open now (p.writer.granted now reg) with
    ⟨hno, he⟩ | ⟨ho, he⟩
  · -- The reader keeps what it has, which is what the writer had before.
    rw [hcap] at hno
    rw [he, hm, hp.keeps_iff_of_not_outlives hno]
    rfl
  · -- The reader takes the record over.
    rw [hcap] at ho
    obtain ⟨hahead, hlater⟩ := hp.outlives_iff.1 ho
    refine iff_of_true ?_ (.later hahead hlater)
    have hshown : shown (p.reader.adopted now (p.writer.granted now reg)) =
        shown (p.writer.granted now reg) := congrArg (Prod.mk reg.addrs) hcap
    have hexp : (p.reader.adopted now (p.writer.granted now reg)).expiresAt =
        (p.writer.granted now reg).expiresAt := hcap
    have hreader := shown_enter now
      (p.reader.place now (p.writer.granted now reg).key).2
      (p.reader.adopted now (p.writer.granted now reg))
    rw [Store.adopted_key, Store.granted_key, hshown, hexp] at hreader
    rw [he]
    exact hreader

/-- A removal on which both agreed leaves them in agreement. -/
theorem Sound.mirrors_unregister (hp : p.Sound now) {c : Record}
    (hget : p.writer.records.get? k = some c)
    (hq : (p.tell now (p.writer.evict now k c.expiresAt) (.remove c)).Sound now)
    (hm : p.Mirrors now k) :
    (p.tell now (p.writer.evict now k c.expiresAt) (.remove c)).Mirrors now k := by
  have hk : c.key = k := hp.writer_wellFormed.filed k c hget
  rw [hp.mirrors_iff] at hm
  rw [hq.mirrors_iff]
  have hwriter : (p.writer.evict now k c.expiresAt).live? now k = none := by
    simp [Store.live?, Table.get?_erase]
  have hreader : (p.reader.removeIfNotFresher now c).1.live? now k = none := by
    subst hk
    refine live?_removeIfNotFresher hp.reader_open fun c' hc' => ?_
    rw [hc', Option.map_some] at hm
    obtain ⟨c'', hc'', hshown⟩ := Option.map_eq_some_iff.1 hm.symm
    rw [(Store.live?_eq_some_iff.1 hc'').1] at hget
    cases hget
    exact Nat.le_of_eq (congrArg Prod.snd hshown).symm
  show ((p.reader.removeIfNotFresher now c).1.live? now k).map shown =
    ((p.writer.evict now k c.expiresAt).live? now k).map shown
  rw [hwriter, hreader]

/-- **One change.** Where both nodes agree on a key, they agree on it after a wish just if the
wish is no accepted registration of that key that breaks the order of expiries. -/
theorem Sound.mirrors_step_iff (hp : p.Sound now) (hfits : p.writer.maxTtl.millis < 2 ^ 64)
    (hm : p.Mirrors now k) (w : Wish) :
    (p.step now w).Mirrors now k ↔
      ∀ reg, w = .register reg → Accepts p.writer reg → reg.key = k → p.Keeps now reg := by
  have hq := (hp.step hfits w).1
  have hmoves : p.Moves now w (p.step now w) := step_moves hp.writer_open w
  revert hq hmoves
  generalize p.step now w = q
  intro hq hmoves
  cases hmoves with
  | stays h => exact iff_of_true hm fun reg he ha => absurd ha (h reg he)
  | registers reg hacc =>
      by_cases hk : reg.key = k
      · subst hk
        rw [hp.mirrors_register_iff reg hq hfits hm]
        refine ⟨fun h reg' he _ _ => ?_, fun h => h reg rfl hacc rfl⟩
        cases he
        exact h
      · rw [hp.mirrors_tell_of_ne hq hk ?_]
        · refine iff_of_true hm fun reg' he _ hk' => ?_
          cases he
          exact absurd hk' hk
        · have hne : k ≠ (p.writer.granted now reg).key := Ne.symm hk
          exact ((p.writer.sameAt_place now).trans (Store.sameAt_enter _ hne)).record
  | unregisters ns peer c hget =>
      refine iff_of_true ?_ fun reg he => by cases he
      by_cases hk : (ns, peer) = k
      · subst hk
        exact hp.mirrors_unregister hget hq hm
      · have hck : c.key = (ns, peer) := hp.writer_wellFormed.filed _ c hget
        refine (hp.mirrors_tell_of_ne hq (hck ▸ hk) ?_).2 hm
        exact (p.writer.sameAt_evict now (Ne.symm hk) _).record

/-! ### A history -/

theorem run_cons (p : Replication) (a : Instant × Wish) (rest : List (Instant × Wish)) :
    p.run (a :: rest) = (p.step a.1 a.2).run rest := rfl

theorem Sound.run (hp : p.Sound now) (hfits : p.writer.maxTtl.millis < 2 ^ 64) {u : Instant}
    {history : List (Instant × Wish)} (hclock : ClockRuns now history u) :
    (p.run history).Sound u := by
  induction history generalizing p now with
  | nil => exact hp.mono hclock
  | cons a rest ih =>
      obtain ⟨hp', hmax⟩ := (hp.mono hclock.1).step hfits a.2
      rw [run_cons]
      exact ih hp' (by rw [hmax]; exact hfits) hclock.2

/-- From where both nodes agree on a key, they agree throughout just if each registration of
it keeps the order of expiries. -/
theorem Sound.mirrorsThroughout_iff (hp : p.Sound now)
    (hfits : p.writer.maxTtl.millis < 2 ^ 64) (hm : p.Mirrors now k) {u : Instant}
    {history : List (Instant × Wish)} (hclock : ClockRuns now history u) :
    MirrorsThroughout k p history ↔ KeepsThroughout k p history := by
  induction history generalizing p now with
  | nil => exact Iff.rfl
  | cons a rest ih =>
      obtain ⟨t, w⟩ := a
      obtain ⟨hle, hclock'⟩ := hclock
      have hpt := hp.mono hle
      obtain ⟨hp', hmax⟩ := hpt.step hfits w
      have hstep := hpt.mirrors_step_iff hfits (hp.mirrors_mono hm hle) w
      have hrest (hm' : (p.step t w).Mirrors t k) :=
        ih hp' (by rw [hmax]; exact hfits) hm' hclock'
      constructor
      · intro h
        have hm' : (p.step t w).Mirrors t k := h.1 t (Nat.le_refl t)
        exact ⟨hstep.1 hm', (hrest hm').1 h.2⟩
      · intro h
        have hm' : (p.step t w).Mirrors t k := hstep.2 h.1
        exact ⟨fun u hu => hp'.mirrors_mono hm' hu, (hrest hm').2 h.2⟩

/-- Both nodes still agree when all is done. -/
theorem Sound.mirrors_run (hp : p.Sound now) (hfits : p.writer.maxTtl.millis < 2 ^ 64)
    (hm : p.Mirrors now k) {u : Instant} {history : List (Instant × Wish)}
    (hclock : ClockRuns now history u) (h : KeepsThroughout k p history) :
    (p.run history).Mirrors u k := by
  induction history generalizing p now with
  | nil => exact hp.mirrors_mono hm hclock
  | cons a rest ih =>
      obtain ⟨t, w⟩ := a
      obtain ⟨hle, hclock'⟩ := hclock
      have hpt := hp.mono hle
      obtain ⟨hp', hmax⟩ := hpt.step hfits w
      have hm' := (hpt.mirrors_step_iff hfits (hp.mirrors_mono hm hle) w).2 h.1
      rw [run_cons]
      exact ih hp' (by rw [hmax]; exact hfits) hm' hclock' h.2

/-- **A reader mirrors a writer that keeps the order of expiries, and no other.** From empty
stores, over a clock that does not go back, both nodes answer the same for a key after each
step and ever since if and only if each accepted registration of the key keeps the order of
expiries. What the writer no longer has the reader then does not list. -/
theorem mirrorsThroughout_iff_keepsThroughout (origin : String) {maxTtl : Duration}
    (hfits : maxTtl.millis < 2 ^ 64) {t u : Instant} {history : List (Instant × Wish)}
    (hclock : ClockRuns t history u) (k : Record.Key) :
    (MirrorsThroughout k (start origin maxTtl) history ↔
      KeepsThroughout k (start origin maxTtl) history) ∧
    (KeepsThroughout k (start origin maxTtl) history →
      ∀ u', u ≤ u' → ((start origin maxTtl).run history).writer.get u' k = .ok none →
        ∀ ns limit cursor page,
          ((start origin maxTtl).run history).reader.query u' ns limit cursor = .ok page →
          ∀ r ∈ page.records, r.key ≠ k) := by
  have hp : (start origin maxTtl).Sound t := .start origin maxTtl t
  have hm : (start origin maxTtl).Mirrors t k := rfl
  refine ⟨hp.mirrorsThroughout_iff hfits hm hclock, fun hkeeps u' hu hnone => ?_⟩
  intro ns limit cursor page hquery r hr hk
  have hq := hp.run hfits hclock
  have hmirrors := hq.mirrors_mono (hp.mirrors_run hfits hm hclock hkeeps) hu
  have hlive := hq.reader_wellFormed.live_of_mem_page hquery hr
  rw [hk] at hlive
  unfold Mirrors at hmirrors
  rw [hnone, Store.get, if_neg (by simp [hq.reader_open]), hlive] at hmirrors
  cases hmirrors

/-- The registration of one peer under one namespace. -/
def chatRegistration (address seconds : Nat) : Registration :=
  ⟨"chat", default, [[.memory address]], .ofSecs seconds⟩

/-- A registration that is renewed, repeated, removed and made anew for longer. -/
def chatRenewals : List (Instant × Wish) :=
  [(0, .register (chatRegistration 1 60)), (1000, .register (chatRegistration 2 60)),
    (1000, .register (chatRegistration 2 60)), (2000, .unregister "chat" default),
    (3000, .register (chatRegistration 3 90)), (4000, .unregister "chat" default)]

theorem mirrorsThroughout_renewals :
    Registration.maxTtl.millis < 2 ^ 64 ∧ ClockRuns 0 chatRenewals 4000 ∧
    MirrorsThroughout ("chat", default) (start "a" Registration.maxTtl) chatRenewals ∧
    ∀ ns limit cursor page,
      ((start "a" Registration.maxTtl).run chatRenewals).reader.query 5000 ns limit cursor =
        .ok page → ∀ r ∈ page.records, r.key ≠ ("chat", default) := by
  have hfits : Registration.maxTtl.millis < 2 ^ 64 := by decide
  have hclock : ClockRuns 0 chatRenewals 4000 := by simp [ClockRuns, chatRenewals]
  obtain ⟨hiff, hlisted⟩ := mirrorsThroughout_iff_keepsThroughout "a" hfits hclock
    ("chat", default)
  have hkeeps : KeepsThroughout ("chat", default) (start "a" Registration.maxTtl)
      chatRenewals := by
    refine ⟨?_, ?_, ?_, fun _ he => (by cases he), ?_, fun _ he => (by cases he), trivial⟩
    · intro reg he _ _
      cases he
      exact .later (by decide) (by decide)
    · intro reg he _ _
      cases he
      exact .later (by decide) (by decide)
    · intro reg he _ _
      cases he
      exact .same (by decide)
    · intro reg he _ _
      cases he
      exact .later (by decide) (by decide)
  exact ⟨hfits, hclock, hiff.2 hkeeps, hlisted hkeeps 5000 (by decide) rfl⟩

/-- A registration that is made anew for a shorter time, and then removed. -/
def chatShortening : List (Instant × Wish) :=
  [(0, .register (chatRegistration 1 7200)), (0, .register (chatRegistration 2 60)),
    (1, .unregister "chat" default)]

theorem shortened_registration_not_mirrored :
    ClockRuns 0 chatShortening 1 ∧
    ¬ MirrorsThroughout ("chat", default) (start "a" Registration.maxTtl) chatShortening ∧
    ((start "a" Registration.maxTtl).run chatShortening).writer.get 1 ("chat", default) =
      .ok none ∧
    ((start "a" Registration.maxTtl).run chatShortening).reader.get 1 ("chat", default) =
      .ok (some ⟨"chat", default, [[.memory 1]], 7200000, 1⟩) := by
  refine ⟨by simp [ClockRuns, chatShortening], fun h => ?_, rfl, rfl⟩
  have hm := h.2.2.1 1 (Nat.le_refl 1)
  cases hm

end Replication

end Rendezvous.Discovery
