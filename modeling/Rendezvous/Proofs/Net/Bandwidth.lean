import Mathlib.Algebra.Ring.Nat
import Mathlib.Data.List.Induction
import Rendezvous.Net.Bandwidth
import Rendezvous.Proofs.Data.Table

/-!
# Rendezvous.Proofs.Net.Bandwidth

Bytes are neither lost nor counted twice. The peers with a place in the table are those that came
first, as many as the table holds; a peer that comes when it is full never gets a place, so all
its bytes are among those of the others.

* `Traffic`, `Traffic.total`: what was moved, and the sum of it that is of some kind;
* `Traffic.named`, `Traffic.placed`: the peers in the order in which they came, and the first;
* `Bandwidth.Accounts`: what the counters of peers say of what was moved;
* `Bandwidth.Summed.record`, `Bandwidth.summed_recordAll`: they say it after one thing more, and
  after all;
* `Bandwidth.accounts_exact`: the books balance.
-/

namespace Rendezvous

/-- Bytes that were moved over a connection, whose peer may be unknown. -/
structure Traffic where
  direction : Direction
  peer : Option String
  bytes : Nat
deriving Repr, DecidableEq

namespace Traffic

/-- The bytes of something moved, as far as it is of a direction and of some peers. -/
def share (d : Direction) (who : Option String → Bool) (m : Traffic) : Nat :=
  if m.direction = d ∧ who m.peer = true then m.bytes else 0

/-- The bytes that were moved in a direction, as far as they are of some peers. -/
def total (d : Direction) (who : Option String → Bool) (ms : List Traffic) : Nat :=
  (ms.map (share d who)).sum

/-- The peers that were named, each once, in the order in which they came. -/
def named (ms : List Traffic) : List String := (ms.filterMap peer).eraseDups

/-- The first of them, as many as there are places. -/
def placed (limit : Nat) (ms : List Traffic) : List String := (named ms).take limit

variable {d : Direction} {who who' : Option String → Bool} {ms : List Traffic} {m : Traffic}
  {limit : Nat}

/-! ### Sums -/

theorem total_snoc (d : Direction) (who : Option String → Bool) (ms : List Traffic) (m : Traffic) :
    total d who (ms ++ [m]) = total d who ms + share d who m := by
  simp [total]

theorem share_of_true (who : Option String → Bool) (h : who m.peer = true) :
    share d who m = share d (fun _ => true) m := by
  simp [share, h]

theorem share_of_false (who : Option String → Bool) (h : who m.peer = false) :
    share d who m = 0 := by
  simp [share, h]

/-- What is not of the kind does not change the sum. -/
theorem total_snoc_of_false (h : who m.peer = false) (ms : List Traffic) :
    total d who (ms ++ [m]) = total d who ms := by
  rw [total_snoc, share_of_false who h, Nat.add_zero]

theorem share_le (d : Direction) (who : Option String → Bool) (m : Traffic) :
    share d who m ≤ share d (fun _ => true) m := by
  unfold share
  split <;> split <;> simp_all

theorem total_le (d : Direction) (who : Option String → Bool) (ms : List Traffic) :
    total d who ms ≤ total d (fun _ => true) ms := by
  induction ms with
  | nil => exact Nat.le_refl 0
  | cons m ms ih =>
      simp only [total, List.map_cons, List.sum_cons] at ih ⊢
      exact Nat.add_le_add (share_le d who m) ih

theorem total_none (d : Direction) (ms : List Traffic) : total d (fun _ => false) ms = 0 := by
  induction ms with
  | nil => rfl
  | cons m ms ih => simpa [total, share] using ih

theorem total_congr (h : ∀ m ∈ ms, who m.peer = who' m.peer) :
    total d who ms = total d who' ms := by
  refine congrArg List.sum (List.map_congr_left fun m hm => ?_)
  rw [share, share, h m hm]

/-! ### Who came first -/

theorem mem_named {p : String} : p ∈ named ms ↔ ∃ m ∈ ms, m.peer = some p := by
  rw [named, List.mem_eraseDups, List.mem_filterMap]

/-- A peer that is named again comes nowhere, a new one comes last. -/
theorem named_snoc {p : String} (hp : m.peer = some p) (ms : List Traffic) :
    named (ms ++ [m]) = if p ∈ named ms then named ms else named ms ++ [p] := by
  have hnew : (ms ++ [m]).filterMap peer = ms.filterMap peer ++ [p] := by
    simp [hp]
  rw [named, hnew, List.eraseDups_append, ← named]
  by_cases hmem : p ∈ named ms
  · have hold : [p].removeAll (ms.filterMap peer) = [] := by
      simpa [List.removeAll] using mem_named.1 hmem
    rw [if_pos hmem, hold, List.eraseDups_nil, List.append_nil]
  · have hlast : [p].removeAll (ms.filterMap peer) = [p] := by
      simpa [List.removeAll] using mt mem_named.2 hmem
    rw [if_neg hmem, hlast]
    rfl

theorem named_snoc_none (hp : m.peer = none) (ms : List Traffic) :
    named (ms ++ [m]) = named ms := by
  simp [named, hp]

/-- Those who came first stay the first, and who comes later gets what places are left. -/
theorem placed_append (limit : Nat) (before after : List Traffic) :
    placed limit (before ++ after) = placed limit before ++
      ((after.filterMap peer).removeAll (before.filterMap peer)).eraseDups.take
        (limit - (named before).length) := by
  rw [placed, placed, named, named, List.filterMap_append, List.eraseDups_append,
    List.take_append]

/-- Whether a peer has a place is settled when it comes. -/
theorem mem_placed_append {p : String} {before : List Traffic} (hp : p ∈ named before)
    (after : List Traffic) :
    p ∈ placed limit (before ++ after) ↔ p ∈ placed limit before := by
  rw [placed_append, List.mem_append]
  refine ⟨fun hmem => ?_, .inl⟩
  obtain hmem | hmem := hmem
  · exact hmem
  · -- A place was left behind all who came before.
    have hroom : limit - (named before).length ≠ 0 := by
      intro hnone
      rw [hnone, List.take_zero] at hmem
      cases hmem
    rw [placed, List.take_of_length_le (by omega)]
    exact hp

/-- Where all places are taken, nobody gets one. -/
theorem placed_snoc_of_full (hfull : limit ≤ (placed limit ms).length) (m : Traffic) :
    placed limit (ms ++ [m]) = placed limit ms := by
  have hnone : limit - (named ms).length = 0 := by
    rw [placed, List.length_take] at hfull
    omega
  rw [placed_append, hnone, List.take_zero, List.append_nil]

/-- Where there is a place, whoever came has one, and a new peer gets the next. -/
theorem placed_snoc_of_room (hroom : (placed limit ms).length < limit) {p : String}
    (hp : m.peer = some p) (hnew : p ∉ placed limit ms) :
    placed limit ms = named ms ∧ placed limit (ms ++ [m]) = placed limit ms ++ [p] := by
  have hfew : (named ms).length < limit := by
    rw [placed, List.length_take] at hroom
    omega
  have hall : placed limit ms = named ms := List.take_of_length_le (Nat.le_of_lt hfew)
  rw [hall] at hnew
  refine ⟨hall, ?_⟩
  rw [hall, placed, named_snoc hp, if_neg hnew]
  refine List.take_of_length_le ?_
  rw [List.length_append]
  exact hfew

/-- Who has a place changes nothing by being named again. -/
theorem placed_snoc_of_mem {p : String} (hp : m.peer = some p) (hmem : p ∈ placed limit ms) :
    placed limit (ms ++ [m]) = placed limit ms := by
  rw [placed, named_snoc hp, if_pos (List.mem_of_mem_take hmem), placed]

end Traffic

namespace Bandwidth

/-- Counts one thing after the other. -/
def recordAll (b : Bandwidth) (ms : List Traffic) : Bandwidth :=
  ms.foldl (fun b m => b.record m.direction m.peer m.bytes) b

theorem recordAll_snoc (b : Bandwidth) (ms : List Traffic) (m : Traffic) :
    b.recordAll (ms ++ [m]) = (b.recordAll ms).record m.direction m.peer m.bytes := by
  rw [recordAll, List.foldl_append]
  rfl

/-- What is counted is added to the sum of all and, if the peer is known, to what is counted of
it, to that of a new peer, or to that of the others. -/
theorem record_cases (b : Bandwidth) (m : Traffic) :
    let total := b.total.add m.bytes m.direction
    (m.peer = none ∧ b.record m.direction m.peer m.bytes = { b with total }) ∨
    (∃ p t, m.peer = some p ∧ b.peers.get? p = some t ∧
      b.record m.direction m.peer m.bytes =
        { b with total, peers := b.peers.insert p (t.add m.bytes m.direction) }) ∨
    (∃ p, m.peer = some p ∧ b.peers.get? p = none ∧ b.peers.length < b.peerLimit ∧
      b.record m.direction m.peer m.bytes =
        { b with total, peers := b.peers.insert p (Totals.zero.add m.bytes m.direction) }) ∨
    (∃ p, m.peer = some p ∧ b.peers.get? p = none ∧ b.peerLimit ≤ b.peers.length ∧
      b.record m.direction m.peer m.bytes =
        { b with total, other := b.other.add m.bytes m.direction }) := by
  intro total
  cases hp : m.peer with
  | none => exact .inl ⟨rfl, rfl⟩
  | some p =>
      right
      rw [record]
      cases hget : b.peers.get? p with
      | some t =>
          refine .inl ⟨p, t, rfl, hget, ?_⟩
          simp only [recordPeer, hget, total]
      | none =>
          by_cases hroom : b.peers.length < b.peerLimit
          · refine .inr (.inl ⟨p, rfl, hget, hroom, ?_⟩)
            simp only [recordPeer, hget, if_pos hroom, total]
          · refine .inr (.inr ⟨p, rfl, hget, Nat.not_lt.1 hroom, ?_⟩)
            simp only [recordPeer, hget, if_neg hroom, total]

/-- A counter that does not come to its end counts exactly. -/
theorem get_add {t : Totals} {d : Direction} {m : Traffic}
    (hfits : t.get d + m.share d (fun _ => true) < Totals.bound) :
    (t.add m.bytes m.direction).get d = t.get d + m.share d (fun _ => true) := by
  unfold Traffic.share at hfits ⊢
  by_cases hd : m.direction = d
  · subst hd
    rw [if_pos ⟨rfl, rfl⟩] at hfits ⊢
    rw [Totals.get_add_self, Nat.mod_eq_of_lt hfits]
  · rw [if_neg fun h => hd h.1, Nat.add_zero]
    exact Totals.get_add_of_ne t m.bytes (Ne.symm hd)

/-- The bytes in a direction of all peers that are counted on their own. -/
def tabled (peers : Table String Totals) (d : Direction) : Nat := (peers.values.map (·.get d)).sum

theorem tabled_cons (p : String) (t : Totals) (peers : Table String Totals) (d : Direction) :
    tabled ((p, t) :: peers) d = t.get d + tabled peers d := rfl

/-- The sum of a table is that of an entry and of the rest. -/
theorem tabled_erase {peers : Table String Totals} (h : peers.Distinct) {p : String} {t : Totals}
    (hget : peers.get? p = some t) (d : Direction) :
    tabled peers d = t.get d + tabled (peers.erase p) d := by
  have hperm := (Table.perm_cons_erase h hget).map fun e => e.2.get d
  rw [tabled, Table.values, List.map_map]
  exact hperm.sum_nat.trans (by simp [tabled, Table.values, Function.comp_def])

/-- What the counters of peers say of what was moved. -/
structure Accounts (limit : Nat) (ms : List Traffic) (peers : Table String Totals)
    (other : Totals) : Prop where
  distinct : peers.Distinct
  keys : peers.keys.Perm (Traffic.placed limit ms)
  own : ∀ p t, peers.get? p = some t → ∀ d, t.get d = Traffic.total d (· == some p) ms
  others : ∀ d, other.get d = Traffic.total d (fun q => q.any (· ∉ Traffic.placed limit ms)) ms
  balanced : ∀ d, Traffic.total d (fun _ => true) ms =
    tabled peers d + other.get d + Traffic.total d (·.isNone) ms

namespace Accounts

variable {limit : Nat} {ms : List Traffic} {peers : Table String Totals} {other : Totals}
  {m : Traffic} {p : String}

theorem start (limit : Nat) : Accounts limit [] [] .zero where
  distinct := Table.distinct_nil
  keys := by
    rw [Traffic.placed, Traffic.named, List.filterMap_nil, List.eraseDups_nil, List.take_nil]
    exact .nil
  own _ _ h := by cases h
  others d := by cases d <;> rfl
  balanced d := by cases d <;> rfl

theorem get?_eq_none_iff (h : Accounts limit ms peers other) :
    peers.get? p = none ↔ p ∉ Traffic.placed limit ms := by
  rw [← h.keys.mem_iff, Table.get?_eq_none_iff]

theorem length_placed (h : Accounts limit ms peers other) :
    (Traffic.placed limit ms).length = peers.length := by
  rw [← h.keys.length_eq, Table.keys, List.length_map]

/-- What is moved over a connection whose peer is unknown is in none of these counters. -/
theorem unknown (h : Accounts limit ms peers other) (hp : m.peer = none) :
    Accounts limit (ms ++ [m]) peers other := by
  have hplaced : Traffic.placed limit (ms ++ [m]) = Traffic.placed limit ms := by
    rw [Traffic.placed, Traffic.named_snoc_none hp, Traffic.placed]
  refine ⟨h.distinct, hplaced ▸ h.keys, ?_, ?_, ?_⟩
  · intro p t hget d
    rw [Traffic.total_snoc_of_false (by simp [hp]), h.own p t hget d]
  · intro d
    rw [hplaced, Traffic.total_snoc_of_false (by simp [hp]), h.others d]
  · intro d
    have hshare : m.share d (·.isNone) = m.share d fun _ => true :=
      Traffic.share_of_true _ (by rw [hp]; rfl)
    rw [Traffic.total_snoc, Traffic.total_snoc, hshare, h.balanced d]
    exact Nat.add_assoc ..

section Known

variable (hp : m.peer = some p)
  (hfits : ∀ d, Traffic.total d (fun _ => true) (ms ++ [m]) < Totals.bound)

include hp hfits

/-- A counter of some peers, that of `m` among them, counts `m` exactly. -/
theorem get_add_of_eq {t : Totals} (who : Option String → Bool) (hwho : who (some p) = true)
    {d : Direction} (ht : t.get d = Traffic.total d who ms) :
    (t.add m.bytes m.direction).get d = Traffic.total d who (ms ++ [m]) := by
  have hshare : m.share d who = m.share d fun _ => true :=
    Traffic.share_of_true _ (by rw [hp, hwho])
  rw [Traffic.total_snoc, hshare, ← ht]
  refine get_add ?_
  rw [ht, ← hshare, ← Traffic.total_snoc]
  exact Nat.lt_of_le_of_lt (Traffic.total_le d who _) (hfits d)

/-- What is moved by a peer that has a place, or gets one, is added to what was counted of it. -/
theorem seat (h : Accounts limit ms peers other) {t : Totals}
    (hown : ∀ d, t.get d = Traffic.total d (· == some p) ms)
    (htabled : ∀ d, tabled peers d = t.get d + tabled (peers.erase p) d)
    (hkeys : (p :: (peers.erase p).keys).Perm (Traffic.placed limit (ms ++ [m]))) :
    Accounts limit (ms ++ [m]) (peers.insert p (t.add m.bytes m.direction)) other := by
  have hadded (d : Direction) := get_add_of_eq hp hfits (· == some p) (by simp) (hown d)
  refine ⟨h.distinct.insert p _, hkeys, ?_, ?_, ?_⟩
  · intro q t' hget d
    rw [Table.get?_insert] at hget
    split at hget
    · rename_i hq
      cases hget
      rw [hq]
      exact hadded d
    · rename_i hq
      rw [Traffic.total_snoc_of_false (by simp [hp, Ne.symm hq]), h.own q t' hget d]
  · intro d
    have hmem : p ∈ Traffic.placed limit (ms ++ [m]) := hkeys.mem_iff.1 List.mem_cons_self
    rw [Traffic.total_snoc_of_false (by simp [hp, hmem]), h.others d]
    refine Traffic.total_congr fun m' hm' => ?_
    cases hq : m'.peer with
    | none => rfl
    | some q => simp [Traffic.mem_placed_append (Traffic.mem_named.2 ⟨m', hm', hq⟩) [m]]
  · intro d
    rw [Table.insert, tabled_cons, hadded, Traffic.total_snoc, Traffic.total_snoc,
      Traffic.share_of_true (· == some p) (by simp [hp]),
      Traffic.total_snoc_of_false (by simp [hp]), h.balanced d, htabled d, hown d]
    omega

/-- A peer that has a place is counted there again. -/
theorem again (h : Accounts limit ms peers other) {t : Totals} (hget : peers.get? p = some t) :
    Accounts limit (ms ++ [m]) (peers.insert p (t.add m.bytes m.direction)) other := by
  have hmem : p ∈ Traffic.placed limit ms := by
    refine not_not.1 fun hnot => ?_
    rw [h.get?_eq_none_iff.2 hnot] at hget
    cases hget
  have hplaced := Traffic.placed_snoc_of_mem hp hmem
  refine h.seat hp hfits (h.own p t hget) (tabled_erase h.distinct hget) ?_
  rw [hplaced]
  exact ((Table.perm_cons_erase h.distinct hget).map Prod.fst).symm.trans h.keys

/-- A new peer gets a place if there is one. -/
theorem enter (h : Accounts limit ms peers other) (hget : peers.get? p = none)
    (hroom : peers.length < limit) :
    Accounts limit (ms ++ [m]) (peers.insert p (Totals.zero.add m.bytes m.direction)) other := by
  have hnew : p ∉ Traffic.placed limit ms := h.get?_eq_none_iff.1 hget
  obtain ⟨hall, hplaced⟩ := Traffic.placed_snoc_of_room (h.length_placed ▸ hroom) hp hnew
  have herase : peers.erase p = peers := Table.erase_eq_self hget
  refine h.seat hp hfits ?_ ?_ ?_
  · -- Nothing was counted of it, as all who came before have places.
    intro d
    have hnone : Traffic.total d (· == some p) ms = Traffic.total d (fun _ => false) ms := by
      refine Traffic.total_congr fun m' hm' => ?_
      refine beq_eq_false_iff_ne.2 fun hp' => hnew ?_
      rw [hall]
      exact Traffic.mem_named.2 ⟨m', hm', hp'⟩
    rw [hnone, Traffic.total_none]
    cases d <;> rfl
  · intro d
    rw [herase]
    cases d <;> exact (Nat.zero_add _).symm
  · rw [herase, hplaced]
    exact (h.keys.cons p).trans (List.perm_append_singleton p _).symm

/-- A new peer that gets no place is counted with the others. -/
theorem refuse (h : Accounts limit ms peers other) (hget : peers.get? p = none)
    (hfull : limit ≤ peers.length) :
    Accounts limit (ms ++ [m]) peers (other.add m.bytes m.direction) := by
  have hnew : p ∉ Traffic.placed limit ms := h.get?_eq_none_iff.1 hget
  have hplaced := Traffic.placed_snoc_of_full (h.length_placed ▸ hfull) m
  have hadded (d : Direction) := get_add_of_eq hp hfits _ (by simp [hnew]) (h.others d)
  refine ⟨h.distinct, hplaced ▸ h.keys, ?_, ?_, ?_⟩
  · intro q t hq d
    have hne : p ≠ q := by
      rintro rfl
      rw [hget] at hq
      cases hq
    rw [Traffic.total_snoc_of_false (by simp [hp, hne]), h.own q t hq d]
  · intro d
    rw [hadded, hplaced]
  · intro d
    rw [hadded, Traffic.total_snoc, Traffic.total_snoc,
      Traffic.share_of_true (fun q => q.any (· ∉ Traffic.placed limit ms))
        (by simp [hp, hnew]),
      Traffic.total_snoc_of_false (by simp [hp]), h.balanced d, h.others d]
    omega

end Known

end Accounts

/-! ### Step and run -/

/-- The limit stays, and the sum of all is exact as long as it fits a counter. -/
structure Summed (limit : Nat) (ms : List Traffic) (b : Bandwidth) : Prop where
  peerLimit : b.peerLimit = limit
  total : ∀ d, b.total.get d = Traffic.total d (fun _ => true) ms
  accounts : Accounts limit ms b.peers b.other

/-- What is counted once keeps the accounts. -/
theorem Summed.record {limit : Nat} {ms : List Traffic} {b : Bandwidth} {m : Traffic}
    (h : Summed limit ms b)
    (hfits : ∀ d, Traffic.total d (fun _ => true) (ms ++ [m]) < Totals.bound) :
    Summed limit (ms ++ [m]) (b.record m.direction m.peer m.bytes) := by
  have htotal (d : Direction) : (b.total.add m.bytes m.direction).get d =
      Traffic.total d (fun _ => true) (ms ++ [m]) := by
    have hd := hfits d
    rw [Traffic.total_snoc, ← h.total d] at hd ⊢
    exact get_add hd
  obtain ⟨hp, hb⟩ | ⟨p, t, hp, hget, hb⟩ | ⟨p, hp, hget, hroom, hb⟩ | ⟨p, hp, hget, hfull, hb⟩ :=
    record_cases b m
  · rw [hb]
    exact ⟨h.peerLimit, htotal, h.accounts.unknown hp⟩
  · rw [hb]
    exact ⟨h.peerLimit, htotal, h.accounts.again hp hfits hget⟩
  · rw [hb]
    exact ⟨h.peerLimit, htotal, h.accounts.enter hp hfits hget (h.peerLimit ▸ hroom)⟩
  · rw [hb]
    exact ⟨h.peerLimit, htotal, h.accounts.refuse hp hfits hget (h.peerLimit ▸ hfull)⟩

/-- However much is counted, as long as the sums fit the counters. -/
theorem summed_recordAll (limit : Nat) (ms : List Traffic)
    (hfits : ∀ d, Traffic.total d (fun _ => true) ms < Totals.bound) :
    Summed limit ms ((withPeerLimit limit).recordAll ms) := by
  -- What came before fits where all fits.
  induction ms using List.reverseRecOn with
  | nil => exact ⟨rfl, fun d => by cases d <;> rfl, .start limit⟩
  | append_singleton ms m ih =>
      have hbefore (d : Direction) : Traffic.total d (fun _ => true) ms < Totals.bound := by
        have hd := hfits d
        rw [Traffic.total_snoc] at hd
        omega
      rw [recordAll_snoc]
      exact (ih hbefore).record hfits

/-- **Bytes are neither lost nor counted twice.** As long as the bytes moved in either direction
are fewer than a counter has values, the table has places for the first peers that came, as many
as it may hold; what is counted of a peer in it is all that was moved by it; what is counted of the
others is all that was moved by peers that are not in it; and the sum of all is what is in the
table, that of the others and that of the unknown. A peer that came is in the table from then on,
or never. -/
theorem accounts_exact (limit : Nat) (ms : List Traffic)
    (hfits : ∀ d, Traffic.total d (fun _ => true) ms < Totals.bound) :
    let b := (withPeerLimit limit).recordAll ms
    b.peers.length ≤ limit ∧
    b.peers.keys.Perm ((Traffic.named ms).take limit) ∧
    (∀ d p t, b.peerTotals p = some t → t.get d = Traffic.total d (· == some p) ms) ∧
    (∀ d, b.other.get d = Traffic.total d (fun q => q.any fun p => (b.peerTotals p).isNone) ms) ∧
    (∀ d, b.total.get d = Traffic.total d (fun _ => true) ms ∧
      b.total.get d = tabled b.peers d + b.other.get d + Traffic.total d (·.isNone) ms) ∧
    (∀ before after, ms = before ++ after → ∀ p ∈ Traffic.named before,
      (((withPeerLimit limit).recordAll before).peerTotals p = none ↔
        b.peerTotals p = none)) := by
  intro b
  have hb : Summed limit ms b := summed_recordAll limit ms hfits
  have hplace (p : String) : b.peerTotals p = none ↔ p ∉ Traffic.placed limit ms :=
    hb.accounts.get?_eq_none_iff
  refine ⟨?_, hb.accounts.keys, fun d p t hget => hb.accounts.own p t hget d, fun d => ?_,
    fun d => ⟨hb.total d, ?_⟩, ?_⟩
  · rw [← hb.accounts.length_placed]
    exact List.length_take_le ..
  · rw [hb.accounts.others d]
    refine Traffic.total_congr fun m _ => ?_
    cases m.peer with
    | none => rfl
    | some p =>
        show decide (p ∉ Traffic.placed limit ms) = (b.peerTotals p).isNone
        rw [Bool.eq_iff_iff, decide_eq_true_iff, Option.isNone_iff_eq_none, hplace]
  · rw [hb.total d]
    exact hb.accounts.balanced d
  · rintro before after rfl p hp
    have hbefore := summed_recordAll limit before fun d => ?_
    · rw [hplace, Traffic.mem_placed_append hp]
      exact hbefore.accounts.get?_eq_none_iff
    · have hd := hfits d
      rw [Traffic.total, List.map_append, List.sum_append] at hd
      exact Nat.lt_of_le_of_lt (Nat.le_add_right ..) hd

/-- A table with one place, two peers, and a connection whose peer is unknown. -/
def crowded : List Traffic :=
  [⟨.inbound, some "a", 3⟩, ⟨.outbound, some "b", 5⟩, ⟨.inbound, none, 7⟩,
    ⟨.outbound, some "a", 2⟩, ⟨.inbound, some "b", 4⟩]

theorem accounts_exact_crowded :
    (∀ d, Traffic.total d (fun _ => true) crowded < Totals.bound) ∧
    (let b := (withPeerLimit 1).recordAll crowded
    b.peers.keys.Perm ["a"] ∧ b.other.get .inbound = 4 ∧ b.other.get .outbound = 5 ∧
      b.total.get .inbound = 3 + 4 + 7) := by
  have hfits : ∀ d, Traffic.total d (fun _ => true) crowded < Totals.bound := by
    intro d
    cases d <;> decide
  obtain ⟨-, hkeys, -, hother, htotal, -⟩ := accounts_exact 1 crowded hfits
  refine ⟨hfits, hkeys, ?_, ?_, ?_⟩
  · exact hother .inbound
  · exact hother .outbound
  · exact (htotal .inbound).1

end Bandwidth

end Rendezvous
