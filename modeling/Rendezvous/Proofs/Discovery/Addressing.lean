import Rendezvous.Discovery.Service
import Rendezvous.Proofs.Peer.Id
import Rendezvous.Proofs.Store.Horizon
import Rendezvous.Proofs.Store.Pages
import Rendezvous.Sync.Broker

/-!
# Rendezvous.Proofs.Discovery.Addressing

A record is of use only as long as someone can name it: its namespace must be one that
requests may carry. Requests are looked at before they reach the store, records of other nodes
are not, so that a record stays addressable as long as it came in by a request, or from a node
that looked.

* `Discovery.IsNamespace`: the namespaces that requests may carry;
* `Discovery.Visit`, `Discovery.after`: who comes to a store, and what that leaves;
* `Discovery.Does`: a visit is one operation at most, and which;
* `Discovery.Addressable`, `Discovery.addressable_iff`: a live record can be listed and removed
  exactly if its namespace is one;
* `Discovery.HearsNamed`, `Discovery.addressableThroughout_iff`: a run.
-/

namespace Rendezvous.Discovery

/-! ### Namespaces -/

/-- A text of 1 to 255 bytes. -/
def IsNamespace (s : String) : Prop :=
  1 ≤ s.utf8ByteSize ∧ s.utf8ByteSize ≤ maxNamespaceLength

instance (s : String) : Decidable (IsNamespace s) :=
  inferInstanceAs (Decidable (_ ∧ _))

variable {ns : String}

theorem checkNamespace_of_isNamespace (h : IsNamespace ns) : checkNamespace ns = .ok () :=
  if_pos h

theorem checkNamespace_of_not (h : ¬ IsNamespace ns) :
    checkNamespace ns = .error (.badNamespace ns.utf8ByteSize) :=
  if_neg h

theorem isNamespace_of_ok {u : Unit} (h : checkNamespace ns = .ok u) : IsNamespace ns := by
  by_cases hns : IsNamespace ns
  · exact hns
  · rw [checkNamespace_of_not hns] at h
    cases h

/-! ### Visits -/

/-- Who comes to a store, and with what. -/
inductive Visit where
  /-- A client asks for something. -/
  | client (r : Request)
  /-- A driver has heard of a change that was made on another node. -/
  | driver (e : Sync.Event)
  /-- What has expired is swept away. -/
  | sweeper

/-- The store that a visit leaves. -/
def after (endpoints : List Sync.Endpoint) (s : Store) (now : Instant) : Visit → Store
  | .client r => (perform endpoints s now r).store
  | .driver e => (applyEvent s now e).1
  | .sweeper => (s.reclaim now).1

variable {endpoints : List Sync.Endpoint} {s s' : Store} {now : Instant} {v : Visit}

/-- A visit does one operation at most. A registration is made only under a namespace; nobody
has looked at that of a record heard of. -/
inductive Does (s : Store) (now : Instant) : Visit → Store → Prop
  | nothing (v : Visit) : Does s now v s
  | register {r : Request} (reg : Registration) (hns : IsNamespace reg.namespaceName) :
      Does s now (.client r) (s.perform now (.upsert reg))
  | unregister {r : Request} (k : Record.Key) :
      Does s now (.client r) (s.perform now (.remove k))
  | adopt (origin : String) (q : Record) :
      Does s now (.driver (.upsert origin q)) (s.perform now (.merge q))
  | yield (origin : String) (q : Record) :
      Does s now (.driver (.remove origin q)) (s.perform now (.removeIfNotFresher q))
  | sweep : Does s now .sweeper (s.perform now .reclaim)

theorem does_register (r : Request) (reg : Registration) :
    Does s now (.client r) (register s now reg).store := by
  unfold register
  cases hns : checkNamespace reg.namespaceName with
  | error e => exact .nothing _
  | ok _ =>
      cases checkTtl s reg.ttl with
      | error e => exact .nothing _
      | ok _ =>
          have hdoes : Does s now (.client r) (s.upsert now reg).1 :=
            .register reg (isNamespace_of_ok hns)
          rcases hup : s.upsert now reg with ⟨s', e | ⟨made, outcome⟩⟩ <;> rw [hup] at hdoes
          · exact hdoes
          · exact hdoes

theorem does_unregister (r : Request) (ns : String) (p : PeerId) :
    Does s now (.client r) (unregister s now ns p).store := by
  unfold unregister
  cases checkNamespace ns with
  | error e => exact .nothing _
  | ok _ =>
      have hdoes : Does s now (.client r) (s.remove now (ns, p)).1 := .unregister (ns, p)
      rcases hrem : s.remove now (ns, p) with ⟨s', e | found⟩ <;> rw [hrem] at hdoes
      · exact hdoes
      · exact hdoes

/-- **What a visit does.** -/
theorem does_after (endpoints : List Sync.Endpoint) (s : Store) (now : Instant) (v : Visit) :
    Does s now v (after endpoints s now v) := by
  cases v with
  | sweeper => exact .sweep
  | driver e =>
      cases e with
      | upsert origin q => exact .adopt origin q
      | remove origin q => exact .yield origin q
  | client r =>
      cases r with
      | register ns peer addrs ttl =>
          simp only [after, perform]
          cases readRegistration ns peer addrs ttl with
          | error e => exact .nothing _
          | ok reg => exact does_register _ reg
      | unregister ns peer =>
          simp only [after, perform]
          cases readPeer peer with
          | error e => exact .nothing _
          | ok p => exact does_unregister _ ns p
      | discover ns limit cursor => exact .nothing _
      | syncInfo => exact .nothing _

/-- What every operation on an open store keeps, a visit keeps. -/
theorem Does.keeps {motive : Store → Prop} (h : Does s now v s') (hs : motive s)
    (hop : ∀ op, op ≠ .close → motive (s.perform now op)) : motive s' := by
  cases h with
  | nothing => exact hs
  | register reg _ => exact hop (.upsert reg) nofun
  | unregister k => exact hop (.remove k) nofun
  | adopt _ q => exact hop (.merge q) nofun
  | yield _ q => exact hop (.removeIfNotFresher q) nofun
  | sweep => exact hop .reclaim nofun

/-! ### What visits keep -/

/-- A well-formed open store in which at most `n` places have been handed out. -/
structure Tidy (n : Nat) (s : Store) : Prop where
  isOpen : s.closed = false
  wellFormed : s.WellFormed
  numbered : ∃ m ≤ n, s.Numbered m

theorem Tidy.of_blank (h : s.Blank) (hopen : s.closed = false) : Tidy 0 s :=
  ⟨hopen, h.wellFormed, 0, Nat.le_refl 0, h.numbered⟩

/-- A visit hands out one place at most. -/
theorem Tidy.after {n : Nat} (h : Tidy n s) (hn : n + 1 < Store.seqBound) (now : Instant)
    (v : Visit) : Tidy (n + 1) (after endpoints s now v) := by
  refine (does_after endpoints s now v).keeps (motive := Tidy (n + 1)) ?_ ?_
  · obtain ⟨m, hm, hnumbered⟩ := h.numbered
    exact ⟨h.isOpen, h.wellFormed, m, by omega, hnumbered⟩
  · intro op hop
    obtain ⟨m, hm, hnumbered⟩ := h.numbered
    have hone : (s.inserts now op).toNat ≤ 1 := Bool.toNat_le _
    refine ⟨?_, h.wellFormed.perform now op, m + (s.inserts now op).toNat, by omega, ?_⟩
    · rw [(s.perform_fixed now op).2 hop, h.isOpen]
    · exact hnumbered.perform op (by omega)

/-- All records of a store have namespaces that requests may carry. -/
def Named (s : Store) : Prop := ∀ k r, s.records.get? k = some r → IsNamespace k.1

/-- What is left when a key is taken away was there before. -/
theorem get?_of_evict {k k' : Record.Key} {e : Instant} {r : Record}
    (hr : (s.evict now k' e).records.get? k = some r) : s.records.get? k = some r := by
  rw [Store.evict_records, Table.get?_erase] at hr
  split at hr
  · cases hr
  · exact hr

/-- What stands under a key after a visit stood there before, in some form, or was registered
under a namespace, or was taken over from another node. -/
theorem Does.stored (h : Does s now v s') (hopen : s.closed = false) {k : Record.Key}
    {r : Record} (hr : s'.records.get? k = some r) :
    (∃ c, s.records.get? k = some c) ∨ IsNamespace k.1 ∨
      ∃ origin q, v = .driver (.upsert origin q) ∧
        (applyEvent s now (.upsert origin q)).2 = .ok true ∧ q.key = k := by
  cases h with
  | nothing => exact Or.inl ⟨r, hr⟩
  | register reg hns =>
      rw [Store.perform, Store.upsert_eq hopen, Store.get?_records_enter,
        Store.place_records] at hr
      split at hr
      · rename_i hk
        rw [Store.granted_key] at hk
        exact Or.inr (Or.inl (hk ▸ hns))
      · exact Or.inl ⟨r, hr⟩
  | unregister k' =>
      rw [Store.perform, Store.remove_eq hopen] at hr
      split at hr
      · exact Or.inl ⟨r, hr⟩
      · exact Or.inl ⟨r, get?_of_evict hr⟩
  | adopt origin q =>
      rcases Store.merge_cases hopen now q with ⟨-, he⟩ | ⟨-, he⟩
      · rw [Store.perform, he] at hr
        exact Or.inl ⟨r, hr⟩
      · rw [Store.perform, he, Store.get?_records_enter, Store.place_records] at hr
        split at hr
        · rename_i hk
          rw [Store.adopted_key] at hk
          refine Or.inr (Or.inr ⟨origin, q, rfl, ?_, hk.symm⟩)
          rw [applyEvent, he]
          rfl
        · exact Or.inl ⟨r, hr⟩
  | yield _ q =>
      rw [Store.perform, Store.removeIfNotFresher_eq hopen] at hr
      split at hr
      · rw [Store.bury_records] at hr
        exact Or.inl ⟨r, hr⟩
      · split at hr
        · exact Or.inl ⟨r, get?_of_evict hr⟩
        · exact Or.inl ⟨r, hr⟩
  | sweep =>
      rw [Store.perform, Store.reclaim_fst, hopen, if_neg Bool.false_ne_true,
        Store.get?_records_swept] at hr
      exact Or.inl ⟨r, (Store.live?_eq_some_iff.1 hr).1⟩

/-- A record that was taken over from another node is live. -/
theorem live_of_taken (hopen : s.closed = false) {origin : String} {q : Record}
    (h : (applyEvent s now (.upsert origin q)).2 = .ok true) :
    (applyEvent s now (.upsert origin q)).1.live? now q.key = some (s.adopted now q) := by
  rcases Store.merge_cases hopen now q with ⟨-, he⟩ | ⟨houtlives, he⟩
  · rw [applyEvent, he] at h
    cases h
  · rw [applyEvent, he]
    refine Store.live?_eq_some_iff.2 ⟨?_, houtlives.ahead⟩
    rw [Store.get?_records_enter, Store.adopted_key, if_pos rfl]

/-! ### Addressable records -/

/-- Whoever names the namespace and the peer of a record can have it listed, on a page of any
size, and removed. -/
structure Addressable (endpoints : List Sync.Endpoint) (s : Store) (now : Instant)
    (r : Record) : Prop where
  /-- There is a cursor right before the record. -/
  placed : 0 < r.seq
  listed : ∀ limit cursor, ∃ records next,
    (perform endpoints s now (.discover r.namespaceName limit cursor)).answer =
      .ok (.discovered records next) ∧ (cursor + 1 = r.seq → r ∈ records)
  removed : ∃ s', (perform endpoints s now (.unregister r.namespaceName r.peer.toText)) =
      ⟨s', .ok .unregistered, some (.remove r)⟩ ∧ s'.records.get? r.key = none

theorem pageSize_pos (limit : Option Nat) : 0 < pageSize limit := by
  unfold pageSize
  split
  · decide
  · decide
  · rename_i n hn
    have hpos : n ≠ 0 := by
      rintro rfl
      exact hn rfl
    exact Nat.lt_min.2 ⟨Nat.pos_of_ne_zero hpos, by decide⟩

/-- Requests that carry no namespace are refused, whatever the store holds. -/
theorem perform_unregister_of_not (hns : ¬ IsNamespace ns) (p : PeerId) :
    perform endpoints s now (.unregister ns p.toText) =
      .unchanged s (.error (.badNamespace ns.utf8ByteSize)) := by
  simp only [perform, readPeer, PeerId.parse_toText, Except.mapError, unregister,
    checkNamespace_of_not hns]
  rfl

/-- A removal under a namespace takes away what is stored there. -/
theorem perform_unregister (hopen : s.closed = false) {r : Record}
    (hns : IsNamespace r.namespaceName) (hget : s.records.get? (r.namespaceName, r.peer) = some r) :
    perform endpoints s now (.unregister r.namespaceName r.peer.toText) =
      ⟨s.evict now r.key r.expiresAt, .ok .unregistered, some (.remove r)⟩ := by
  have hremove : s.remove now (r.namespaceName, r.peer) =
      (s.evict now r.key r.expiresAt, .ok (some r)) := by
    rw [Store.remove_eq hopen, hget]
    rfl
  simp only [perform, readPeer, PeerId.parse_toText, Except.mapError, unregister,
    checkNamespace_of_isNamespace hns, hremove]
  rfl

/-- A question under a namespace is answered with a page. -/
theorem perform_discover (hopen : s.closed = false) (hns : IsNamespace ns) (limit : Option Nat)
    (cursor : Nat) : ∃ page, s.query now ns (pageSize limit) cursor = .ok page ∧
      (perform endpoints s now (.discover ns limit cursor)).answer =
        .ok (.discovered page.records page.cursor) := by
  obtain ⟨page, hpage⟩ : ∃ page, s.query now ns (pageSize limit) cursor = .ok page := by
    rw [Store.query, hopen]
    exact ⟨_, rfl⟩
  have hdiscover : discover s now ns limit cursor = .ok page := by
    rw [discover, checkNamespace_of_isNamespace hns, hpage]
    split <;> rfl
  refine ⟨page, hpage, ?_⟩
  rw [perform, hdiscover]
  rfl

/-- A live record under a namespace is the first behind the place before it. -/
theorem mem_of_discover {n : Nat} (h : Tidy n s) {r : Record} {limit : Option Nat}
    {cursor : Nat} (hlive : s.live? now r.key = some r) (hcursor : cursor + 1 = r.seq) :
    r ∈ (s.found now r.namespaceName cursor).take (pageSize limit) := by
  obtain ⟨m, -, hnumbered⟩ := h.numbered
  have hmem : r ∈ s.found now r.namespaceName cursor :=
    Store.mem_found h.wellFormed hlive (Or.inr rfl) (by omega)
  have hsorted := hnumbered.pairwise_found h.wellFormed now r.namespaceName cursor
  obtain ⟨size, hsize⟩ := Nat.exists_eq_add_of_lt (pageSize_pos limit)
  cases hfound : s.found now r.namespaceName cursor with
  | nil =>
      rw [hfound] at hmem
      cases hmem
  | cons first rest =>
      -- What is found first stands behind the cursor, and nothing lies between it and `r`.
      have hfirst : cursor < first.seq :=
        Store.lt_of_mem_found (hfound ▸ List.mem_cons_self)
      rw [hfound] at hmem hsorted
      rw [hsize, Nat.zero_add, List.take_succ_cons]
      rcases List.mem_cons.1 hmem with heq | hrest
      · rw [heq]
        exact List.mem_cons_self
      · have hlt := (List.pairwise_cons.1 hsorted).1 r hrest
        omega

/-- **A live record is addressable exactly if it has a namespace.** -/
theorem addressable_iff {n : Nat} (h : Tidy n s) {r : Record}
    (hlive : s.live? now r.key = some r) :
    Addressable endpoints s now r ↔ IsNamespace r.namespaceName := by
  have hget := (Store.live?_eq_some_iff.1 hlive).1
  constructor
  · intro haddr
    obtain ⟨s', hremoved, -⟩ := haddr.removed
    by_cases hns : IsNamespace r.namespaceName
    · exact hns
    · rw [perform_unregister_of_not hns] at hremoved
      cases hremoved
  · intro hns
    refine ⟨?_, ?_, ?_⟩
    · obtain ⟨m, -, hnumbered⟩ := h.numbered
      exact (hnumbered.placed r.key r hget).1
    · intro limit cursor
      obtain ⟨page, hpage, hanswer⟩ := perform_discover h.isOpen hns limit cursor
      refine ⟨page.records, page.cursor, hanswer, ?_⟩
      intro hcursor
      rw [Store.records_of_query hpage]
      exact mem_of_discover h hlive hcursor
    · refine ⟨s.evict now r.key r.expiresAt, perform_unregister h.isOpen hns hget, ?_⟩
      rw [Store.evict_records, Table.get?_erase, if_pos rfl]

/-! ### Runs -/

/-- After each visit of a run and at any time since, every live record has a namespace and is
addressable. -/
def AddressableThroughout (endpoints : List Sync.Endpoint) :
    Store → List (Instant × Visit) → Prop
  | _, [] => True
  | s, (now, v) :: rest =>
    (∀ u, now ≤ u → ∀ k r, (after endpoints s now v).live? u k = some r →
      IsNamespace r.namespaceName ∧ Addressable endpoints (after endpoints s now v) u r) ∧
    AddressableThroughout endpoints (after endpoints s now v) rest

/-- Each record that is taken over from another node in a run has a namespace. -/
def HearsNamed (endpoints : List Sync.Endpoint) : Store → List (Instant × Visit) → Prop
  | _, [] => True
  | s, (now, v) :: rest =>
    (∀ origin q, v = .driver (.upsert origin q) →
      (applyEvent s now (.upsert origin q)).2 = .ok true → IsNamespace q.namespaceName) ∧
    HearsNamed endpoints (after endpoints s now v) rest

/-- One visit: if what it takes over has a namespace, so has all that is stored. -/
theorem Named.after (hs : Named s) (hopen : s.closed = false)
    (hhears : ∀ origin q, v = .driver (.upsert origin q) →
      (applyEvent s now (.upsert origin q)).2 = .ok true → IsNamespace q.namespaceName) :
    Named (after endpoints s now v) := by
  intro k r hr
  rcases (does_after endpoints s now v).stored hopen hr with
    ⟨c, hc⟩ | hns | ⟨origin, q, hv, htaken, hk⟩
  · exact hs k c hc
  · exact hns
  · rw [← hk]
    exact hhears origin q hv htaken

theorem hearsNamed_of_addressable {n : Nat} {visits : List (Instant × Visit)} (h : Tidy n s)
    (hfew : n + visits.length < Store.seqBound)
    (haddr : AddressableThroughout endpoints s visits) : HearsNamed endpoints s visits := by
  induction visits generalizing s n with
  | nil => exact trivial
  | cons a rest ih =>
      obtain ⟨now, v⟩ := a
      obtain ⟨hnow, hrest⟩ := haddr
      rw [List.length_cons] at hfew
      refine ⟨?_, ih (h.after (by omega) now v) (by omega) hrest⟩
      rintro origin q rfl htaken
      -- The record taken over is live at once, and has the namespace of what was heard.
      have hlive := live_of_taken h.isOpen htaken
      exact (hnow now (Nat.le_refl now) q.key (s.adopted now q) hlive).1

theorem addressable_of_hearsNamed {n : Nat} {visits : List (Instant × Visit)} (h : Tidy n s)
    (hs : Named s) (hfew : n + visits.length < Store.seqBound)
    (hhears : HearsNamed endpoints s visits) : AddressableThroughout endpoints s visits := by
  induction visits generalizing s n with
  | nil => exact trivial
  | cons a rest ih =>
      obtain ⟨now, v⟩ := a
      obtain ⟨hnow, hrest⟩ := hhears
      rw [List.length_cons] at hfew
      have htidy : Tidy (n + 1) (after endpoints s now v) := h.after (by omega) now v
      have hnamed : Named (after endpoints s now v) := hs.after h.isOpen hnow
      refine ⟨?_, ih htidy hnamed (by omega) hrest⟩
      intro u _ k r hlive
      have hget := (Store.live?_eq_some_iff.1 hlive).1
      have hkey : r.key = k := htidy.wellFormed.filed k r hget
      subst hkey
      have hns : IsNamespace r.namespaceName := hnamed r.key r hget
      exact ⟨hns, (addressable_iff htidy hlive).2 hns⟩

/-- **What is stored stays addressable as long as what is heard of is named.** Take any run of
an open store that has held nothing yet: requests, changes heard of from other nodes and sweeps,
in any order and at any times. After each of them and at any time since, every live record has
a namespace of 1 to 255 bytes, under which it can be listed and removed, exactly if every record
taken over from another node has such a namespace. -/
theorem addressableThroughout_iff (endpoints : List Sync.Endpoint) {s₀ : Store}
    (h₀ : s₀.Blank) (hopen : s₀.closed = false) (visits : List (Instant × Visit))
    (hfew : visits.length < Store.seqBound) :
    AddressableThroughout endpoints s₀ visits ↔ HearsNamed endpoints s₀ visits := by
  have htidy : Tidy 0 s₀ := .of_blank h₀ hopen
  have hnamed : Named s₀ := by
    intro k r hr
    rw [h₀.records] at hr
    cases hr
  constructor
  · intro haddr
    exact hearsNamed_of_addressable htidy (by omega) haddr
  · intro hhears
    exact addressable_of_hearsNamed htidy hnamed (by omega) hhears

/-- A room heard of from another node, a peer that registers there, and a sweep. -/
def roomVisits : List (Instant × Visit) :=
  [(10, .driver (.upsert "north" ⟨"room", default, [], 60, 7⟩)),
    (20, .client (.register "room" (default : PeerId).toText [] (some 60))), (30, .sweeper)]

theorem addressableThroughout_iff_room :
    let s₀ := Store.empty (.ofMillis 100)
    s₀.Blank ∧ s₀.closed = false ∧ roomVisits.length < Store.seqBound ∧
    ((after [] s₀ 10 (.driver (.upsert "north" ⟨"room", default, [], 60, 7⟩))).live? 15
      ("room", default)).isSome ∧
    HearsNamed [] s₀ roomVisits ∧ AddressableThroughout [] s₀ roomVisits := by
  have hblank : (Store.empty (.ofMillis 100)).Blank := Store.blank_empty (.ofMillis 100)
  have hfew : roomVisits.length < Store.seqBound := by decide
  have hhears : HearsNamed [] (Store.empty (.ofMillis 100)) roomVisits := by
    refine ⟨?_, ?_, ?_, trivial⟩
    · rintro origin q hq -
      cases hq
      decide
    · rintro origin q hq
      cases hq
    · rintro origin q hq
      cases hq
  have hiff := addressableThroughout_iff [] hblank rfl roomVisits hfew
  exact ⟨hblank, rfl, hfew, rfl, hhears, hiff.2 hhears⟩

/-- A record of another node, under a text that need not be a namespace. -/
def strayRecord (ns : String) : Record := ⟨ns, default, [], 60, 7⟩

/-- What a broker sends of a record under no name. -/
def strayFrame : String :=
  (Sync.Frame.message (Sync.channelFor "")
    (Sync.Event.upsert "north" (strayRecord "")).toJson).render

/-- A driver hands on a record under no name, the store takes it over, as it does one under a
name of 256 bytes, and no client can have them removed. -/
theorem stray_unaddressable :
    Sync.Broker.heard? "south" strayFrame = some (.upsert "north" (strayRecord "")) ∧
    ∀ ns ∈ ["", String.ofList (List.replicate 256 'n')],
      let s₀ := Store.empty (.ofMillis 100)
      let visit : Visit := .driver (.upsert "north" (strayRecord ns))
      let s := after [] s₀ 10 visit
      (s.live? 10 (ns, default)).isSome ∧
      perform [] s 10 (.unregister ns (default : PeerId).toText) =
        .unchanged s (.error (.badNamespace ns.utf8ByteSize)) ∧
      ¬ AddressableThroughout [] s₀ [(10, visit)] := by
  have hheard : Sync.Broker.heard? "south" strayFrame =
      some (.upsert "north" (strayRecord "")) := by decide +kernel
  have hunnamed : ∀ ns ∈ ["", String.ofList (List.replicate 256 'n')], ¬ IsNamespace ns := by
    decide +kernel
  refine ⟨hheard, ?_⟩
  intro ns hmem s₀ visit s
  have hns : ¬ IsNamespace ns := hunnamed ns hmem
  have htaken : (applyEvent (Store.empty (.ofMillis 100)) 10
      (.upsert "north" (strayRecord ns))).2 = .ok true := rfl
  have hlive : s.live? 10 (ns, default) = some (s₀.adopted 10 (strayRecord ns)) :=
    live_of_taken rfl htaken
  refine ⟨?_, perform_unregister_of_not hns default, ?_⟩
  · rw [hlive]
    rfl
  · intro haddr
    exact hns (haddr.1 10 (Nat.le_refl 10) _ _ hlive).1

end Rendezvous.Discovery
