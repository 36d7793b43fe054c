import Rendezvous.Proofs.Discovery.Addressing
import Rendezvous.Proofs.Discovery.Lifetimes

/-!
# Rendezvous.Proofs.Discovery.DefaultLifetime

A registration that names no lifetime is one for two hours. It is held to the same bound as those
that name one, so a store that grants less refuses it, whatever else it says; any other store
grants it in full, and the peer is listed with the addresses that it gave.

* `Discovery.register_eq`, `Discovery.register_of_lt`: what a registration leaves;
* `Discovery.registered_by_default_iff`.
-/

namespace Rendezvous.Discovery

variable {s : Store} {now : Instant}

/-! ### Registrations -/

theorem checkTtl_of_lt {ttl : Duration} (h : s.maxTtl.nanos < ttl.nanos) :
    checkTtl s ttl = .error (.badTtl ttl) :=
  if_pos (.inr h)

/-- A registration that is accepted leaves the record that is granted. -/
theorem register_eq (hopen : s.closed = false) {reg : Registration}
    (hns : IsNamespace reg.namespaceName) (httl : checkTtl s reg.ttl = .ok ()) :
    register s now reg =
      ⟨(s.upsert now reg).1, .ok (s.granted now reg), some (.upsert (s.granted now reg))⟩ := by
  simp only [register, checkNamespace_of_isNamespace hns, httl, Store.upsert_eq hopen]

/-- One that is for too long is refused. -/
theorem register_of_lt {reg : Registration} (hns : IsNamespace reg.namespaceName)
    (hlt : s.maxTtl.nanos < reg.ttl.nanos) :
    register s now reg = .unchanged s (.error (.badTtl reg.ttl)) := by
  simp only [register, checkNamespace_of_isNamespace hns, checkTtl_of_lt hlt]

/-- The record that is granted is live if its end lies ahead. -/
theorem get_upsert (hopen : s.closed = false) (now : Instant) (reg : Registration) :
    (s.upsert now reg).1.get now reg.key =
      .ok (if now < s.grant now reg.ttl then some (s.granted now reg) else none) := by
  have hget := (Store.upsert_leaves hopen now reg).2
  have hclosed : (s.upsert now reg).1.closed = false :=
    ((s.perform_fixed now (.upsert reg)).2 nofun).trans hopen
  rw [Store.get, hclosed, if_neg Bool.false_ne_true, Store.live?_of_get? hget]
  by_cases hlt : now < s.grant now reg.ttl
  · rw [if_pos hlt]
    exact congrArg _ (if_neg (Nat.not_le.2 hlt))
  · rw [if_neg hlt]
    exact congrArg _ (if_pos (Nat.not_lt.1 hlt))

/-! ### Requests without a lifetime -/

/-- A request that names no lifetime asks for two hours. -/
theorem perform_register_none (endpoints : List Sync.Endpoint) (s : Store) (now : Instant)
    {ns peer : String} {addrs : List String} {p : PeerId} {as : List Multiaddr}
    (hp : readPeer peer = .ok p) (ha : readAddrs addrs = .ok as) :
    perform endpoints s now (.register ns peer addrs none) =
      (register s now ⟨ns, p, as, Registration.defaultTtl⟩).map fun _ => .registered 7200 := by
  have hread : readRegistration ns peer addrs none = .ok ⟨ns, p, as, Registration.defaultTtl⟩ :=
    readRegistration_eq_ok_iff.2 ⟨p, as, hp, ha, rfl⟩
  simp only [perform, hread]
  rfl

/-- Two hours from now are ahead, unless the clock has come to its end. -/
theorem lt_grant_defaultTtl_iff (h : Registration.defaultTtl.nanos ≤ s.maxTtl.nanos) :
    now < s.grant now Registration.defaultTtl ↔ now < Instant.last := by
  have hmillis : Store.clockMillis Registration.defaultTtl = 7200000 := by decide
  rw [Store.grant, Duration.min, if_pos h, hmillis, Instant.add]
  constructor
  · exact fun hlt => Nat.lt_of_lt_of_le hlt (Nat.min_le_left _ _)
  · exact fun hlt => Nat.lt_min.2 ⟨hlt, Nat.lt_add_of_pos_right (by decide)⟩

/-- **A registration that names no lifetime is granted exactly if the store grants two hours.**
Take an open store made with settings of any longest lifetime, and a request to register a peer
under a namespace that may be one, with addresses that can be read and no lifetime. It is told of
a lifetime of at least a second that the settings allow, and the peer is listed with its addresses,
if and only if the longest lifetime is two hours or more and the clock has not come to its end; and
if the longest lifetime is shorter, the request is refused for the two hours that it did not ask
for, and nothing changes. -/
theorem registered_by_default_iff (endpoints : List Sync.Endpoint) {c : StoreConfig} {s : Store}
    (hopen : s.closed = false) (hmax : s.maxTtl = c.maxTtl) {ns peer : String}
    {addrs : List String} {p : PeerId} {as : List Multiaddr} (hns : IsNamespace ns)
    (hp : readPeer peer = .ok p) (ha : readAddrs addrs = .ok as) (now : Instant) :
    let o := perform endpoints s now (.register ns peer addrs none)
    ((∃ secs r, o.answer = .ok (.registered secs) ∧ 1 ≤ secs ∧ secs ≤ c.maxTtlSecs ∧
        o.store.get now (ns, p) = .ok (some r) ∧ r.addrs = as) ↔
      7200 ≤ c.maxTtlSecs ∧ now < Instant.last) ∧
    (c.maxTtlSecs < 7200 → o = .unchanged s (.error (.badTtl Registration.defaultTtl))) := by
  intro o
  have hbound : Registration.defaultTtl.nanos ≤ s.maxTtl.nanos ↔ 7200 ≤ c.maxTtlSecs := by
    rw [hmax]
    exact Nat.mul_le_mul_right_iff (by decide)
  have hperform : o = (register s now ⟨ns, p, as, Registration.defaultTtl⟩).map
      fun _ => .registered 7200 := perform_register_none endpoints s now hp ha
  by_cases hlong : 7200 ≤ c.maxTtlSecs
  · have httl : checkTtl s Registration.defaultTtl = .ok () :=
      checkTtl_eq_ok_iff.2 ⟨by decide, hbound.2 hlong⟩
    have hget := get_upsert hopen now ⟨ns, p, as, Registration.defaultTtl⟩
    have hahead : now < s.grant now Registration.defaultTtl ↔ now < Instant.last :=
      lt_grant_defaultTtl_iff (hbound.2 hlong)
    rw [register_eq hopen hns httl] at hperform
    refine ⟨⟨?_, ?_⟩, fun hshort => absurd hlong (Nat.not_le.2 hshort)⟩
    · rintro ⟨secs, r, -, -, -, hlive, -⟩
      refine ⟨hlong, hahead.1 ?_⟩
      by_contra hover
      rw [if_neg hover] at hget
      rw [hperform] at hlive
      cases hget.symm.trans hlive
    · rintro ⟨-, hnow⟩
      rw [if_pos (hahead.2 hnow)] at hget
      rw [hperform]
      exact ⟨7200, _, rfl, by decide, hlong, hget, rfl⟩
  · have hshort : s.maxTtl.nanos < Registration.defaultTtl.nanos :=
      Nat.not_le.1 fun h => hlong (hbound.1 h)
    rw [register_of_lt hns hshort] at hperform
    refine ⟨⟨?_, fun h => absurd h.1 hlong⟩, fun _ => hperform⟩
    rintro ⟨secs, r, htold, -⟩
    rw [hperform] at htold
    cases htold

/-- Where a peer listens. -/
def home : String := "/ip4/10.0.0.1/tcp/4001"

/-- The same as an address. -/
def homeAddr : Multiaddr := [.ip4 ⟨0x0A000001⟩, .port .tcp 4001]

/-- That peer registers and names no lifetime. -/
def homeRequest : Request := .register "chat" (default : PeerId).toText [home] none

theorem readAddrs_home : readAddrs [home] = .ok [homeAddr] := by
  rw [readAddrs, readAddrs, Multiaddr.parse_eq]
  decide +kernel

/-- A store that grants as much as is usual. -/
theorem registered_by_default_iff_usual :
    let o := perform [] (Store.empty StoreConfig.usual.maxTtl) 0 homeRequest
    ∃ secs r, o.answer = .ok (.registered secs) ∧ 1 ≤ secs ∧ secs ≤ StoreConfig.usual.maxTtlSecs ∧
      o.store.get 0 ("chat", default) = .ok (some r) ∧ r.addrs = [homeAddr] :=
  (registered_by_default_iff [] (c := StoreConfig.usual) (s := Store.empty StoreConfig.usual.maxTtl)
    rfl rfl (by decide) (readPeer_toText default) readAddrs_home 0).1.2 (by decide)

/-- Settings with a longest lifetime of an hour are accepted, and whoever registers without a
lifetime is refused for one of two hours. -/
theorem hour_refuses_default :
    let c : NodeConfig :=
      { NodeConfig.usual with store := { StoreConfig.usual with maxTtlSecs := 3600 } }
    let s := Store.empty c.store.maxTtl
    let o := perform [] s 0 homeRequest
    c.problems = [] ∧ s.closed = false ∧ IsNamespace "chat" ∧
      readPeer (default : PeerId).toText = .ok default ∧ readAddrs [home] = .ok [homeAddr] ∧
      o.answer = .error (.badTtl (.ofSecs 7200)) ∧ o.store.get 0 ("chat", default) = .ok none := by
  intro c s o
  have haccepted : c.problems = [] := NodeConfig.problems_usual_maxTtl (by decide)
  have hrefused : o = .unchanged s (.error (.badTtl Registration.defaultTtl)) := by
    rw [show o = _ from perform_register_none [] s 0 (readPeer_toText default) readAddrs_home,
      register_of_lt (by decide) (by decide)]
    rfl
  rw [hrefused]
  exact ⟨haccepted, rfl, by decide, readPeer_toText default, readAddrs_home, rfl, rfl⟩

end Rendezvous.Discovery
