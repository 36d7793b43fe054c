import Rendezvous.Proofs.Config.Problem
import Rendezvous.Proofs.Discovery.Dispatch

/-!
# Rendezvous.Proofs.Discovery.Lifetimes

When a record expires. A lifetime is counted in whole milliseconds, of which the store keeps as
many bits as its clock has before it adds them to the time. Up to there its sums are exact and
stop at the end of the clock; a longest lifetime that has more milliseconds than the clock can
show is cut to its low bits, and a registration for that long is over at once.

* `Instant.after`: the end of a lifetime in exact numbers;
* `Store.RegistersExactly`, `Store.MergesExactly`: one registration, and one record heard of;
* `Discovery.RegistersInFull`: what a client is told of its registration;
* `Discovery.expiries_exact_iff`: when all of these are exact.
-/

namespace Rendezvous

/-! ### Sums on the clock -/

namespace Instant

/-- When a lifetime that begins now is over, in exact numbers. -/
def after (now : Instant) (d : Duration) : Instant := Nat.min last (now + d.millis)

/-- A lifetime of which the clock has room for the milliseconds, or for what is left of them
and no more. -/
def Holds (now : Instant) (d : Duration) : Prop :=
  d.millis < 2 ^ 64 ∨ last ≤ now + d.millis % 2 ^ 64

/-- Dropping what does not fit is noticed, unless the sum stops all the same. -/
theorem min_add_mod_eq_iff {most bound : Nat} (h : bound = most + 1) (t n : Nat) :
    Nat.min most (t + n % bound) = Nat.min most (t + n) ↔
      n < bound ∨ most ≤ t + n % bound := by
  simp only [Nat.min_def]
  constructor
  · intro heq
    by_contra hnot
    split at heq <;> split at heq <;> omega
  · rintro (hfits | hstops)
    · rw [Nat.mod_eq_of_lt hfits]
    · have hle := Nat.mod_le n bound
      rw [if_pos hstops, if_pos (by omega)]

theorem add_clockMillis_eq_after_iff (now : Instant) (d : Duration) :
    now.add (Store.clockMillis d) = now.after d ↔ now.Holds d :=
  min_add_mod_eq_iff rfl now d.millis

theorem add_clockMillis_le_after (now : Instant) (d : Duration) :
    now.add (Store.clockMillis d) ≤ now.after d :=
  Nat.le_min.2 ⟨add_le_last _ _,
    Nat.le_trans (Nat.min_le_right _ _) (Nat.add_le_add_left (Nat.mod_le _ _) now)⟩

theorem holds_of_le {d m : Duration} (h : d.nanos ≤ m.nanos) (hm : m.millis < 2 ^ 64)
    (now : Instant) : now.Holds d :=
  Or.inl (Nat.lt_of_le_of_lt (Nat.div_le_div_right h) hm)

end Instant

namespace Store

/-! ### What a change of the store leaves -/

variable {s : Store}

/-- A registration leaves a record that is over when the lifetime it is granted is. -/
def RegistersExactly (s : Store) (now : Instant) (reg : Registration) : Prop :=
  ∃ r outcome, (s.upsert now reg).2 = .ok (r, outcome) ∧
    (s.upsert now reg).1.records.get? reg.key = some r ∧
    r.expiresAt = now.after (reg.ttl.min s.maxTtl)

/-- A record heard of is taken over only if it has time left, of which it is granted no more
than the longest lifetime, and then it has just that. -/
def MergesExactly (s : Store) (now : Instant) (r : Record) : Prop :=
  (s.merge now r).2 = .ok true →
    now < Nat.min r.expiresAt (now.after s.maxTtl) ∧
    ∃ q, (s.merge now r).1.records.get? r.key = some q ∧
      q.expiresAt = Nat.min r.expiresAt (now.after s.maxTtl)

theorem upsert_leaves (h : s.closed = false) (now : Instant) (reg : Registration) :
    (∃ outcome, (s.upsert now reg).2 = .ok (s.granted now reg, outcome)) ∧
      (s.upsert now reg).1.records.get? reg.key = some (s.granted now reg) := by
  rw [upsert_eq h]
  refine ⟨⟨_, rfl⟩, ?_⟩
  rw [get?_records_enter, granted_key, if_pos rfl]

theorem merge_leaves (h : s.closed = false) {now : Instant} {r : Record}
    (hmerged : (s.merge now r).2 = .ok true) :
    now < s.cap now r.expiresAt ∧
      (s.merge now r).1.records.get? r.key = some (s.adopted now r) := by
  rcases merge_cases h now r with ⟨-, heq⟩ | ⟨ho, heq⟩
  · rw [heq] at hmerged
    cases hmerged
  · refine ⟨ho.ahead, ?_⟩
    rw [heq, get?_records_enter, adopted_key, if_pos rfl]

theorem registersExactly_iff (h : s.closed = false) (now : Instant) (reg : Registration) :
    s.RegistersExactly now reg ↔ now.Holds (reg.ttl.min s.maxTtl) := by
  obtain ⟨⟨outcome, hmade⟩, hget⟩ := upsert_leaves h now reg
  rw [← Instant.add_clockMillis_eq_after_iff]
  constructor
  · rintro ⟨r, _, -, hr, hexact⟩
    cases hget.symm.trans hr
    exact hexact
  · intro hexact
    exact ⟨_, outcome, hmade, hget, hexact⟩

theorem min_eq_min_iff_of_le {e a b : Nat} (h : a ≤ b) :
    Nat.min e a = Nat.min e b ↔ e ≤ a ∨ a = b := by
  change min e a = min e b ↔ _
  omega

/-- The cap is felt only by a record that would expire later. -/
theorem cap_eq_iff (s : Store) (now e : Instant) :
    s.cap now e = Nat.min e (now.after s.maxTtl) ↔
      e ≤ now.add (clockMillis s.maxTtl) ∨ now.Holds s.maxTtl := by
  rw [← Instant.add_clockMillis_eq_after_iff]
  exact min_eq_min_iff_of_le (Instant.add_clockMillis_le_after now s.maxTtl)

theorem mergesExactly_iff (h : s.closed = false) {now : Instant} {r : Record}
    (hmerged : (s.merge now r).2 = .ok true) :
    s.MergesExactly now r ↔
      r.expiresAt ≤ now.add (clockMillis s.maxTtl) ∨ now.Holds s.maxTtl := by
  obtain ⟨hahead, hget⟩ := merge_leaves h hmerged
  rw [← cap_eq_iff]
  constructor
  · intro hexact
    obtain ⟨-, q, hq, he⟩ := hexact hmerged
    cases hget.symm.trans hq
    exact he
  · intro he _
    exact ⟨he ▸ hahead, _, hget, he⟩

/-- A lifetime of one millisecond more than the clock has room for. -/
def oneTooMany : Duration := .ofMillis (2 ^ 64)

/-- **Registrations and records heard of are exact** at all times if the longest lifetime fits
the clock, and only then. -/
theorem exact_iff (h : s.closed = false) :
    (∀ now ≤ Instant.last, (∀ reg, s.RegistersExactly now reg) ∧ ∀ r, s.MergesExactly now r) ↔
      s.maxTtl.millis < 2 ^ 64 := by
  constructor
  · intro hexact
    by_contra hlong
    -- A registration for the shortest lifetime that does not fit is granted nothing at all.
    have hreg := (hexact 0 (Nat.zero_le _)).1 ⟨"", default, [], oneTooMany⟩
    rw [registersExactly_iff h] at hreg
    have hgranted : (oneTooMany.min s.maxTtl).millis = 2 ^ 64 := by
      have hnanos : oneTooMany.nanos ≤ s.maxTtl.nanos := by
        have hle : 2 ^ 64 ≤ s.maxTtl.nanos / 1000000 := Nat.not_lt.1 hlong
        exact (Nat.le_div_iff_mul_le (by decide)).1 hle
      rw [Duration.min, if_pos hnanos]
      rfl
    rw [Instant.Holds, hgranted] at hreg
    exact absurd hreg (by decide)
  · intro hfits now _
    refine ⟨fun reg => ?_, fun r hmerged => ?_⟩
    · rw [registersExactly_iff h]
      exact Instant.holds_of_le (by rw [Duration.nanos_min]; exact Nat.min_le_right _ _) hfits now
    · exact (mergesExactly_iff h hmerged).2
        (Or.inr (Instant.holds_of_le (Nat.le_refl _) hfits now)) hmerged

end Store

namespace Discovery

/-! ### What a client is told -/

/-- Whoever is told to be registered for some seconds is, at every time of the clock. -/
def RegistersInFull (endpoints : List Sync.Endpoint) (s : Store) : Prop :=
  ∀ now ≤ Instant.last, ∀ ns peer addrs ttl secs,
    let o := perform endpoints s now (.register ns peer addrs ttl)
    o.answer = .ok (.registered secs) →
      ∃ p r, readPeer peer = .ok p ∧ o.store.records.get? (ns, p) = some r ∧
        r.expiresAt = Nat.min Instant.last (now + 1000 * secs)

variable {endpoints : List Sync.Endpoint} {s : Store} {now : Instant}

theorem checkTtl_eq_ok_iff {ttl : Duration} :
    checkTtl s ttl = .ok () ↔ ttl.nanos ≠ 0 ∧ ttl.nanos ≤ s.maxTtl.nanos := by
  unfold checkTtl
  split
  · rename_i hbad
    exact ⟨nofun, fun h => by omega⟩
  · rename_i hgood
    exact ⟨fun _ => by omega, fun _ => rfl⟩

/-- A registration that comes from a client is for a whole number of seconds. -/
theorem readRegistration_secs {ns peer : String} {addrs : List String} {ttl : Option Nat}
    {reg : Registration} (h : readRegistration ns peer addrs ttl = .ok reg) :
    reg.ttl = .ofSecs reg.ttl.secs := by
  have hwhole (n : Nat) : Duration.ofSecs n = .ofSecs (Duration.ofSecs n).secs := by
    simp [Duration.ofSecs, Duration.secs]
  obtain ⟨p, as, -, -, rfl⟩ := readRegistration_eq_ok_iff.1 h
  cases ttl with
  | none => exact hwhole 7200
  | some n => exact hwhole n

theorem millis_ofSecs (n : Nat) : (Duration.ofSecs n).millis = 1000 * n := by
  simp only [Duration.millis, Duration.ofSecs]
  omega

/-- What a registration was granted, if it was. -/
theorem of_registered (hopen : s.closed = false) {ns peer : String} {addrs : List String}
    {ttl : Option Nat} {secs : Nat}
    (h : (perform endpoints s now (.register ns peer addrs ttl)).answer = .ok (.registered secs)) :
    ∃ p r, readPeer peer = .ok p ∧
      (perform endpoints s now (.register ns peer addrs ttl)).store.records.get? (ns, p) = some r ∧
      r.expiresAt = now.add (Store.clockMillis (.ofSecs secs)) ∧
      (Duration.ofSecs secs).nanos ≤ s.maxTtl.nanos := by
  rw [perform_eq] at h ⊢
  simp only [performBy] at h ⊢
  cases hreg : readRegistration ns peer addrs ttl with
  | error e => rw [hreg] at h; cases h
  | ok reg =>
      obtain ⟨hp, rfl⟩ := readRegistration_ok hreg
      have hsecs := readRegistration_secs hreg
      simp only [hreg] at h ⊢
      cases hns : checkNamespace reg.namespaceName with
      | error e => simp only [hns] at h; cases h
      | ok _ =>
          cases httl : checkTtl s reg.ttl with
          | error e => simp only [hns, httl] at h; cases h
          | ok _ =>
              have hle := (checkTtl_eq_ok_iff.1 httl).2
              simp only [hns, httl, Store.upsert_eq hopen] at h ⊢
              cases h
              refine ⟨reg.peer, s.granted now reg, hp, ?_, ?_, hsecs ▸ hle⟩
              · rw [Store.get?_records_enter, Store.granted_key]
                exact if_pos rfl
              · rw [← hsecs]
                change now.add (Store.clockMillis (reg.ttl.min s.maxTtl)) = _
                rw [Duration.min, if_pos hle]

/-- The shortest registration, in seconds, that does not fit the clock. -/
def longSecs : Nat := 18446744073709552

theorem longSecs_le {secs : Nat} (h : ¬ 1000 * secs < 2 ^ 64) : longSecs ≤ secs := by
  unfold longSecs
  omega

/-- A client that registers for that long. -/
def longRequest : Request := .register "chat" (default : PeerId).toText [] (some longSecs)

/-- What it is to be granted. -/
def longRegistration : Registration := ⟨"chat", default, [], .ofSecs longSecs⟩

/-- It is told so if it may. -/
theorem perform_longRequest (hopen : s.closed = false)
    (hle : (Duration.ofSecs longSecs).nanos ≤ s.maxTtl.nanos) :
    perform endpoints s now longRequest =
      ⟨(s.upsert now longRegistration).1, .ok (.registered longSecs),
        some (.upsert (s.granted now longRegistration))⟩ := by
  have hns : checkNamespace "chat" = .ok () := rfl
  have httl : checkTtl s (.ofSecs longSecs) = .ok () :=
    checkTtl_eq_ok_iff.2 ⟨by decide, hle⟩
  have hreg : readRegistration "chat" (default : PeerId).toText [] (some longSecs) =
      .ok longRegistration :=
    readRegistration_eq_ok_iff.2 ⟨default, [], readPeer_toText default, rfl, rfl⟩
  rw [perform_eq, longRequest]
  simp only [performBy, hreg, longRegistration, hns, httl, Store.upsert_eq hopen]
  rfl

/-- **When expiries are exact.** In an open store, and at every time that the clock shows:

* a registration leaves a record that is over exactly when the lifetime it is granted is, if
  the clock holds that lifetime, and otherwise not;
* so it is with a record heard of that is taken over, unless it expires before the cap is felt;
* all of these are exact if and only if the milliseconds of the longest lifetime fit the clock;
* under settings of any longest lifetime, whoever is told to be registered for some seconds is
  registered for so long, if and only if that lifetime fits the clock. -/
theorem expiries_exact_iff (endpoints : List Sync.Endpoint) {s : Store}
    (hopen : s.closed = false) :
    (∀ now ≤ Instant.last, ∀ reg,
      s.RegistersExactly now reg ↔ now.Holds (reg.ttl.min s.maxTtl)) ∧
    (∀ now ≤ Instant.last, ∀ r, (s.merge now r).2 = .ok true →
      (s.MergesExactly now r ↔
        r.expiresAt ≤ now.add (Store.clockMillis s.maxTtl) ∨ now.Holds s.maxTtl)) ∧
    ((∀ now ≤ Instant.last,
        (∀ reg, s.RegistersExactly now reg) ∧ ∀ r, s.MergesExactly now r) ↔
      s.maxTtl.millis < 2 ^ 64) ∧
    ∀ c : StoreConfig, s.maxTtl = c.maxTtl →
      (RegistersInFull endpoints s ↔ 1000 * c.maxTtlSecs < 2 ^ 64) := by
  refine ⟨fun now _ reg => Store.registersExactly_iff hopen now reg,
    fun now _ r hmerged => Store.mergesExactly_iff hopen hmerged, Store.exact_iff hopen,
    fun c hmax => ⟨?_, ?_⟩⟩
  · intro hfull
    by_contra hlong
    have hle : (Duration.ofSecs longSecs).nanos ≤ s.maxTtl.nanos := by
      rw [hmax]
      exact Nat.mul_le_mul_right _ (longSecs_le hlong)
    have htold : (perform endpoints s 0 longRequest).answer = .ok (.registered longSecs) := by
      rw [perform_longRequest hopen hle]
    obtain ⟨p, r, hp, hget, hexact⟩ := hfull 0 (Nat.zero_le _) _ _ _ _ _ htold
    obtain ⟨p', r', hp', hget', hcut, -⟩ := of_registered hopen htold
    cases hp.symm.trans hp'
    cases hget.symm.trans hget'
    exact absurd (hcut.symm.trans hexact) (by decide)
  · intro hfits now _ ns peer addrs ttl secs o htold
    obtain ⟨p, r, hp, hget, hcut, hle⟩ := of_registered hopen htold
    refine ⟨p, r, hp, hget, ?_⟩
    have hmillis : s.maxTtl.millis < 2 ^ 64 := by
      rw [hmax, StoreConfig.maxTtl, millis_ofSecs]
      exact hfits
    rw [hcut, (Instant.add_clockMillis_eq_after_iff ..).2 (Instant.holds_of_le hle hmillis now),
      Instant.after, millis_ofSecs]

/-- A store that grants an hour, and one that grants more than the clock has room for. -/
theorem expiries_exact_iff_hour :
    (Store.empty (.ofSecs 3600)).closed = false ∧
    RegistersInFull [] (Store.empty (.ofSecs 3600)) ∧
    (Store.empty (.ofSecs longSecs)).closed = false ∧
    ¬ RegistersInFull [] (Store.empty (.ofSecs longSecs)) := by
  obtain ⟨-, -, -, hhour⟩ :=
    expiries_exact_iff [] (s := Store.empty (.ofSecs 3600)) rfl
  obtain ⟨-, -, -, hlong⟩ :=
    expiries_exact_iff [] (s := Store.empty (.ofSecs longSecs)) rfl
  refine ⟨rfl, (hhour ⟨":memory:", 3600, 30⟩ rfl).2 (by decide), rfl, fun hfull => ?_⟩
  exact absurd ((hlong ⟨":memory:", longSecs, 30⟩ rfl).1 hfull) (by decide)

/-- A record heard of that does not expire while the clock runs. -/
def farRecord : Record := ⟨"chat", default, [], Instant.last, 1⟩

/-- Settings with a longest lifetime of more milliseconds than the clock has room for are
accepted. A peer that registers for that long is told so, and its record is over within the
second; a record heard of is cut to the same, however far its expiry. -/
theorem long_registration_over_at_once :
    let c : NodeConfig :=
      { NodeConfig.usual with store := { StoreConfig.usual with maxTtlSecs := longSecs } }
    let s := Store.empty c.store.maxTtl
    let now : Instant := 1700000000000
    let o := perform [] s now longRequest
    c.problems = [] ∧
    o.answer = .ok (.registered longSecs) ∧
    o.store.records.get? longRegistration.key =
      some ⟨"chat", default, [], now + 384, 1⟩ ∧
    Nat.min Instant.last (now + 1000 * longSecs) = Instant.last ∧ now + 384 < Instant.last ∧
    (s.upsert now longRegistration).1.records.get? longRegistration.key =
      some ⟨"chat", default, [], now + 384, 1⟩ ∧
    (s.merge now farRecord).1.records.get? farRecord.key =
      some ⟨"chat", default, [], now + 384, 1⟩ := by
  intro c s now o
  have haccepted : c.problems = [] := NodeConfig.problems_usual_maxTtl (by decide)
  have hgrant : s.grant now (.ofSecs longSecs) = now + 384 := by decide
  have hcap : s.cap now Instant.last = now + 384 := by decide
  have hgranted : s.granted now longRegistration = ⟨"chat", default, [], now + 384, 1⟩ := by
    rw [← hgrant]
    rfl
  have hadopted : s.adopted now farRecord = ⟨"chat", default, [], now + 384, 1⟩ := by
    rw [← hcap]
    rfl
  have hupserted := (Store.upsert_leaves (s := s) rfl now longRegistration).2
  rw [hgranted] at hupserted
  have hmerged : (s.merge now farRecord).2 = .ok true := by
    rcases Store.merge_cases (s := s) rfl now farRecord with ⟨hnot, -⟩ | ⟨-, heq⟩
    · refine absurd ⟨?_, nofun, nofun⟩ hnot
      rw [farRecord, hcap]
      decide
    · rw [heq]
  have hperform : o = _ := perform_longRequest rfl (Nat.le_refl _)
  rw [hperform]
  exact ⟨haccepted, rfl, hupserted, by decide, by decide, hupserted,
    (Store.merge_leaves rfl hmerged).2.trans (congrArg some hadopted)⟩

end Discovery

end Rendezvous
