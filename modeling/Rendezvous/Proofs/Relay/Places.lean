import Rendezvous.Proofs.Relay.Pairing
import Rendezvous.Relay.Contest

/-!
# Rendezvous.Proofs.Relay.Places

Places for circuits are counted exactly, however the handlers contend for them.

What a turn does to places is said once for all turns (`Service.Seats`), and what every turn
preserves is shown for turns that take a place at once (`Relay.Placed`). The accesses of which
such a turn is made come down to it: each of them is a turn, or changes nothing of the relay
(`Contest.run?_turnsOf`).

* `Service.seated`, `Service.Seats`, `Service.seats_of_moves`;
* `Service.Denied`, `Service.Full`: who is refused a place, and when that may be;
* `Relay.Placed`, `Relay.Placed.step`;
* `Contest.turnsOf`, `Contest.run?_turnsOf`;
* `Contest.places_exact`.
-/

namespace Rendezvous.Relay

/-! ### Counting -/

/-- All places are taken if as many are as there may be. -/
theorem Slots.isFull_iff {slots : Slots} (hmax : ∀ max, slots.max = some max → slots.active ≤ max) :
    slots.isFull = true ↔ slots.max = some slots.active := by
  cases h : slots.max with
  | none => simp [isFull, h]
  | some max =>
      have hle := hmax max h
      simp only [isFull, h, Option.any_some, decide_eq_true_eq, Option.some.injEq]
      omega

theorem Slots.acquire_of_not_isFull {slots : Slots} (h : slots.isFull = false) :
    slots.acquire = .ok { slots with active := slots.active + 1 } := by
  cases hmax : slots.max with
  | none => simp only [acquire, hmax]
  | some max =>
      simp only [isFull, hmax, Option.any_some, decide_eq_false_iff_not] at h
      simp only [acquire, hmax, if_neg h]

theorem Slots.acquire_of_isFull {slots : Slots} {max : Nat} (hmax : slots.max = some max)
    (h : max ≤ slots.active) : slots.acquire = .error (.circuits max) := by
  simp only [acquire, hmax, if_pos h]

theorem Slots.isFull_of_acquire_error {slots : Slots} {limit : LimitReached}
    (h : slots.acquire = .error limit) : slots.isFull = true := by
  cases hfull : slots.isFull with
  | true => rfl
  | false =>
      rw [acquire_of_not_isFull hfull] at h
      cases h

theorem Slots.eq_of_acquire_ok {slots slots' : Slots} (h : slots.acquire = .ok slots') :
    slots.isFull = false ∧ slots' = { slots with active := slots.active + 1 } := by
  cases hfull : slots.isFull with
  | false =>
      rw [acquire_of_not_isFull hfull] at h
      cases h
      exact ⟨rfl, rfl⟩
  | true =>
      cases hmax : slots.max with
      | none => simp [isFull, hmax] at hfull
      | some max =>
          rw [isFull, hmax, Option.any_some, decide_eq_true_eq] at hfull
          rw [acquire_of_isFull hmax hfull] at h
          cases h

/-- Of distinct numbers that pass a test one fewer does if one of them passes no more. -/
theorem countP_and_bne {l : List Nat} {p : Nat → Bool} {i : Nat} (hl : l.Nodup) (hi : i ∈ l)
    (hp : p i = true) : l.countP p = l.countP (fun j => p j && i != j) + 1 := by
  induction l with
  | nil => cases hi
  | cons j l ih =>
      obtain ⟨hj, hl⟩ := List.nodup_cons.1 hl
      by_cases hij : i = j
      · subst hij
        have hrest : l.countP (fun k => p k && i != k) = l.countP p := by
          refine List.countP_congr fun k hk => ?_
          have hik : i ≠ k := fun heq => hj (heq ▸ hk)
          simp [hik]
        simp [hp, hrest]
      · have hi' : i ∈ l := (List.mem_cons.1 hi).resolve_left hij
        rw [List.countP_cons, List.countP_cons, ih hl hi']
        simp only [bne_iff_ne.2 hij, Bool.and_true]
        omega

/-! ### What a turn does to places -/

namespace Service

variable {s s' u : Service} {t : RelayTurn} {i j : Nat} {a b : Stage}

/-- Whether a handler has a place. -/
def holds (s : Service) (i : Nat) : Bool := (s.stageOf? i).any (·.hasPlace)

/-- The handler that takes a place, if one does. -/
def seated (s : Service) : RelayTurn → List Nat
  | .place i =>
    match s.stageOf? i with
    | some (.found _ _) => if s.slots.isFull then [] else [i]
    | _ => []
  | _ => []

/-- What a turn can do to places, and who takes one. -/
inductive Seats (s : Service) : RelayTurn → List Nat → Service → Prop where
  | still {t : RelayTurn} {s' : Service} (hslots : s'.slots = s.slots)
      (hholds : ∀ j, s'.holds j = s.holds j) : Seats s t [] s'
  | take {i : Nat} {peer target : PeerId} {s' : Service}
      (hst : s.stageOf? i = some (.found peer target)) (hfull : s.slots.isFull = false)
      (hslots : s'.slots = { s.slots with active := s.slots.active + 1 })
      (hholds : ∀ j, s'.holds j = (s.holds j || i == j)) : Seats s (.place i) [i] s'
  | give {i : Nat} {s' : Service} (hst : s.stageOf? i = some .releasing)
      (hslots : s'.slots = s.slots.release)
      (hholds : ∀ j, s'.holds j = (s.holds j && i != j))
      (hended : s'.stageOf? i = some .ended) : Seats s (.release i) [] s'

theorem holds_of_stageOf? (hst : s.stageOf? i = some a) : s.holds i = a.hasPlace := by
  rw [holds, hst, Option.any_some]

theorem holds_goto_placed (hst : u.stageOf? i = some a) (hb : b.hasPlace = true) (j : Nat) :
    (u.goto i b).holds j = (u.holds j || i == j) := by
  rw [holds, stageOf?_goto hst]
  by_cases hij : i = j
  · rw [if_pos hij, beq_iff_eq.2 hij, Bool.or_true, Option.any_some, hb]
  · rw [if_neg hij, beq_eq_false_iff_ne.2 hij, Bool.or_false, holds]

theorem holds_goto_unplaced (hst : u.stageOf? i = some a) (hb : b.hasPlace = false) (j : Nat) :
    (u.goto i b).holds j = (u.holds j && i != j) := by
  rw [holds, stageOf?_goto hst]
  by_cases hij : i = j
  · rw [if_pos hij, bne_eq_false_iff_eq.2 hij, Bool.and_false, Option.any_some, hb]
  · rw [if_neg hij, bne_iff_ne.2 hij, Bool.and_true, holds]

/-- A handler that neither takes nor gives a place leaves all of them as they are. -/
theorem holds_alter (hst : u.stageOf? i = some a) {f : Handler → Handler}
    (hf : ∀ h, (f h).stage.hasPlace = a.hasPlace) (j : Nat) :
    (u.alter i f).holds j = u.holds j := by
  obtain ⟨h, hget, -⟩ := Option.map_eq_some_iff.1 hst
  rw [holds, stageOf?_alter]
  split
  · rename_i hij
    rw [← hij, hget, Option.map_some, Option.any_some, hf, holds_of_stageOf? hst]
  · rfl

/-- A new handler has no place. -/
theorem holds_call (s : Service) (notices : List (CircuitId × PeerId)) (j : Nat) :
    ({ s with handlers := s.handlers ++ [⟨.called, false, notices, none⟩] } : Service).holds j =
      s.holds j := by
  rw [holds, holds, stageOf?_call]
  split
  · rename_i hj
    rw [hj, stageOf?_length]
    rfl
  · rfl

theorem holds_sent (success : Bool) (i : Nat) (r : Response) (j : Nat) :
    (s.sent success i r).holds j = s.holds j := by
  rw [holds, stageOf?_sent, holds]

theorem slots_sent (success : Bool) (i : Nat) (r : Response) :
    (s.sent success i r).slots = s.slots := by
  cases success <;> rfl

/-- **What each turn does to places.** -/
theorem seats_of_moves (hm : Moves s t s') : Seats s t (s.seated t) s' := by
  cases hm with
  | call => exact .still rfl (holds_call s [])
  | fire i =>
      refine .still rfl fun j => ?_
      rw [holds, stageOf?_alter_of_stage]
      · rfl
      · exact fun _ => rfl
  | flag | cancel | clear | stop | hear => exact .still rfl fun _ => rfl
  | reply hst | refuse hst =>
      refine .still (slots_sent ..) fun j => ?_
      rw [goto, holds_alter ((stageOf?_sent ..).trans hst), holds_sent]
      exact fun _ => rfl
  | notice hget hst =>
      refine .still rfl fun j => holds_alter (stageOf?_of_getElem? hget) (fun _ => ?_) j
      rw [hst]
      rfl
  | leave hst =>
      split
      · exact .still rfl fun j => holds_alter hst (fun _ => rfl) j
      · exact .still rfl fun j => holds_alter hst (fun _ => rfl) j
  | announce hst =>
      refine .still rfl fun j => ?_
      rw [goto, holds_alter ((stageOf?_announced ..).trans hst), holds, stageOf?_announced]
      · rfl
      · exact fun _ => rfl
  | @place i peer target slots hst hslots =>
      obtain ⟨hfull, rfl⟩ := Slots.eq_of_acquire_ok hslots
      have hseated : s.seated (.place i) = [i] := by
        simp only [seated, hst, hfull, Bool.false_eq_true, if_false]
      rw [hseated]
      exact .take hst hfull rfl fun j => holds_goto_placed hst rfl j
  | @full i peer target limit hst hslots =>
      have hseated : s.seated (.place i) = [] := by
        simp only [seated, hst, Slots.isFull_of_acquire_error hslots, if_true]
      rw [hseated]
      exact .still rfl fun j => holds_alter hst (fun _ => rfl) j
  | release hst =>
      refine .give hst rfl (fun j => holds_goto_unplaced hst rfl j) ?_
      exact (stageOf?_goto hst ..).trans (if_pos rfl)
  | check hst | turnAway hst | receive hst | hangUp hst | misread hst | number hst | enter hst
  | confirm hst | unconfirmed hst | notify hst | unnotified hst | unheard hst | yield hst
  | runDry hst | look hst | unreserved hst | register hst | targetGone hst
  | expire hst | orphan hst | abandon hst | withdraw hst | withdrawMute hst | take hst | connect hst
  | unconnected hst | connectOther hst | otherUnconnected hst | finish hst | claim hst
  | unknown hst | offer hst | unwanted hst | regain hst =>
      exact .still rfl fun j => holds_alter hst (fun _ => rfl) j

/-! ### Who is refused a place -/

end Service

/-- An answer that no place is left. -/
def Response.isDenial : Response → Bool
  | .error .resourceLimitExceeded _ => true
  | _ => false

/-- Whether a handler in this stage is about to answer that no place is left. -/
def Stage.denies : Stage → Bool
  | .replying r | .refusing r => r.isDenial
  | _ => false

theorem Lapse.isDenial_of_reply? {cause : Lapse} {r : Response} (h : cause.reply? = some r) :
    r.isDenial = false := by
  cases cause <;> cases h <;> rfl

namespace Service

variable {s s' u : Service} {t : RelayTurn} {i j : Nat} {a b : Stage}

/-- A client was told that no place is left, or is about to be. -/
def Denied (s : Service) (i : Nat) : Prop :=
  (∃ r, (i, r) ∈ s.told ∧ r.isDenial = true) ∨ (s.stageOf? i).any (·.denies) = true

theorem Denied.of_alter {f : Handler → Handler} (h : (u.alter i f).Denied j)
    (hf : ∀ g, (f g).stage.denies = false) : u.Denied j := by
  rcases h with h | h
  · exact .inl h
  · right
    rw [stageOf?_alter] at h
    split at h
    · cases hget : u.handlers[j]? with
      | none => simp [hget] at h
      | some g => simp [hget, hf] at h
    · exact h

theorem Denied.of_tell {r : Response} (h : (u.tell i r).Denied j) (hr : r.isDenial = false) :
    u.Denied j := by
  rcases h with ⟨r', hmem, hr'⟩ | h
  · rcases List.mem_append.1 hmem with hmem | hmem
    · exact .inl ⟨r', hmem, hr'⟩
    · cases List.mem_singleton.1 hmem
      rw [hr] at hr'
      cases hr'
  · exact .inr h

/-- An answer tells a client what its handler was about to say. -/
theorem Denied.of_sent {success : Bool} {r : Response} (h : (s.sent success i r).Denied j)
    (hst : s.stageOf? i = some a) (hr : a.denies = r.isDenial) : s.Denied j := by
  cases success with
  | false => exact h
  | true =>
      rcases h with ⟨r', hmem, hr'⟩ | h
      · rcases List.mem_append.1 hmem with hmem | hmem
        · exact .inl ⟨r', hmem, hr'⟩
        · cases List.mem_singleton.1 hmem
          right
          rw [hst, Option.any_some, hr, hr']
      · exact .inr h

/-- A client is refused a place only when its handler looks for one and all are taken. -/
theorem denied_of_moves (hm : Moves s t s') (h : s'.Denied j) :
    s.Denied j ∨ t = .place j ∧ s.slots.isFull = true ∧
      ∃ peer target, s.stageOf? j = some (.found peer target) := by
  cases hm with
  | call =>
      rcases h with h | h
      · exact .inl (.inl h)
      · left
        right
        rw [stageOf?_call] at h
        split at h
        · cases h
        · exact h
  | fire i =>
      rcases h with h | h
      · exact .inl (.inl h)
      · left
        right
        rw [stageOf?_alter_of_stage] at h
        · exact h
        · exact fun _ => rfl
  | flag | cancel | clear | stop | hear => exact .inl h
  | reply hst | refuse hst =>
      exact .inl ((h.of_alter fun _ => rfl).of_sent hst rfl)
  | confirm hst | notify hst | connect hst | connectOther hst =>
      have htold : Service.Denied _ j := h.of_alter fun _ => rfl
      exact .inl (htold.of_tell rfl)
  | leave hst =>
      left
      split at h
      · exact h.of_alter fun _ => rfl
      · exact h.of_alter fun _ => rfl
  | announce hst =>
      left
      rcases h.of_alter fun _ => rfl with h | h
      · exact .inl h
      · rw [stageOf?_announced] at h
        exact .inr h
  | withdraw hst hreply houtcome =>
      exact .inl (h.of_alter fun _ => Lapse.isDenial_of_reply? hreply)
  | @full i peer target limit hst hslots =>
      by_cases hij : i = j
      · subst hij
        exact .inr ⟨rfl, Slots.isFull_of_acquire_error hslots, peer, target, hst⟩
      · left
        rcases h with h | h
        · exact .inl h
        · right
          rw [stageOf?_goto (s := s.count .rejected) hst, if_neg hij] at h
          exact h
  | _ => exact .inl (h.of_alter fun _ => rfl)

end Service

/-! ### What every turn preserves -/

/-- In some turns there is a moment at which a handler looks for a place, and at which as many are
taken as there may be. -/
def FoundFull (limits : Limits) (ts : List RelayTurn) (i : Nat) : Prop :=
  ∃ done rest d, ts = done ++ .place i :: rest ∧ (Service.start limits).run? done = some d ∧
    (∃ peer target, d.stageOf? i = some (.found peer target)) ∧
    limits.maxCircuits = some d.slots.active

/-- What is true of places at any time, after some turns in which some handlers took one. -/
structure Placed (limits : Limits) (ts : List RelayTurn) (seated : List Nat) (s : Service) :
    Prop where
  max : s.slots.max = limits.maxCircuits
  bounded : ∀ max, limits.maxCircuits = some max → s.slots.active ≤ max
  nodup : seated.Nodup
  connects : ∀ i ∈ seated, Connects ts i
  holds : ∀ i, s.holds i = true → i ∈ seated
  stands : ∀ i ∈ seated, s.holds i = true ∨ s.stageOf? i = some .ended
  count : s.slots.active = seated.countP s.holds
  denied : ∀ i, s.Denied i → FoundFull limits ts i

theorem FoundFull.later {limits : Limits} {ts : List RelayTurn} {i : Nat}
    (h : FoundFull limits ts i) (t : RelayTurn) : FoundFull limits (ts ++ [t]) i := by
  obtain ⟨done, rest, d, rfl, h⟩ := h
  exact ⟨done, rest ++ [t], d, by simp, h⟩

namespace Placed

variable {limits : Limits} {ts : List RelayTurn} {seated : List Nat} {s s' : Service}
  {t : RelayTurn} {i : Nat}

theorem start (limits : Limits) : Placed limits [] [] (.start limits) := by
  refine ⟨rfl, fun _ _ => Nat.zero_le _, List.nodup_nil, ?_, ?_, ?_, rfl, ?_⟩
  all_goals simp [Service.start, Service.holds, Service.stageOf?, Service.Denied]

variable (hv : Placed limits ts seated s)
include hv

theorem isFull_iff : s.slots.isFull = true ↔ limits.maxCircuits = some s.slots.active := by
  rw [Slots.isFull_iff, hv.max]
  rw [hv.max]
  exact hv.bounded

/-- Only the turn that takes a place makes a client one who is refused. -/
theorem step_denied (hrun : (Service.start limits).run? ts = some s) (hm : s.Moves t s')
    (h : s'.Denied i) : FoundFull limits (ts ++ [t]) i := by
  rcases Service.denied_of_moves hm h with h | ⟨rfl, hfull, hfound⟩
  · exact (hv.denied i h).later t
  · exact ⟨ts, [], s, rfl, hrun, hfound, hv.isFull_iff.1 hfull⟩

/-- Who looks for a place has none, and had none. -/
theorem not_mem_of_found {peer target : PeerId} (hst : s.stageOf? i = some (.found peer target)) :
    i ∉ seated := by
  intro hi
  rcases hv.stands i hi with h | h
  · rw [Service.holds_of_stageOf? hst] at h
    cases h
  · cases hst.symm.trans h

section Step

variable (hends : ∀ i, s.stageOf? i = some .ended → s'.stageOf? i = some .ended)
  (hdenied : ∀ i, s'.Denied i → FoundFull limits (ts ++ [t]) i)
include hends hdenied

theorem step_still (hslots : s'.slots = s.slots) (hholds : ∀ j, s'.holds j = s.holds j) :
    Placed limits (ts ++ [t]) seated s' := by
  have hsame : s'.holds = s.holds := funext hholds
  refine ⟨hslots ▸ hv.max, hslots ▸ hv.bounded, hv.nodup, fun i hi => (hv.connects i hi).later,
    hsame ▸ hv.holds, fun i hi => ?_, ?_, hdenied⟩
  · rw [hsame]
    exact (hv.stands i hi).imp_right (hends i)
  · rw [hslots, hsame, hv.count]

/-- A handler that takes a place is counted from then on. -/
theorem step_take {peer target : PeerId} (hst : s.stageOf? i = some (.found peer target))
    (hconnects : Connects ts i) (hfull : s.slots.isFull = false)
    (hslots : s'.slots = { s.slots with active := s.slots.active + 1 })
    (hholds : ∀ j, s'.holds j = (s.holds j || i == j)) :
    Placed limits (ts ++ [t]) (seated ++ [i]) s' := by
  have hi : i ∉ seated := hv.not_mem_of_found hst
  have hself : s'.holds i = true := by
    rw [hholds, beq_self_eq_true, Bool.or_true]
  have hothers : seated.countP s'.holds = seated.countP s.holds := by
    refine List.countP_congr fun j hj => ?_
    have hij : i ≠ j := fun heq => hi (heq ▸ hj)
    rw [hholds, beq_eq_false_iff_ne.2 hij, Bool.or_false]
  have hactive : s'.slots.active = s.slots.active + 1 := hslots ▸ rfl
  refine ⟨?_, fun max hmax => ?_, ?_, fun j hj => ?_, fun j hj => ?_, fun j hj => ?_, ?_, hdenied⟩
  · rw [hslots, ← hv.max]
  · have hle := hv.bounded max hmax
    have hne : max ≠ s.slots.active := by
      rintro rfl
      rw [hv.isFull_iff.2 hmax] at hfull
      cases hfull
    omega
  · rw [List.nodup_append]
    refine ⟨hv.nodup, List.nodup_cons.2 ⟨List.not_mem_nil, List.nodup_nil⟩, ?_⟩
    rintro j hj k hk rfl
    exact hi (List.mem_singleton.1 hk ▸ hj)
  · rcases List.mem_append.1 hj with hj | hj
    · exact (hv.connects j hj).later
    · rw [List.mem_singleton.1 hj]
      exact hconnects.later
  · rw [hholds, Bool.or_eq_true] at hj
    rcases hj with hj | hj
    · exact List.mem_append_left _ (hv.holds j hj)
    · exact List.mem_append_right _ (List.mem_singleton.2 (beq_iff_eq.1 hj).symm)
  · rcases List.mem_append.1 hj with hj | hj
    · rw [hholds, Bool.or_eq_true]
      exact (hv.stands j hj).imp .inl (hends j)
    · rw [List.mem_singleton.1 hj]
      exact .inl hself
  · rw [hactive, List.countP_append, hothers, List.countP_singleton, hself, if_pos rfl, ← hv.count]

/-- A handler that gives its place back is counted no more. -/
theorem step_give (hst : s.stageOf? i = some .releasing) (hslots : s'.slots = s.slots.release)
    (hholds : ∀ j, s'.holds j = (s.holds j && i != j)) (hended : s'.stageOf? i = some .ended) :
    Placed limits (ts ++ [t]) seated s' := by
  have hself : s.holds i = true := Service.holds_of_stageOf? hst
  have hone : s.slots.active = seated.countP s'.holds + 1 := by
    rw [hv.count, countP_and_bne hv.nodup (hv.holds i hself) hself]
    exact congrArg (· + 1) (List.countP_congr fun j _ => by rw [hholds])
  have hactive : s'.slots.active = s.slots.active - 1 := hslots ▸ rfl
  refine ⟨hslots ▸ hv.max, fun max hmax => ?_, hv.nodup, fun j hj => (hv.connects j hj).later,
    fun j hj => ?_, fun j hj => ?_, by omega, hdenied⟩
  · have hle := hv.bounded max hmax
    omega
  · rw [hholds, Bool.and_eq_true] at hj
    exact hv.holds j hj.1
  · rcases hv.stands j hj with h | h
    · by_cases hij : i = j
      · exact .inr (hij ▸ hended)
      · left
        rw [hholds, h, bne_iff_ne.2 hij]
        rfl
    · exact .inr (hends j h)

end Step

/-- Every turn preserves what is true of places at any time. -/
theorem step {cl : List (CircuitId × Nat)} (hp : Paired ts cl s.view)
    (hrun : (Service.start limits).run? ts = some s) (hm : s.Moves t s') :
    Placed limits (ts ++ [t]) (seated ++ s.seated t) s' := by
  have hends (i : Nat) (h : s.stageOf? i = some .ended) : s'.stageOf? i = some .ended := hm.ended h
  have hdenied (i : Nat) (h : s'.Denied i) : FoundFull limits (ts ++ [t]) i :=
    hv.step_denied hrun hm h
  have hseats := Service.seats_of_moves hm
  generalize s.seated t = new at hseats ⊢
  cases hseats with
  | still hslots hholds =>
      rw [List.append_nil]
      exact hv.step_still hends hdenied hslots hholds
  | take hst hfull hslots hholds =>
      have hconnects : Connects ts _ := hp.stands _ _ (Service.phases_of_stageOf? hst)
      exact hv.step_take hends hdenied hst hconnects hfull hslots hholds
  | give hst hslots hholds hended =>
      rw [List.append_nil]
      exact hv.step_give hends hdenied hst hslots hholds hended

/-- The places that are taken are those of the handlers that took one and have not ended. -/
theorem active_eq :
    s.slots.active = (seated.filter fun i => s.stageOf? i ≠ some .ended).length := by
  rw [hv.count, ← List.countP_eq_length_filter]
  refine List.countP_congr fun i hi => ?_
  rw [decide_eq_true_eq]
  rcases hv.stands i hi with h | h
  · refine iff_of_true h fun hst => ?_
    rw [Service.holds_of_stageOf? hst] at h
    cases h
  · refine iff_of_false (fun hholds => ?_) (not_not_intro h)
    rw [Service.holds_of_stageOf? h] at hholds
    cases hholds

end Placed

/-- **Places are counted exactly** after any turns that take a place at once. -/
theorem Placed.run {limits : Limits} {ts : List RelayTurn} {s : Service}
    (hrun : (Service.start limits).run? ts = some s) :
    Placed limits ts ((Service.start limits).gather Service.seated ts) s := by
  have hpaired (done : List RelayTurn) (u : Service)
      (h : (Service.start limits).run? done = some u) :
      Paired done ((Service.start limits).allMatched done) u.view := (Paired.start limits).run h
  refine Service.run?_gather (motive := Placed limits) (.start limits) ?_ hrun
  intro done l u t u' hdone hu hstep
  exact hu.step (hpaired done u hdone) hdone (Service.moves_of_step? hstep)

/-! ### One access at a time -/

namespace Service

variable {s s' : Service} {t : RelayTurn} {new : List Nat} {i : Nat} {peer target : PeerId}

theorem step?_place_of_full {max : Nat} (hst : s.stageOf? i = some (.found peer target))
    (hmax : s.slots.max = some max) (hle : max ≤ s.slots.active) :
    s.step? (.place i) = some ((s.count .rejected).goto i (.replying
      (.error .resourceLimitExceeded (Error.resourceExceeded (.circuits max)).message))) := by
  have hslots := Slots.acquire_of_isFull hmax hle
  simp only [step?, commonStep?, reserveStep?, requestStep?, hst, hslots, Option.none_or,
    Option.some_or]

theorem step?_place_of_free (hst : s.stageOf? i = some (.found peer target))
    (hfull : s.slots.isFull = false) :
    s.step? (.place i) = some
      ({ s with slots := { s.slots with active := s.slots.active + 1 } }.goto i
        (.placed peer target)) := by
  have hslots := Slots.acquire_of_not_isFull hfull
  simp only [step?, commonStep?, reserveStep?, requestStep?, hst, hslots, Option.none_or,
    Option.some_or]

theorem Seats.max_eq (h : s.Seats t new s') : s'.slots.max = s.slots.max := by
  cases h with
  | still hslots => rw [hslots]
  | take _ _ hslots | give _ hslots => exact hslots ▸ rfl

end Service

namespace Contest

variable {limits : Limits} {c c' : Contest} {a : Access} {as : List Access} {i : Nat}

/-- The turn that an access is, if it is one. The accesses with which a handler goes on in its
loop are none; that with which it leaves the loop is the one that takes a place, or fails to. -/
def turnsOf (c : Contest) : Access → List RelayTurn
  | .turn t => [t]
  | .load i => if c.relay.slots.isFull then [.place i] else []
  | .exchange i spurious =>
    let taken := c.seen.get? i = some c.relay.slots.active ∧ spurious = false
    if c.relay.slots.isFull ∨ taken then [.place i] else []

/-- The turns that some accesses are, in order. -/
def turns (c : Contest) : List Access → List RelayTurn
  | [] => []
  | a :: as => c.turnsOf a ++ ((c.access? a).elim [] fun c' => c'.turns as)

/-- Who remembers a number has read it while a place was left. -/
def Wary (c : Contest) : Prop :=
  ∀ i n, c.seen.get? i = some n → ∀ max, c.relay.slots.max = some max → n < max

theorem run?_cons {c'' : Contest} (hrun : c.run? (a :: as) = some c'') :
    ∃ c', c.access? a = some c' ∧ c'.run? as = some c'' := by
  rw [run?] at hrun
  split at hrun
  · exact ⟨_, ‹_›, hrun⟩
  · cases hrun

theorem Wary.start (limits : Limits) : (start limits).Wary := nofun

theorem Wary.forget (hc : c.Wary) {relay : Service} (hmax : relay.slots.max = c.relay.slots.max)
    (i : Nat) : ({ relay, seen := c.seen.erase i } : Contest).Wary := by
  intro j n hget max hsome
  rw [Table.get?_erase] at hget
  split at hget
  · cases hget
  · exact hc j n hget max (hmax ▸ hsome)

/-- A handler that reads the number goes on, or takes the turn in which it is refused. -/
theorem run?_read (hc : c.Wary) {peer target : PeerId}
    (hst : c.relay.stageOf? i = some (.found peer target)) :
    c.relay.run? (if c.relay.slots.isFull then [.place i] else []) = some (c.read i).relay ∧
      (c.read i).Wary := by
  have hkeep (hfree : ∀ max, c.relay.slots.max = some max → c.relay.slots.active < max) :
      ({ c with seen := c.seen.insert i c.relay.slots.active } : Contest).Wary := by
    intro j n hget max hsome
    rw [Table.get?_insert] at hget
    split at hget
    · cases hget
      exact hfree max hsome
    · exact hc j n hget max hsome
  cases hmax : c.relay.slots.max with
  | none =>
      simp only [read, hmax, Slots.isFull, Option.any_none, Bool.false_eq_true, if_false]
      exact ⟨rfl, hkeep fun max hsome => by cases hmax.symm.trans hsome⟩
  | some max =>
      simp only [read, hmax, Slots.isFull, Option.any_some, decide_eq_true_eq]
      split
      · rename_i hle
        refine ⟨?_, hc.forget rfl i⟩
        rw [Service.run?, Service.step?_place_of_full hst hmax hle]
        rfl
      · rename_i hlt
        refine ⟨rfl, hkeep fun max' hsome => ?_⟩
        cases hmax.symm.trans hsome
        exact Nat.lt_of_not_le hlt

/-- A number that was read while a place was left, and that is still what it was, leaves one. -/
theorem Wary.not_isFull (hc : c.Wary) (hget : c.seen.get? i = some c.relay.slots.active) :
    c.relay.slots.isFull = false := by
  cases hmax : c.relay.slots.max with
  | none => simp only [Slots.isFull, hmax, Option.any_none]
  | some max =>
      have hlt := hc i _ hget max hmax
      simp only [Slots.isFull, hmax, Option.any_some, decide_eq_false_iff_not]
      omega

/-- **Each access is a turn, or changes nothing of the relay.** -/
theorem run?_turnsOf (hc : c.Wary) (h : c.access? a = some c') :
    c.relay.run? (c.turnsOf a) = some c'.relay ∧ c'.Wary := by
  unfold access? at h
  split at h
  · cases h
  · rename_i t _
    obtain ⟨relay, hstep, rfl⟩ := Option.map_eq_some_iff.1 h
    refine ⟨?_, fun j n hget max hsome => hc j n hget max ?_⟩
    · rw [turnsOf, Service.run?, hstep]
      rfl
    · rw [← hsome, (Service.seats_of_moves (Service.moves_of_step? hstep)).max_eq]
  · split at h
    · cases h
      exact run?_read hc ‹_›
    · cases h
  · split at h
    · rename_i i spurious _ _ peer target n hst hget
      split at h <;> cases h
      · rename_i hsame
        obtain ⟨rfl, rfl⟩ := hsame
        refine ⟨?_, hc.forget rfl i⟩
        simp only [turnsOf, hget, and_self, or_true, if_true, Service.run?,
          Service.step?_place_of_free hst (hc.not_isFull hget), take]
      · rename_i hchanged
        have htaken : ¬ (c.seen.get? i = some c.relay.slots.active ∧ spurious = false) := by
          rwa [hget, Option.some.injEq]
        simp only [turnsOf, htaken, or_false]
        exact run?_read hc hst
    · cases h

/-- **Accesses one at a time come to the turns that they are.** -/
theorem run?_turns (hc : c.Wary) (hrun : c.run? as = some c') :
    c.relay.run? (c.turns as) = some c'.relay ∧ c'.Wary := by
  induction as generalizing c with
  | nil =>
      cases hrun
      exact ⟨rfl, hc⟩
  | cons a as ih =>
      obtain ⟨d, haccess, hrun⟩ := run?_cons hrun
      obtain ⟨hturns, hd⟩ := run?_turnsOf hc haccess
      rw [turns, haccess, Option.elim_some, Service.run?_append hturns]
      exact ih hd hrun

theorem turnsOf_cases (h : c.access? a = some c') :
    c.turnsOf a = [] ∨
      ∃ t, c.turnsOf a = [t] ∧ ∀ i, t = .place i → a.contender? = some i := by
  cases a with
  | turn t =>
      right
      refine ⟨t, rfl, ?_⟩
      rintro i rfl
      cases h
  | load i =>
      rw [turnsOf]
      split
      · exact .inr ⟨_, rfl, fun j hj => by cases hj; rfl⟩
      · exact .inl rfl
  | exchange i spurious =>
      rw [turnsOf]
      split
      · exact .inr ⟨_, rfl, fun j hj => by cases hj; rfl⟩
      · exact .inl rfl

/-- A turn that takes a place, or fails to, is an access of the handler that takes it. -/
theorem exists_access (hrun : c.run? as = some c') {done rest : List RelayTurn}
    (hturns : c.turns as = done ++ .place i :: rest) :
    ∃ as₁ a as₂ d, as = as₁ ++ a :: as₂ ∧ c.run? as₁ = some d ∧ c.turns as₁ = done ∧
      a.contender? = some i := by
  induction as generalizing c done with
  | nil => simp [turns] at hturns
  | cons a as ih =>
      obtain ⟨u, haccess, hrun⟩ := run?_cons hrun
      have hlater {done' : List RelayTurn} (hdone : c.turnsOf a ++ done' = done)
          (hrest : u.turns as = done' ++ .place i :: rest) :
          ∃ as₁ a' as₂ d, a :: as = as₁ ++ a' :: as₂ ∧ c.run? as₁ = some d ∧
            c.turns as₁ = done ∧ a'.contender? = some i := by
        obtain ⟨as₁, a', as₂, d, rfl, hd, hdone', ha'⟩ := ih hrun hrest
        refine ⟨a :: as₁, a', as₂, d, rfl, ?_, ?_, ha'⟩
        · rw [run?, haccess]
          exact hd
        · rw [turns, haccess, Option.elim_some, hdone', hdone]
      rw [turns, haccess, Option.elim_some] at hturns
      rcases turnsOf_cases haccess with hnone | ⟨t, hone, hplace⟩
      · rw [hnone, List.nil_append] at hturns
        exact hlater (by rw [hnone, List.nil_append]) hturns
      · rw [hone, List.singleton_append] at hturns
        cases done with
        | nil =>
            obtain ⟨rfl, -⟩ := List.cons.inj hturns
            exact ⟨[], a, as, c, rfl, rfl, rfl, hplace i rfl⟩
        | cons t' done' =>
            obtain ⟨rfl, hrest⟩ := List.cons.inj hturns
            exact hlater (by rw [hone, List.singleton_append]) hrest

/-- A handler that reads the number is refused if all places are taken. -/
theorem denies_read_iff {peer target : PeerId}
    (hst : c.relay.stageOf? i = some (.found peer target)) :
    ((c.read i).relay.stageOf? i).any (·.denies) = true ↔ c.relay.slots.isFull = true := by
  cases hmax : c.relay.slots.max with
  | none => simp [read, hmax, Slots.isFull, hst, Stage.denies]
  | some max =>
      simp only [read, hmax, Slots.isFull, Option.any_some, decide_eq_true_eq]
      split
      · rename_i hle
        refine iff_of_true ?_ hle
        rw [refuse, Service.stageOf?_goto (s := c.relay.count .rejected) hst, if_pos rfl]
        rfl
      · rename_i hlt
        refine iff_of_false ?_ hlt
        simp [hst, Stage.denies]

theorem stageOf?_take {peer target : PeerId}
    (hst : c.relay.stageOf? i = some (.found peer target)) :
    (c.take i peer target).relay.stageOf? i = some (.placed peer target) :=
  (Service.stageOf?_goto hst ..).trans (if_pos rfl)

/-- A handler that makes an access is refused if all places are taken, and only then. -/
theorem denies_iff (hc : c.Wary) (h : c.access? a = some c') (ha : a.contender? = some i) :
    (c'.relay.stageOf? i).any (·.denies) = true ↔ c.relay.slots.isFull = true := by
  cases a with
  | turn t => cases ha
  | load j =>
      cases ha
      rw [access?] at h
      split at h <;> cases h
      exact denies_read_iff ‹_›
  | exchange j spurious =>
      cases ha
      rw [access?] at h
      split at h
      · rename_i peer target n hst hget
        split at h <;> cases h
        · rename_i hsame
          obtain ⟨rfl, -⟩ := hsame
          refine iff_of_false ?_ (Bool.not_eq_true _ ▸ hc.not_isFull hget)
          rw [stageOf?_take hst]
          exact Bool.false_ne_true
        · exact denies_read_iff hst
      · cases h

/-- **Places for circuits are counted exactly.** Take any accesses to the number of places that are
taken, by any handlers, with any turns of handlers, of clients and of the node between them, which
may let each handler fail anywhere, ask handlers to stop and stop the relay. They come to turns of
the relay, in which some handlers take a place.

* Those that do are distinct, and each was asked for a circuit.
* The places that are taken are those of the handlers that took one and have not ended. There are
  never more of them than there may be.
* A handler that has found its target and makes an access is refused if and only if at that moment
  as many places are taken as there may be. No client is told that no place is left but one whose
  handler was refused so.
* Once every handler that was asked for a circuit has ended, no place is taken. -/
theorem places_exact (limits : Limits) (hrun : (start limits).run? as = some c) :
    let ts := (start limits).turns as
    let seated := (Service.start limits).gather Service.seated ts
    (Service.start limits).run? ts = some c.relay ∧
    seated.Nodup ∧ (∀ i ∈ seated, Connects ts i) ∧
    c.relay.slots.active = (seated.filter fun i => c.relay.stageOf? i ≠ some .ended).length ∧
    (∀ max, limits.maxCircuits = some max → c.relay.slots.active ≤ max) ∧
    (∀ a i c', c.access? a = some c' → a.contender? = some i →
      ((c'.relay.stageOf? i).any (·.denies) = true ↔
        limits.maxCircuits = some c.relay.slots.active)) ∧
    (∀ i, c.relay.Denied i → ∃ before a after d, as = before ++ a :: after ∧
      (start limits).run? before = some d ∧ a.contender? = some i ∧
      (∃ peer target, d.relay.stageOf? i = some (.found peer target)) ∧
      limits.maxCircuits = some d.relay.slots.active) ∧
    ((∀ i, Connects ts i → c.relay.stageOf? i = some .ended) → c.relay.slots.active = 0) := by
  obtain ⟨hturns, hwary⟩ := run?_turns (.start limits) hrun
  have hv := Placed.run hturns
  refine ⟨hturns, hv.nodup, hv.connects, hv.active_eq, hv.bounded, ?_, ?_, ?_⟩
  · intro a i c' haccess ha
    rw [denies_iff hwary haccess ha, hv.isFull_iff]
  · intro i hdenied
    obtain ⟨done, rest, d, hsplit, hdone, hfound, hfull⟩ := hv.denied i hdenied
    obtain ⟨before, a, after, d', rfl, hbefore, rfl, ha⟩ := exists_access hrun hsplit
    cases hdone.symm.trans (run?_turns (.start limits) hbefore).1
    exact ⟨before, a, after, d', rfl, hbefore, ha, hfound, hfull⟩
  · intro hended
    rw [hv.active_eq, List.length_eq_zero_iff, List.filter_eq_nil_iff]
    intro i hi
    simp [hended i (hv.connects i hi)]

/-- Two ask for the same target, and both read that no place is taken. The second to go on finds
that the only one is, and is told so; the first gives up while it waits. -/
def racingAccesses (circuit : CircuitId) : List Access :=
  [.turn .call, .turn (.check 0), .turn (.receive 0 (.ok (some (.reserve default)))),
    .turn (.number 0), .turn (.enter 0), .turn (.confirm 0 true), .turn .call, .turn (.check 1),
    .turn (.receive 1 (.ok (some (.connect default default)))), .turn .call, .turn (.check 2),
    .turn (.receive 2 (.ok (some (.connect default default)))), .turn (.look 1), .turn (.look 2),
    .load 1, .load 2, .exchange 1 false, .exchange 2 false, .turn (.register 1 circuit),
    .turn (.announce 1), .turn (.reply 2 true), .turn (.fire 1), .turn (.abandon 1),
    .turn (.withdraw 1), .turn (.release 1)]

theorem places_exact_raced :
    ∃ c, (start ⟨some 1, none, none⟩).run? (racingAccesses ⟨7⟩) = some c ∧
      c.relay.Denied 2 ∧ c.relay.slots.active = 0 ∧
      (Service.start ⟨some 1, none, none⟩).gather Service.seated
        ((start ⟨some 1, none, none⟩).turns (racingAccesses ⟨7⟩)) = [1] ∧
      ∃ before a after d, racingAccesses ⟨7⟩ = before ++ a :: after ∧
        (start ⟨some 1, none, none⟩).run? before = some d ∧ a.contender? = some 2 ∧
        d.relay.slots.active = 1 := by
  obtain ⟨c, hrun, htold, hstages⟩ :
      ∃ c, (start ⟨some 1, none, none⟩).run? (racingAccesses ⟨7⟩) = some c ∧
        c.relay.told = [(0, .reserved), (2, .error .resourceLimitExceeded
          (Error.resourceExceeded (.circuits 1)).message)] ∧
        c.relay.handlers.map (·.stage) = [.holding default 1, .ended, .ended] :=
    ⟨_, rfl, rfl, rfl⟩
  have hseated : (Service.start ⟨some 1, none, none⟩).gather Service.seated
      ((start ⟨some 1, none, none⟩).turns (racingAccesses ⟨7⟩)) = [1] := rfl
  have hdenied : c.relay.Denied 2 := .inl ⟨_, htold ▸ List.mem_cons_of_mem _ List.mem_cons_self, rfl⟩
  obtain ⟨-, -, -, hactive, -, -, hrefused, -⟩ := places_exact ⟨some 1, none, none⟩ hrun
  obtain ⟨before, a, after, d, hsplit, hbefore, ha, -, hfull⟩ := hrefused 2 hdenied
  refine ⟨c, hrun, hdenied, ?_, hseated, before, a, after, d, hsplit, hbefore, ha,
    (Option.some.inj hfull).symm⟩
  have hended : c.relay.stageOf? 1 = some .ended := by
    rw [Service.stageOf?, ← List.getElem?_map, hstages]
    rfl
  rw [hactive, hseated, List.filter_cons_of_neg, List.filter_nil, List.length_nil]
  simp [hended]

end Contest

end Rendezvous.Relay
