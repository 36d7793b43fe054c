import Mathlib.Data.List.Nodup
import Rendezvous.Proofs.Relay.Pairing

/-!
# Rendezvous.Proofs.Relay.Reservations

A peer's reservation is the one entered last, for as long as its handler has not ended. A newer
reservation takes the older one's place in the table, so that the older handler finds a number
there which is not its own when it ends, and leaves the entry alone.

What a turn does to reservations is said once for all turns (`Service.Books`). Reservations are
told apart by their numbers and by their handlers: each number is given out once, and each handler
enters one reservation (`Relay.Booked`).

* `Relay.Booking`: how far a handler has come with a reservation;
* `Service.entered`, `Service.Books`, `Service.books_of_moves`;
* `Relay.latest?`: what a peer entered last;
* `Relay.Booked`, `Relay.Booked.step`;
* `Service.reservations_latest`.
-/

namespace Rendezvous.Relay

/-! ### What a turn does to reservations -/

/-- How far a handler has come with a reservation. -/
inductive Booking where
  /-- It has none, or none any more. -/
  | none
  /-- It has a number for one that is not entered. -/
  | drawn (peer : PeerId) (number : Nat)
  | entered (peer : PeerId) (number : Nat)
deriving DecidableEq

/-- How far a handler in this stage has come with a reservation. -/
def Stage.booking : Stage → Booking
  | .numbered peer number => .drawn peer number
  | .confirming peer number | .holding peer number | .notifying peer number _ _
  | .leaving peer number => .entered peer number
  | _ => .none

namespace Service

variable {s s' u : Service} {t : RelayTurn} {i j : Nat} {a b : Stage}

/-- How far a handler has come with a reservation. -/
def booking (s : Service) (i : Nat) : Booking := (s.stageOf? i).elim .none (·.booking)

/-- The reservation that is entered, with its peer. -/
def entered (s : Service) : RelayTurn → List (PeerId × Reservation)
  | .enter i =>
    match s.stageOf? i with
    | some (.numbered peer number) => [(peer, ⟨number, i⟩)]
    | _ => []
  | _ => []

/-- What a turn can do to reservations, and which one it enters. -/
inductive Books (s : Service) : RelayTurn → List (PeerId × Reservation) → Service → Prop where
  | still {t : RelayTurn} {s' : Service} (htable : s'.reservations = s.reservations)
      (hnext : s'.nextNumber = s.nextNumber)
      (hstop : s.stopStage = .stopped → s'.stopStage = .stopped)
      (hbooking : ∀ j, s'.booking j = s.booking j) : Books s t [] s'
  | draw {i : Nat} {peer : PeerId} {s' : Service}
      (hst : s.stageOf? i = some (.asked (.reserve peer)))
      (htable : s'.reservations = s.reservations) (hnext : s'.nextNumber = s.nextNumber + 1)
      (hstop : s'.stopStage = s.stopStage)
      (hbooking : ∀ j, s'.booking j = if i = j then .drawn peer s.nextNumber else s.booking j) :
      Books s (.number i) [] s'
  | enter {i number : Nat} {peer : PeerId} {s' : Service} (hi : s.booking i = .drawn peer number)
      (htable : s'.reservations = s.reservations.insert peer ⟨number, i⟩)
      (hnext : s'.nextNumber = s.nextNumber) (hstop : s'.stopStage = s.stopStage)
      (hbooking : ∀ j, s'.booking j = if i = j then .entered peer number else s.booking j) :
      Books s (.enter i) [(peer, ⟨number, i⟩)] s'
  | leave {i number : Nat} {peer : PeerId} {s' : Service} (hi : s.booking i = .entered peer number)
      (htable : s'.reservations = if (s.reservations.get? peer).any (·.number == number) then
        s.reservations.erase peer else s.reservations)
      (hnext : s'.nextNumber = s.nextNumber) (hstop : s'.stopStage = s.stopStage)
      (hbooking : ∀ j, s'.booking j = if i = j then .none else s.booking j)
      (hended : s'.stageOf? i = some .ended) : Books s (.leave i) [] s'
  | clear {s' : Service} (htable : s'.reservations = []) (hnext : s'.nextNumber = s.nextNumber)
      (hstop : s'.stopStage = .stopped) (hbooking : ∀ j, s'.booking j = s.booking j) :
      Books s .stop [] s'

theorem booking_of_stageOf? (hst : s.stageOf? i = some a) : s.booking i = a.booking := by
  rw [booking, hst, Option.elim_some]

theorem booking_goto (hst : u.stageOf? i = some a) (b : Stage) (j : Nat) :
    (u.goto i b).booking j = if i = j then b.booking else u.booking j := by
  rw [booking, stageOf?_goto hst]
  split <;> rfl

/-- A handler that neither comes by a reservation nor loses one leaves all of them as they are. -/
theorem booking_alter (hst : u.stageOf? i = some a) {f : Handler → Handler}
    (hf : ∀ h, (f h).stage.booking = a.booking) (j : Nat) :
    (u.alter i f).booking j = u.booking j := by
  obtain ⟨h, hget, -⟩ := Option.map_eq_some_iff.1 hst
  rw [booking, stageOf?_alter]
  split
  · rename_i hij
    rw [← hij, hget, Option.map_some, Option.elim_some, hf, booking_of_stageOf? hst]
  · rfl

/-- A new handler has no reservation. -/
theorem booking_call (s : Service) (notices : List (CircuitId × PeerId)) (j : Nat) :
    ({ s with handlers := s.handlers ++ [⟨.called, false, notices, none⟩] } : Service).booking j =
      s.booking j := by
  rw [booking, booking, stageOf?_call]
  split
  · rename_i hj
    rw [hj, stageOf?_length]
    rfl
  · rfl

theorem booking_sent (success : Bool) (i : Nat) (r : Response) (j : Nat) :
    (s.sent success i r).booking j = s.booking j := by
  rw [booking, stageOf?_sent, booking]

/-- **What each turn does to reservations.** -/
theorem books_of_moves (hm : Moves s t s') : Books s t (s.entered t) s' := by
  cases hm with
  | call => exact .still rfl rfl id (booking_call s [])
  | fire i =>
      refine .still rfl rfl id fun j => ?_
      rw [booking, stageOf?_alter_of_stage]
      · rfl
      · exact fun _ => rfl
  | flag hstop | cancel hstop | clear hstop =>
      refine .still rfl rfl (fun hstopped => ?_) fun _ => rfl
      rw [hstop] at hstopped
      cases hstopped
  | stop => exact .clear rfl rfl rfl fun _ => rfl
  | hear => exact .still rfl rfl id fun _ => rfl
  | @reply i success r hst | @refuse i success r hst =>
      have hsent : (s.sent success i r).reservations = s.reservations ∧
          (s.sent success i r).nextNumber = s.nextNumber ∧
          (s.sent success i r).stopStage = s.stopStage := by
        cases success <;> exact ⟨rfl, rfl, rfl⟩
      refine .still hsent.1 hsent.2.1 (hsent.2.2.trans ·) fun j => ?_
      rw [goto, booking_alter ((stageOf?_sent ..).trans hst), booking_sent]
      exact fun _ => rfl
  | number hst => exact .draw hst rfl rfl rfl (booking_goto hst _)
  | @enter i number peer hst =>
      have hentered : s.entered (.enter i) = [(peer, ⟨number, i⟩)] := by
        simp only [entered, hst]
      rw [hentered]
      exact .enter (booking_of_stageOf? hst) rfl rfl rfl (booking_goto hst _)
  | notice hget hst =>
      refine .still rfl rfl id fun j => booking_alter (stageOf?_of_getElem? hget) (fun _ => ?_) j
      rw [hst]
      rfl
  | leave hst =>
      split
      · exact .leave (booking_of_stageOf? hst) (if_pos ‹_›).symm rfl rfl (booking_goto hst _)
          ((stageOf?_goto hst ..).trans (if_pos rfl))
      · exact .leave (booking_of_stageOf? hst) (if_neg ‹_›).symm rfl rfl (booking_goto hst _)
          ((stageOf?_goto hst ..).trans (if_pos rfl))
  | announce hst =>
      refine .still rfl rfl id fun j => ?_
      rw [goto, booking_alter ((stageOf?_announced ..).trans hst), booking, stageOf?_announced]
      · rfl
      · exact fun _ => rfl
  | check hst | turnAway hst | receive hst | hangUp hst | misread hst
  | confirm hst | unconfirmed hst | notify hst | unnotified hst | unheard hst | yield hst
  | runDry hst | look hst | unreserved hst | place hst | full hst | register hst | targetGone hst
  | expire hst | orphan hst | abandon hst | withdraw hst | withdrawMute hst | take hst | connect hst
  | unconnected hst | connectOther hst | otherUnconnected hst | finish hst | release hst | claim hst
  | unknown hst | offer hst | unwanted hst | regain hst =>
      exact .still rfl rfl id fun j => booking_alter hst (fun _ => rfl) j

/-- Whether a peer's reservation is entered and its handler still has it. -/
def live (s : Service) (peer : PeerId) (r : Reservation) : Bool :=
  s.booking r.handler = .entered peer r.number

end Service

/-! ### What was entered last -/

/-- What a peer entered last. -/
def latest? (entered : List (PeerId × Reservation)) (peer : PeerId) : Option Reservation :=
  (entered.reverse.find? (·.1 = peer)).map (·.2)

theorem latest?_snoc (entered : List (PeerId × Reservation)) (p q : PeerId) (r : Reservation) :
    latest? (entered ++ [(p, r)]) q = if p = q then some r else latest? entered q := by
  rw [latest?, List.reverse_append, List.reverse_singleton, List.singleton_append, List.find?_cons]
  by_cases hpq : p = q
  · simp [hpq]
  · simp [hpq, latest?]

theorem mem_of_latest? {entered : List (PeerId × Reservation)} {p : PeerId} {r : Reservation}
    (h : latest? entered p = some r) : (p, r) ∈ entered := by
  obtain ⟨e, hfind, rfl⟩ := Option.map_eq_some_iff.1 h
  have hp : e.1 = p := by simpa using List.find?_some hfind
  rw [← hp]
  exact List.mem_reverse.1 (List.mem_of_find?_eq_some hfind)

/-! ### What every turn preserves -/

/-- What is true of reservations at any time, after some turns that entered some. -/
structure Booked (ts : List RelayTurn) (entered : List (PeerId × Reservation)) (s : Service) :
    Prop where
  /-- A number is that of one handler, and of nothing that is entered. -/
  drawn : ∀ i p n, s.booking i = .drawn p n → Received ts i (.reserve p) ∧ n < s.nextNumber ∧
    (∀ e ∈ entered, e.2.number ≠ n) ∧ ∀ j q, s.booking j = .drawn q n → i = j
  entries : ∀ i p n, s.booking i = .entered p n → (p, ⟨n, i⟩) ∈ entered
  stands : ∀ p r, (p, r) ∈ entered → Received ts r.handler (.reserve p) ∧
    r.number < s.nextNumber ∧
    (s.booking r.handler = .entered p r.number ∨ s.stageOf? r.handler = some .ended)
  numbers : (entered.map (·.2.number)).Nodup
  handlers : (entered.map (·.2.handler)).Nodup
  table : ∀ p, s.reservations.get? p = (latest? entered p).filter (s.live p) ∨
    s.stopStage = .stopped ∧ s.reservations.get? p = none

namespace Booked

variable {ts : List RelayTurn} {entered : List (PeerId × Reservation)} {s s' : Service}
  {t : RelayTurn} {i n : Nat} {p q : PeerId} {r r' : Reservation}

theorem start (limits : Limits) : Booked [] [] (.start limits) := by
  refine ⟨?_, ?_, ?_, List.nodup_nil, List.nodup_nil, fun p => .inl rfl⟩
  all_goals simp [Service.start, Service.booking, Service.stageOf?]

variable (hv : Booked ts entered s)
include hv

theorem eq_of_number (h : (p, r) ∈ entered) (h' : (q, r') ∈ entered)
    (hn : r.number = r'.number) : p = q ∧ r = r' :=
  Prod.mk.inj (List.inj_on_of_nodup_map hv.numbers h h' hn)

theorem eq_of_handler (h : (p, r) ∈ entered) (h' : (q, r') ∈ entered)
    (hi : r.handler = r'.handler) : p = q ∧ r = r' :=
  Prod.mk.inj (List.inj_on_of_nodup_map hv.handlers h h' hi)

/-- A handler that goes on without a reservation that is entered has entered none. -/
theorem handler_ne (hi : ∀ q n, s.booking i ≠ .entered q n) (hgoes : s.stageOf? i ≠ some .ended)
    (h : (p, r) ∈ entered) : r.handler ≠ i := by
  rintro rfl
  rcases (hv.stands p r h).2.2 with hbooking | hended
  · exact hi _ _ hbooking
  · exact hgoes hended

/-- What is in the table is live, and was entered last. -/
theorem latest?_of_get? (h : s.reservations.get? p = some r) :
    latest? entered p = some r ∧ s.live p r = true := by
  rcases hv.table p with htable | ⟨-, hnone⟩
  · exact Option.filter_eq_some_iff.1 (htable.symm.trans h)
  · cases hnone.symm.trans h

/-- The table still has of a peer what it should if nothing of that peer's has changed. -/
theorem table_of_same (hstop : s.stopStage = .stopped → s'.stopStage = .stopped)
    (htable : s'.reservations.get? p = s.reservations.get? p)
    (hbooking : ∀ r, latest? entered p = some r →
      s'.booking r.handler = s.booking r.handler) :
    s'.reservations.get? p = (latest? entered p).filter (s'.live p) ∨
      s'.stopStage = .stopped ∧ s'.reservations.get? p = none := by
  have hlive : (latest? entered p).filter (s'.live p) = (latest? entered p).filter (s.live p) := by
    cases hlatest : latest? entered p with
    | none => rfl
    | some r =>
        have hsame : s'.live p r = s.live p r := by
          rw [Service.live, Service.live, hbooking r hlatest]
        rw [Option.filter_some, Option.filter_some, hsame]
  rw [htable, hlive]
  exact (hv.table p).imp_right fun h => ⟨hstop h.1, h.2⟩

/-- The numbers that are given out stay what they are while a handler's reservation comes or goes. -/
theorem drawn_of_other {b : Booking} (hb : ∀ q m, b ≠ .drawn q m)
    (hnext : s'.nextNumber = s.nextNumber)
    (hbooking : ∀ j, s'.booking j = if i = j then b else s.booking j) {j : Nat}
    (hj : s'.booking j = .drawn p n) :
    i ≠ j ∧ s.booking j = .drawn p n ∧ Received (ts ++ [t]) j (.reserve p) ∧ n < s'.nextNumber ∧
      (∀ e ∈ entered, e.2.number ≠ n) ∧ ∀ k q, s'.booking k = .drawn q n → j = k := by
  have hold {k : Nat} {q : PeerId} (hk : s'.booking k = .drawn q n) :
      i ≠ k ∧ s.booking k = .drawn q n := by
    rw [hbooking] at hk
    split at hk
    · exact absurd hk (hb q n)
    · exact ⟨‹_›, hk⟩
  obtain ⟨hij, hj⟩ := hold hj
  obtain ⟨hreq, hlt, hfresh, hone⟩ := hv.drawn j p n hj
  exact ⟨hij, hj, hreq.later, hnext ▸ hlt, hfresh, fun k q hk => hone k q (hold hk).2⟩

/-- The table when a handler leaves that has entered a reservation. If that is what its peer entered
last, the peer has none any more; if not, the handler finds a number that is not its own. -/
theorem table_leave {peer : PeerId} {number : Nat} (hi : s.booking i = .entered peer number)
    (htable : s'.reservations = if (s.reservations.get? peer).any (·.number == number) then
      s.reservations.erase peer else s.reservations)
    (hstop : s'.stopStage = s.stopStage)
    (hbooking : ∀ j, s'.booking j = if i = j then .none else s.booking j) (p : PeerId) :
    s'.reservations.get? p = (latest? entered p).filter (s'.live p) ∨
      s'.stopStage = .stopped ∧ s'.reservations.get? p = none := by
  have hmem : (peer, ⟨number, i⟩) ∈ entered := hv.entries i peer number hi
  by_cases hlast : p = peer ∧ latest? entered p = some ⟨number, i⟩
  · obtain ⟨rfl, hlatest⟩ := hlast
    left
    have hdead : s'.live p ⟨number, i⟩ = false := by
      rw [Service.live, hbooking, if_pos rfl]
      rfl
    rw [hlatest, Option.filter_some, hdead, if_neg Bool.false_ne_true, htable]
    cases hget : s.reservations.get? p with
    | none => simpa using hget
    | some r =>
        cases hlatest.symm.trans (hv.latest?_of_get? hget).1
        rw [Option.any_some, if_pos (beq_self_eq_true number), Table.get?_erase_self]
  · refine hv.table_of_same (hstop.trans ·) ?_ fun r hlatest => ?_
    · rw [htable]
      split
      · rename_i hsame
        refine Table.get?_erase_of_ne _ fun hp => hlast ⟨hp, ?_⟩
        cases hget : s.reservations.get? peer with
        | none => simp [hget] at hsame
        | some r =>
            have hlatest := (hv.latest?_of_get? hget).1
            rw [hget, Option.any_some, beq_iff_eq] at hsame
            rw [hp, hlatest, (hv.eq_of_number (mem_of_latest? hlatest) hmem hsame).2]
      · rfl
    · rw [hbooking, if_neg]
      intro heq
      obtain ⟨hp, hr⟩ := hv.eq_of_handler (mem_of_latest? hlatest) hmem heq.symm
      exact hlast ⟨hp, hr ▸ hlatest⟩

section Step

variable (hends : ∀ i, s.stageOf? i = some .ended → s'.stageOf? i = some .ended)
include hends

theorem step_same (hnext : s'.nextNumber = s.nextNumber)
    (hbooking : ∀ j, s'.booking j = s.booking j)
    (htable : ∀ p, s'.reservations.get? p = (latest? entered p).filter (s'.live p) ∨
      s'.stopStage = .stopped ∧ s'.reservations.get? p = none) : Booked (ts ++ [t]) entered s' := by
  refine ⟨fun i p n hi => ?_, fun i p n hi => ?_, fun p r h => ?_, hv.numbers, hv.handlers, htable⟩
  · rw [hbooking] at hi
    obtain ⟨hreq, hlt, hfresh, hone⟩ := hv.drawn i p n hi
    exact ⟨hreq.later, hnext ▸ hlt, hfresh, fun j q hj => hone j q (hbooking j ▸ hj)⟩
  · rw [hbooking] at hi
    exact hv.entries i p n hi
  · obtain ⟨hreq, hlt, hst⟩ := hv.stands p r h
    rw [hnext, hbooking]
    exact ⟨hreq.later, hlt, hst.imp_right (hends _)⟩

/-- A number that is given out is that of nothing else. -/
theorem step_draw {peer : PeerId} (hst : s.stageOf? i = some (.asked (.reserve peer)))
    (hreq : Received ts i (.reserve peer)) (htable : s'.reservations = s.reservations)
    (hnext : s'.nextNumber = s.nextNumber + 1) (hstop : s'.stopStage = s.stopStage)
    (hbooking : ∀ j, s'.booking j = if i = j then .drawn peer s.nextNumber else s.booking j) :
    Booked (ts ++ [t]) entered s' := by
  have hother {p : PeerId} {r : Reservation} (h : (p, r) ∈ entered) :
      s'.booking r.handler = s.booking r.handler := by
    have hne : r.handler ≠ i := by
      refine hv.handler_ne ?_ ?_ h
      · rw [Service.booking_of_stageOf? hst]
        exact nofun
      · rw [hst]
        exact nofun
    rw [hbooking, if_neg hne.symm]
  refine ⟨fun j p n hj => ?_, fun j p n hj => ?_, fun p r h => ?_, hv.numbers, hv.handlers,
    fun p => ?_⟩
  · rw [hbooking] at hj
    split at hj
    · rename_i hij
      subst hij
      cases hj
      refine ⟨hreq.later, by omega, fun e he => Nat.ne_of_lt (hv.stands e.1 e.2 he).2.1, ?_⟩
      intro k q hk
      rw [hbooking] at hk
      split at hk
      · assumption
      · exact absurd (hv.drawn k q _ hk).2.1 (Nat.lt_irrefl _)
    · obtain ⟨hreq', hlt, hfresh, hone⟩ := hv.drawn j p n hj
      refine ⟨hreq'.later, by omega, hfresh, fun k q hk => ?_⟩
      rw [hbooking] at hk
      split at hk
      · cases hk
        exact absurd hlt (Nat.lt_irrefl _)
      · exact hone k q hk
  · rw [hbooking] at hj
    split at hj
    · cases hj
    · exact hv.entries j p n hj
  · obtain ⟨hreq', hlt, hstands⟩ := hv.stands p r h
    rw [hother h]
    exact ⟨hreq'.later, by omega, hstands.imp_right (hends _)⟩
  · exact hv.table_of_same (hstop.trans ·) (by rw [htable]) fun r h => hother (mem_of_latest? h)

/-- A reservation that is entered takes the place of the one that its peer had. -/
theorem step_enter {peer : PeerId} {number : Nat} (hi : s.booking i = .drawn peer number)
    (htable : s'.reservations = s.reservations.insert peer ⟨number, i⟩)
    (hnext : s'.nextNumber = s.nextNumber) (hstop : s'.stopStage = s.stopStage)
    (hbooking : ∀ j, s'.booking j = if i = j then .entered peer number else s.booking j) :
    Booked (ts ++ [t]) (entered ++ [(peer, ⟨number, i⟩)]) s' := by
  obtain ⟨hreq, hlt, hfresh, hone⟩ := hv.drawn i peer number hi
  have hself : s'.booking i = .entered peer number := by rw [hbooking, if_pos rfl]
  have hne {p : PeerId} {r : Reservation} (h : (p, r) ∈ entered) : r.handler ≠ i := by
    refine hv.handler_ne ?_ ?_ h
    · rw [hi]
      exact nofun
    · intro hst
      rw [Service.booking_of_stageOf? hst] at hi
      cases hi
  have hother {p : PeerId} {r : Reservation} (h : (p, r) ∈ entered) :
      s'.booking r.handler = s.booking r.handler := by rw [hbooking, if_neg (hne h).symm]
  refine ⟨fun j p n hj => ?_, fun j p n hj => ?_, fun p r h => ?_, ?_, ?_, fun p => ?_⟩
  · obtain ⟨hij, hold, hreq', hlt', hfresh', hone'⟩ := hv.drawn_of_other (by simp) hnext hbooking hj
    refine ⟨hreq', hlt', fun e he => ?_, hone'⟩
    rcases List.mem_append.1 he with he | he
    · exact hfresh' e he
    · rw [List.mem_singleton.1 he]
      rintro rfl
      exact hij (hone j p hold)
  · rw [hbooking] at hj
    split at hj
    · rename_i hij
      cases hj
      exact List.mem_append_right _ (hij ▸ List.mem_cons_self)
    · exact List.mem_append_left _ (hv.entries j p n hj)
  · rcases List.mem_append.1 h with h | h
    · obtain ⟨hreq', hlt', hstands⟩ := hv.stands p r h
      rw [hother h, hnext]
      exact ⟨hreq'.later, hlt', hstands.imp_right (hends _)⟩
    · cases List.mem_singleton.1 h
      exact ⟨hreq.later, hnext ▸ hlt, .inl hself⟩
  · rw [List.map_append, List.map_singleton, List.nodup_append]
    refine ⟨hv.numbers, List.nodup_singleton _, ?_⟩
    rintro n hn m hm rfl
    obtain ⟨e, he, hen⟩ := List.mem_map.1 hn
    exact hfresh e he (hen.trans (List.mem_singleton.1 hm))
  · rw [List.map_append, List.map_singleton, List.nodup_append]
    refine ⟨hv.handlers, List.nodup_singleton _, ?_⟩
    rintro n hn m hm rfl
    obtain ⟨e, he, hen⟩ := List.mem_map.1 hn
    exact hne he (hen.trans (List.mem_singleton.1 hm))
  · by_cases hp : p = peer
    · left
      rw [htable, Table.get?_insert, if_pos hp, latest?_snoc, if_pos hp.symm, Option.filter_some,
        if_pos]
      rw [Service.live, hself, hp]
      exact decide_eq_true rfl
    · rw [latest?_snoc, if_neg (Ne.symm hp)]
      refine hv.table_of_same (hstop.trans ·) ?_ fun r h => hother (mem_of_latest? h)
      rw [htable, Table.get?_insert, if_neg hp]

/-- A reservation that is over is taken out, and no other. -/
theorem step_leave {peer : PeerId} {number : Nat} (hi : s.booking i = .entered peer number)
    (htable : s'.reservations = if (s.reservations.get? peer).any (·.number == number) then
      s.reservations.erase peer else s.reservations)
    (hnext : s'.nextNumber = s.nextNumber) (hstop : s'.stopStage = s.stopStage)
    (hbooking : ∀ j, s'.booking j = if i = j then .none else s.booking j)
    (hended : s'.stageOf? i = some .ended) : Booked (ts ++ [t]) entered s' := by
  have hmem : (peer, ⟨number, i⟩) ∈ entered := hv.entries i peer number hi
  refine ⟨fun j p n hj => ?_, fun j p n hj => ?_, fun p r h => ?_, hv.numbers, hv.handlers,
    fun p => ?_⟩
  · exact (hv.drawn_of_other (by simp) hnext hbooking hj).2.2
  · rw [hbooking] at hj
    split at hj
    · cases hj
    · exact hv.entries j p n hj
  · obtain ⟨hreq, hlt, hstands⟩ := hv.stands p r h
    refine ⟨hreq.later, hnext ▸ hlt, ?_⟩
    by_cases hij : i = r.handler
    · exact .inr (hij ▸ hended)
    · rw [hbooking, if_neg hij]
      exact hstands.imp_right (hends _)
  · exact hv.table_leave hi htable hstop hbooking p

end Step

/-- Every turn preserves what is true of reservations at any time. -/
theorem step {cl : List (CircuitId × Nat)} (hp : Paired ts cl s.view) (hm : s.Moves t s') :
    Booked (ts ++ [t]) (entered ++ s.entered t) s' := by
  have hends (i : Nat) (h : s.stageOf? i = some .ended) : s'.stageOf? i = some .ended := hm.ended h
  have hbooks := Service.books_of_moves hm
  generalize s.entered t = new at hbooks ⊢
  cases hbooks with
  | still htable hnext hstop hbooking =>
      rw [List.append_nil]
      refine hv.step_same hends hnext hbooking fun p => ?_
      exact hv.table_of_same hstop (by rw [htable]) fun r _ => hbooking _
  | draw hst htable hnext hstop hbooking =>
      rw [List.append_nil]
      have hreq := (hp.stands _ _ (Service.phases_of_stageOf? hst)).1
      exact hv.step_draw hends hst hreq htable hnext hstop hbooking
  | enter hi htable hnext hstop hbooking =>
      exact hv.step_enter hends hi htable hnext hstop hbooking
  | leave hi htable hnext hstop hbooking hended =>
      rw [List.append_nil]
      exact hv.step_leave hends hi htable hnext hstop hbooking hended
  | clear htable hnext hstop hbooking =>
      rw [List.append_nil]
      exact hv.step_same hends hnext hbooking fun p => .inr ⟨hstop, by rw [htable, Table.get?_nil]⟩

/-- A reservation goes out of the table when its own handler leaves, when its peer enters another or
when the relay stops. -/
theorem kept (hm : s.Moves t s') (hget : s.reservations.get? p = some r) :
    s'.reservations.get? p = some r ∨ (∃ r', (p, r') ∈ s.entered t) ∨ t = .leave r.handler ∨
      t = .stop := by
  have hbooks := Service.books_of_moves hm
  generalize s.entered t = new at hbooks ⊢
  cases hbooks with
  | still htable | draw _ htable => exact .inl (htable ▸ hget)
  | @enter i number peer _ hi htable =>
      by_cases hp : p = peer
      · subst hp
        exact .inr (.inl ⟨_, List.mem_cons_self⟩)
      · left
        rw [htable, Table.get?_insert, if_neg hp, hget]
  | @leave i number peer _ hi htable =>
      by_cases hsame : p = peer ∧ r.number = number
      · obtain ⟨rfl, hnumber⟩ := hsame
        have hmem := mem_of_latest? (hv.latest?_of_get? hget).1
        have hr := (hv.eq_of_number hmem (hv.entries i p number hi) hnumber).2
        exact .inr (.inr (.inl (hr ▸ rfl)))
      · left
        rw [htable]
        split
        · rename_i hany
          rw [Table.get?_erase_of_ne _ fun hp => hsame ⟨hp, ?_⟩, hget]
          subst hp
          simpa [hget] using hany
        · exact hget
  | clear => exact .inr (.inr (.inr rfl))

/-- A reservation is live as long as its handler has not ended. -/
theorem live_iff (h : (p, r) ∈ entered) :
    s.live p r = true ↔ s.stageOf? r.handler ≠ some .ended := by
  rw [Service.live, decide_eq_true_eq]
  rcases (hv.stands p r h).2.2 with hbooking | hended
  · refine iff_of_true hbooking fun hended => ?_
    rw [Service.booking_of_stageOf? hended] at hbooking
    cases hbooking
  · refine iff_of_false (fun hbooking => ?_) (not_not_intro hended)
    rw [Service.booking_of_stageOf? hended] at hbooking
    cases hbooking

end Booked

/-! ### The relay -/

theorem Booked.run {limits : Limits} {ts : List RelayTurn} {s : Service}
    (hrun : (Service.start limits).run? ts = some s) :
    Booked ts ((Service.start limits).gather Service.entered ts) s := by
  refine Service.run?_gather (motive := Booked) (.start limits) ?_ hrun
  intro done l u t u' hdone hu hstep
  exact hu.step ((Paired.start limits).run hdone) (Service.moves_of_step? hstep)

namespace Service

/-- **A peer's reservation is the one entered last.** Take any turns of any handlers, of their
clients and of the node, which may ask handlers to stop and may stop the relay.

* The reservations that are entered are those of handlers that were asked for them. Each has a
  number of its own and a handler of its own.
* Until the relay has stopped, a peer's reservation is the one that it entered last, unless the
  handler of that one has ended.
* At any time, what the table has of a peer is what it entered last, with the number that its
  handler still has.
* A reservation goes out of the table when its own handler leaves, when its peer enters another or
  when the relay stops, and not when any other handler leaves.
* Once every handler that was asked for a reservation has ended, the table is empty. -/
theorem reservations_latest (limits : Limits) {ts : List RelayTurn} {s : Service}
    (hrun : (start limits).run? ts = some s) :
    let entered := (start limits).gather entered ts
    (∀ p r, (p, r) ∈ entered → Received ts r.handler (.reserve p)) ∧
    (entered.map (·.2.number)).Nodup ∧ (entered.map (·.2.handler)).Nodup ∧
    (s.stopStage ≠ .stopped → ∀ p, s.reservations.get? p =
      (latest? entered p).filter fun r => s.stageOf? r.handler ≠ some .ended) ∧
    (∀ p r, s.reservations.get? p = some r → latest? entered p = some r ∧
      s.booking r.handler = .entered p r.number ∧ s.stageOf? r.handler ≠ some .ended) ∧
    (∀ t s' p r, s.step? t = some s' → s.reservations.get? p = some r →
      s'.reservations.get? p = some r ∨ (∃ r', (p, r') ∈ s.entered t) ∨ t = .leave r.handler ∨
        t = .stop) ∧
    ((∀ i p, Received ts i (.reserve p) → s.stageOf? i = some .ended) → s.reservations = []) := by
  have hv := Booked.run hrun
  refine ⟨fun p r h => (hv.stands p r h).1, hv.numbers, hv.handlers, fun hstop p => ?_,
    fun p r h => ?_, fun t s' p r hstep h => hv.kept (moves_of_step? hstep) h, fun hended => ?_⟩
  · rw [(hv.table p).resolve_right fun h => hstop h.1]
    cases hlatest : latest? ((start limits).gather Service.entered ts) p with
    | none => rfl
    | some r =>
        have hlive : s.live p r = decide (s.stageOf? r.handler ≠ some .ended) := by
          rw [Bool.eq_iff_iff, hv.live_iff (mem_of_latest? hlatest), decide_eq_true_eq]
        rw [Option.filter_some, Option.filter_some, hlive]
  · obtain ⟨hlatest, hlive⟩ := hv.latest?_of_get? h
    refine ⟨hlatest, ?_, (hv.live_iff (mem_of_latest? hlatest)).1 hlive⟩
    rwa [live, decide_eq_true_eq] at hlive
  · refine Table.eq_nil_of_get?_eq_none fun p => Option.eq_none_iff_forall_ne_some.2 fun r h => ?_
    have hmem := mem_of_latest? (hv.latest?_of_get? h).1
    exact (hv.live_iff hmem).1 (hv.latest?_of_get? h).2 (hended _ p (hv.stands p r hmem).1)

/-- A peer reserves twice, and the handler of the first reservation ends while the second stands. A
third stream is let in. -/
def replacingTurns : List RelayTurn :=
  [.call, .check 0, .receive 0 (.ok (some (.reserve default))), .number 0, .enter 0,
    .confirm 0 true, .call, .check 1, .receive 1 (.ok (some (.reserve default))), .number 1,
    .enter 1, .confirm 1 true, .fire 0, .yield 0, .leave 0, .call, .check 2]

/-- The relay stops, and the third enters its reservation when the table has been cleared. -/
def lateTurns : List RelayTurn :=
  [.stop, .stop, .stop, .stop, .receive 2 (.ok (some (.reserve default))), .number 2, .enter 2,
    .confirm 2 false, .yield 1, .leave 1, .leave 2]

theorem reservations_latest_replaced :
    ∃ s s', (start .unlimited).run? replacingTurns = some s ∧
      s.stageOf? 0 = some .ended ∧ s.reservations.get? default = some ⟨2, 1⟩ ∧
      (start .unlimited).run? (replacingTurns ++ lateTurns) = some s' ∧
      s'.stopStage = .stopped ∧ s'.reservations = [] := by
  obtain ⟨s, hrun, hstop, hstages⟩ : ∃ s, (start .unlimited).run? replacingTurns = some s ∧
      s.stopStage = .serving ∧
      s.handlers.map (·.stage) = [.ended, .holding default 2, .reading] :=
    ⟨_, rfl, rfl, rfl⟩
  obtain ⟨s', hrun', hstop', hstages'⟩ :
      ∃ s', (start .unlimited).run? (replacingTurns ++ lateTurns) = some s' ∧
        s'.stopStage = .stopped ∧ s'.handlers.map (·.stage) = List.replicate 3 .ended :=
    ⟨_, rfl, rfl, rfl⟩
  have hstage (i : Nat) : s.stageOf? i = [.ended, .holding default 2, .reading][i]? := by
    rw [stageOf?, ← List.getElem?_map, hstages]
  obtain ⟨-, -, -, hlatest, -⟩ := reservations_latest .unlimited hrun
  obtain ⟨-, -, -, -, -, -, hcleared⟩ := reservations_latest .unlimited hrun'
  refine ⟨s, s', hrun, hstage 0, ?_, hrun', hstop', hcleared fun i p hreq => ?_⟩
  · have hentered : (start .unlimited).gather entered replacingTurns =
        [(default, ⟨1, 0⟩), (default, ⟨2, 1⟩)] := rfl
    have hlast : latest? [(default, ⟨1, 0⟩), (default, ⟨2, 1⟩)] default = some ⟨2, 1⟩ := rfl
    rw [hlatest (by simp [hstop]), hentered, hlast, Option.filter_some, hstage 1]
    rfl
  · have hi : i < 3 := by
      simp [Received, replacingTurns, lateTurns] at hreq
      omega
    rw [stageOf?, ← List.getElem?_map, hstages', List.getElem?_replicate_of_lt hi]

end Service

end Rendezvous.Relay
