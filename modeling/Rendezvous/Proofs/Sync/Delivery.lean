import Rendezvous.Proofs.Sync.Turns

/-!
# Rendezvous.Proofs.Sync.Delivery

What becomes of the changes that a driver for a broker has accepted, whatever sessions begin and
end meanwhile. The driver is seen as a ledger: the changes that were sent, those that were
dropped, the one that was taken out of the queue, those that are still queued, and a tally of
tries. However the turns are taken, every accepted change stands in one place of it.

* `Ledger`, `Ledger.Moves`: the ledger and what a turn can do to it; `Broker.ledger_moves`;
* `Ledger.Tallied`, `Ledger.Balanced`: what every turn preserves; `Ledger.Balanced.step`;
* `Broker.Accounted`, `Broker.Reached`: what that says of a driver, and what is true of one at any
  time; `Broker.Reached.accounted`.
-/

namespace Rendezvous.Sync

/-- A change and its place in the order in which changes were accepted. -/
def Outbound.ticket (o : Outbound) : Event × Nat := (o.event, o.number)

/-- The place for the change that was taken out of the queue. -/
inductive Slot where
  | free
  /-- The change waits for the next session. -/
  | kept (o : Outbound)
  /-- The change is being sent. -/
  | flying (o : Outbound)

/-- The change in the place, if there is one. -/
def Slot.toList : Slot → List Outbound
  | .free => []
  | .kept o | .flying o => [o]

/-- What has become of the changes. -/
structure Ledger where
  accepted : List Event
  sent : List Outbound
  dropped : List (Outbound × DropReason)
  slot : Slot
  queue : List Outbound
  /-- The numbers of changes, one for each time that one was tried. -/
  tries : List Nat

namespace Ledger

variable {L L' : Ledger} {most : Nat}

/-- All places of the ledger. -/
def all (L : Ledger) : List Outbound :=
  L.sent ++ L.dropped.map (·.1) ++ L.slot.toList ++ L.queue

/-- The places without those of the changes that were dropped. -/
def kept (L : Ledger) : List Outbound := L.sent ++ L.slot.toList ++ L.queue

/-- What a turn can do to the ledger, if a change may be tried `most` times. -/
inductive Moves (most : Nat) (L : Ledger) : Ledger → Prop where
  | still : Moves most L L
  | accept (e : Event) :
      Moves most L { L with accepted := L.accepted ++ [e],
                            queue := L.queue ++ [⟨L.accepted.length, e, 0⟩] }
  | take {o : Outbound} {rest : List Outbound} (hslot : L.slot = .free)
      (hqueue : L.queue = o :: rest) :
      Moves most L { L with slot := .flying o, queue := rest, tries := L.tries ++ [o.number] }
  | resend {o : Outbound} (hslot : L.slot = .kept o) :
      Moves most L { L with slot := .flying o, tries := L.tries ++ [o.number] }
  | sent {o : Outbound} (hslot : L.slot = .flying o) :
      Moves most L { L with slot := .free, sent := L.sent ++ [o] }
  | failed {o : Outbound} (hslot : L.slot = .flying o) (hleft : o.failures + 1 < most) :
      Moves most L { L with slot := .kept { o with failures := o.failures + 1 } }
  | exhausted {o : Outbound} (hslot : L.slot = .flying o) (hspent : most ≤ o.failures + 1) :
      Moves most L { L with
        slot := .free,
        dropped := L.dropped ++ [({ o with failures := o.failures + 1 }, .retriesExhausted)] }
  | withdraw {o : Outbound} (hslot : L.slot = .kept o) :
      Moves most L { L with slot := .free, dropped := L.dropped ++ [(o, .disconnected)] }
  | discard {o : Outbound} {rest : List Outbound} (hqueue : L.queue = o :: rest) :
      Moves most L { L with queue := rest, dropped := L.dropped ++ [(o, .disconnected)] }

/-! ### Every change has one place -/

/-- A turn adds one change to the places at most. It puts no two in another order, but may take
one out of it. -/
theorem Moves.tickets (hm : Moves most L L') :
    (L'.accepted = L.accepted ∧
      (L'.all.map Outbound.ticket).Perm (L.all.map Outbound.ticket) ∧
      (L'.kept.map Outbound.ticket).Sublist (L.kept.map Outbound.ticket)) ∨
    ∃ e, L'.accepted = L.accepted ++ [e] ∧
      L'.all.map Outbound.ticket = L.all.map Outbound.ticket ++ [(e, L.accepted.length)] ∧
      L'.kept.map Outbound.ticket = L.kept.map Outbound.ticket ++ [(e, L.accepted.length)] := by
  cases hm with
  | still => exact Or.inl ⟨rfl, .refl _, .refl _⟩
  | accept e =>
      refine Or.inr ⟨e, rfl, ?_, ?_⟩ <;> simp [all, kept, Outbound.ticket]
  | take hslot hqueue =>
      refine Or.inl ⟨rfl, ?_, ?_⟩ <;> simp [all, kept, hslot, hqueue, Slot.toList]
  | resend hslot =>
      refine Or.inl ⟨rfl, ?_, ?_⟩ <;> simp [all, kept, hslot, Slot.toList]
  | failed hslot =>
      refine Or.inl ⟨rfl, ?_, ?_⟩ <;> simp [all, kept, hslot, Slot.toList, Outbound.ticket]
  | sent hslot =>
      -- The change goes to the end of what was sent, past what was dropped.
      refine Or.inl ⟨rfl, .map _ ?_, ?_⟩
      · simp only [all, hslot, Slot.toList, List.append_nil, List.append_assoc,
          List.singleton_append]
        exact .append_left _ List.perm_middle.symm
      · simp [kept, hslot, Slot.toList]
  | exhausted hslot =>
      refine Or.inl ⟨rfl, ?_, ?_⟩
      · simp [all, hslot, Slot.toList, Outbound.ticket]
      · simp [kept, hslot, Slot.toList]
  | withdraw hslot =>
      refine Or.inl ⟨rfl, ?_, ?_⟩
      · simp [all, hslot, Slot.toList]
      · simp [kept, hslot, Slot.toList]
  | discard hqueue =>
      -- The change goes to the end of what was dropped, past the one that was taken out.
      refine Or.inl ⟨rfl, .map _ ?_, .map _ ?_⟩
      · simp only [all, hqueue, List.map_append, List.map_cons, List.map_nil, List.append_assoc,
          List.singleton_append]
        exact .append_left _ (.append_left _ List.perm_middle.symm)
      · simp only [kept, hqueue, List.append_assoc]
        exact .append_left (.append_left (List.sublist_cons_self ..) _) _

/-! ### The tally -/

theorem count_snoc_of_ne {l : List Nat} {n m : Nat} (h : n ≠ m) :
    (l ++ [m]).count n = l.count n := by
  rw [List.count_append, List.count_singleton, if_neg (by simpa using Ne.symm h), Nat.add_zero]

theorem count_snoc_self (l : List Nat) (n : Nat) : (l ++ [n]).count n = l.count n + 1 := by
  rw [List.count_append, List.count_singleton_self]

/-- The tally of tries. -/
structure Tallied (most : Nat) (L : Ledger) : Prop where
  bounded : ∀ n, L.tries.count n ≤ most
  /-- Changes that are queued or to come were not tried. -/
  untried : ∀ o ∈ L.queue, L.tries.count o.number = 0 ∧ o.failures = 0
  ahead : ∀ n, L.accepted.length ≤ n → L.tries.count n = 0
  /-- The change that was taken out was tried as often as it failed, and may be tried again. -/
  tried : match L.slot with
    | .free => True
    | .kept o => L.tries.count o.number = o.failures ∧ o.failures < most
    | .flying o => L.tries.count o.number = o.failures + 1 ∧ o.failures < most
  /-- No change is given up before it was tried as often as is allowed. -/
  spent : ∀ d ∈ L.dropped, d.2 = .retriesExhausted → L.tries.count d.1.number = most

/-- What is true of the ledger at any time. -/
structure Balanced (most : Nat) (L : Ledger) : Prop where
  conserved : (L.all.map Outbound.ticket).Perm L.accepted.zipIdx
  ordered : (L.kept.map Outbound.ticket).Sublist L.accepted.zipIdx
  reasons : ∀ d ∈ L.dropped, d.2 = .retriesExhausted ∨ d.2 = .disconnected
  tallied : L.Tallied most

namespace Balanced

theorem empty (most : Nat) : Balanced most ⟨[], [], [], .free, [], []⟩ where
  conserved := .nil
  ordered := .slnil
  reasons := by simp
  tallied := ⟨by simp, by simp, by simp, trivial, by simp⟩

/-- No two places hold the change of one number. -/
theorem nodup_numbers (hb : Balanced most L) : (L.all.map (·.number)).Nodup := by
  have hperm := hb.conserved.map Prod.snd
  rw [List.map_map] at hperm
  refine hperm.nodup_iff.2 ?_
  rw [List.zipIdx_map_snd]
  exact List.nodup_range'

/-- The numbers are those of accepted changes. -/
theorem number_lt (hb : Balanced most L) {o : Outbound} (ho : o ∈ L.all) :
    o.number < L.accepted.length := by
  have hmem : o.ticket ∈ L.accepted.zipIdx := hb.conserved.mem_iff.1 (List.mem_map_of_mem ho)
  have hlt := (List.mem_zipIdx hmem).2.1
  rwa [Nat.zero_add] at hlt

theorem step_conserved (hb : Balanced most L) (hm : Moves most L L') :
    (L'.all.map Outbound.ticket).Perm L'.accepted.zipIdx ∧
      (L'.kept.map Outbound.ticket).Sublist L'.accepted.zipIdx := by
  obtain ⟨haccepted, hall, hkept⟩ | ⟨e, haccepted, hall, hkept⟩ := hm.tickets
  · rw [haccepted]
    exact ⟨hall.trans hb.conserved, hkept.trans hb.ordered⟩
  · rw [haccepted, hall, hkept, List.zipIdx_append]
    simp only [List.zipIdx_singleton, Nat.zero_add]
    exact ⟨hb.conserved.append_right _, hb.ordered.append (.refl _)⟩

theorem step_reasons (hb : Balanced most L) (hm : Moves most L L') :
    ∀ d ∈ L'.dropped, d.2 = .retriesExhausted ∨ d.2 = .disconnected := by
  have hnew (o : Outbound) {r : DropReason} (hr : r = .retriesExhausted ∨ r = .disconnected) :
      ∀ d ∈ L.dropped ++ [(o, r)], d.2 = .retriesExhausted ∨ d.2 = .disconnected := by
    intro d hd
    rcases List.mem_append.1 hd with hold | hlast
    · exact hb.reasons d hold
    · cases List.mem_singleton.1 hlast
      exact hr
  cases hm with
  | still | accept | take | resend | sent | failed => exact hb.reasons
  | exhausted => exact hnew _ (Or.inl rfl)
  | withdraw | discard => exact hnew _ (Or.inr rfl)

/-- A change that is taken out of the queue, or out of its place to be tried anew, has another
number than all others and than those to come. -/
theorem apart (hb : Balanced most L) {o : Outbound} {before after : List Outbound}
    (hall : L.all = before ++ o :: after) :
    (∀ u ∈ before, u.number ≠ o.number) ∧ (∀ u ∈ after, u.number ≠ o.number) ∧
      ∀ n, L.accepted.length ≤ n → n ≠ o.number := by
  have hnodup := hb.nodup_numbers
  rw [hall, List.map_append, List.map_cons] at hnodup
  obtain ⟨-, hcons, hapart⟩ := List.nodup_append.1 hnodup
  refine ⟨fun u hu => ?_, fun u hu heq => ?_, fun n hn heq => ?_⟩
  · exact hapart u.number (List.mem_map_of_mem hu) o.number List.mem_cons_self
  · exact (List.nodup_cons.1 hcons).1 (heq ▸ List.mem_map_of_mem hu)
  · have hlt := hb.number_lt (o := o) (by simp [hall])
    omega

/-- A change that may be tried is tried. -/
theorem tallied_try (hb : Balanced most L) {o : Outbound} {before rest : List Outbound}
    (hall : L.all = before ++ o :: rest) (hcount : L.tries.count o.number = o.failures)
    (hleft : o.failures < most) (hrest : ∀ u ∈ rest, u ∈ L.queue)
    (hbefore : ∀ d ∈ L.dropped, d.1 ∈ before) :
    Tallied most { L with slot := .flying o, queue := rest, tries := L.tries ++ [o.number] } := by
  obtain ⟨hdropped, hqueue, hcome⟩ := hb.apart hall
  have hself : (L.tries ++ [o.number]).count o.number = o.failures + 1 := by
    rw [count_snoc_self, hcount]
  refine ⟨fun n => ?_, fun u hu => ?_, fun n hn => ?_, ⟨hself, hleft⟩, fun d hd hreason => ?_⟩
  · by_cases hn : n = o.number
    · rw [hn, hself]
      exact hleft
    · rw [count_snoc_of_ne hn]
      exact hb.tallied.bounded n
  · rw [count_snoc_of_ne (hqueue u hu)]
    exact hb.tallied.untried u (hrest u hu)
  · rw [count_snoc_of_ne (hcome n hn)]
    exact hb.tallied.ahead n hn
  · rw [count_snoc_of_ne (hdropped d.1 (hbefore d hd))]
    exact hb.tallied.spent d hd hreason

theorem step_tallied (hmost : 0 < most) (hb : Balanced most L) (hm : Moves most L L') :
    L'.Tallied most := by
  obtain ⟨hbounded, huntried, hahead, htried, hspent⟩ := hb.tallied
  have hbefore : ∀ d ∈ L.dropped, d.1 ∈ L.sent ++ L.dropped.map (·.1) := fun d hd =>
    List.mem_append_right _ (List.mem_map_of_mem hd)
  -- A change that was dropped for want of a session need not have been tried.
  have hdrop (o : Outbound) : ∀ d ∈ L.dropped ++ [(o, .disconnected)],
      d.2 = .retriesExhausted → L.tries.count d.1.number = most := by
    intro d hd hreason
    rcases List.mem_append.1 hd with hold | hlast
    · exact hspent d hold hreason
    · cases List.mem_singleton.1 hlast
      cases hreason
  cases hm with
  | still => exact hb.tallied
  | accept e =>
      refine ⟨hbounded, fun o ho => ?_, fun n hn => hahead n ?_, htried, hspent⟩
      · rcases List.mem_append.1 ho with hold | hlast
        · exact huntried o hold
        · cases List.mem_singleton.1 hlast
          exact ⟨hahead _ (Nat.le_refl _), rfl⟩
      · exact Nat.le_trans (by simp) hn
  | @take o rest hslot hqueue =>
      obtain ⟨hzero, hfailures⟩ := huntried o (hqueue ▸ List.mem_cons_self)
      have hall : L.all = (L.sent ++ L.dropped.map (·.1)) ++ o :: rest := by
        simp [all, hslot, hqueue, Slot.toList]
      exact hb.tallied_try hall (hzero.trans hfailures.symm) (hfailures ▸ hmost)
        (fun u hu => hqueue ▸ List.mem_cons_of_mem o hu) hbefore
  | @resend o hslot =>
      rw [hslot] at htried
      have hall : L.all = (L.sent ++ L.dropped.map (·.1)) ++ o :: L.queue := by
        simp [all, hslot, Slot.toList]
      exact hb.tallied_try hall htried.1 htried.2 (fun u hu => hu) hbefore
  | sent => exact ⟨hbounded, huntried, hahead, trivial, hspent⟩
  | failed hslot hleft =>
      rw [hslot] at htried
      exact ⟨hbounded, huntried, hahead, ⟨htried.1, hleft⟩, hspent⟩
  | exhausted hslot hlast =>
      rw [hslot] at htried
      refine ⟨hbounded, huntried, hahead, trivial, fun d hd hreason => ?_⟩
      rcases List.mem_append.1 hd with hold | hnew
      · exact hspent d hold hreason
      · cases List.mem_singleton.1 hnew
        exact htried.1.trans (Nat.le_antisymm htried.2 hlast)
  | withdraw => exact ⟨hbounded, huntried, hahead, trivial, hdrop _⟩
  | discard hqueue =>
      exact ⟨hbounded, fun o ho => huntried o (hqueue ▸ List.mem_cons_of_mem _ ho), hahead, htried,
        hdrop _⟩

/-- Every turn preserves what is true of the ledger at any time. -/
theorem step (hmost : 0 < most) (hb : Balanced most L) (hm : Moves most L L') :
    Balanced most L' where
  conserved := (hb.step_conserved hm).1
  ordered := (hb.step_conserved hm).2
  reasons := hb.step_reasons hm
  tallied := hb.step_tallied hmost hm

end Balanced

end Ledger

/-! ### The ledger of a driver -/

namespace Broker

variable {b b' : Broker}

/-- The place for the change that was taken out of the queue. -/
def slot (b : Broker) : Slot :=
  match b.pending with
  | none => .free
  | some o => if b.isSending then .flying o else .kept o

/-- What has become of the changes. -/
def ledger (b : Broker) : Ledger :=
  ⟨b.accepted, b.sent, b.dropped, b.slot, b.queue, b.tries⟩

theorem slot_of_none (h : b.pending = none) : b.slot = .free := by rw [slot, h]

theorem slot_of_flying {o : Outbound} (h : b.pending = some o) (hphase : b.phase = .sending) :
    b.slot = .flying o := by
  simp [slot, h, isSending, hphase]

theorem slot_of_kept {o : Outbound} (h : b.pending = some o) (hsending : b.isSending = false) :
    b.slot = .kept o := by
  simp [slot, h, hsending]

theorem toList_slot (b : Broker) : b.slot.toList = b.pending.toList := by
  rw [slot]
  cases b.pending with
  | none => rfl
  | some o => cases b.isSending <;> rfl

/-- Turns that only change the phase of a driver which sends nothing. -/
theorem ledger_still {most : Nat} {phase : BrokerPhase} {stopping hasSession : Bool}
    (hsending : b.isSending = false)
    (hsending' : isSending { b with phase, stopping, hasSession } = false) :
    b.ledger.Moves most (ledger { b with phase, stopping, hasSession }) := by
  have hslot : slot { b with phase, stopping, hasSession } = b.slot := by
    rw [slot, slot, hsending, hsending']
  rw [ledger, ledger, hslot]
  exact .still

theorem ledger_moves (hp : b.Poised) (hm : b.Moves b') :
    b.ledger.Moves b.config.retry.attempts b'.ledger := by
  cases hm with
  | aside => exact .still
  | accept e => exact .accept e
  | start hphase =>
      refine ledger_still (by simp [isSending, hphase]) ?_
      cases hsession : b.hasSession <;> simp [isSending]
  | halt hsending =>
      refine ledger_still hsending ?_
      rfl
  | dial hphase | overflow hphase | again hphase | giveUp hphase | lost hphase | resume hphase
  | enter hphase =>
      refine ledger_still (by simp [isSending, hphase]) ?_
      rfl
  | resend hphase hpending =>
      exact .resend (slot_of_kept hpending (by simp [isSending, hphase]))
  | withdraw hphase =>
      have hsending : b.isSending = false := by simp [isSending, hphase]
      rcases Option.eq_none_or_eq_some b.pending with hpending | ⟨o, hpending⟩
      · rw [dropPending_of_none hpending]
        refine ledger_still hsending ?_
        rfl
      · rw [dropPending_of_some hpending]
        exact .withdraw (slot_of_kept hpending hsending)
  | take hphase hqueue => exact .take (slot_of_none (hp.pending_of_connected hphase)) hqueue
  | sent hphase hpending => exact .sent (slot_of_flying hpending hphase)
  | failed hphase hpending hleft => exact .failed (slot_of_flying hpending hphase) hleft
  | exhausted hphase hpending hspent => exact .exhausted (slot_of_flying hpending hphase) hspent
  | discard hphase hqueue => exact .discard hqueue

/-- The pending change is not replaced by another: it stays until it is sent or dropped. -/
theorem pending_settled (hp : b.Poised) (hm : b.Moves b') {o : Outbound}
    (hpending : b.pending = some o) :
    (∃ o', b'.pending = some o' ∧ o'.ticket = o.ticket) ∨
    b'.pending = none ∧ (b'.sent = b.sent ++ [o] ∨
      ∃ o' r, o'.ticket = o.ticket ∧ b'.dropped = b.dropped ++ [(o', r)]) := by
  cases hm with
  | sent _ h =>
      cases h.symm.trans hpending
      exact Or.inr ⟨rfl, Or.inl rfl⟩
  | exhausted _ h =>
      cases h.symm.trans hpending
      exact Or.inr ⟨rfl, Or.inr ⟨{ o with failures := o.failures + 1 }, _, rfl, rfl⟩⟩
  | withdraw =>
      rw [dropPending_of_some hpending]
      exact Or.inr ⟨rfl, Or.inr ⟨o, _, rfl, rfl⟩⟩
  | failed _ h =>
      cases h.symm.trans hpending
      exact Or.inl ⟨_, rfl, rfl⟩
  | resend _ h =>
      cases h.symm.trans hpending
      exact Or.inl ⟨o, rfl, rfl⟩
  | take hphase => cases (hp.pending_of_connected hphase).symm.trans hpending
  | _ => exact Or.inl ⟨o, hpending, rfl⟩

/-! ### Runs -/

/-- A driver at its beginning. -/
def fresh (c : BrokerConfig) (url : SocketUrl) : Broker :=
  { config := c, url, phase := .ready, hasSession := false, queue := [], pending := none,
    subscribed := false, closed := false, cancelled := false, stopping := false, accepted := [],
    sent := [], dropped := [], refused := 0, tries := [], handled := [] }

theorem make_eq (c : BrokerConfig) :
    make c = match SocketUrl.ofServer c.server with
      | .error e => .error (.error (.badEndpoint e.text))
      | .ok url =>
        if c.places ≤ Places.most then .ok (fresh c url)
        else .error (.crash (.tooManyPlaces c.places)) := by
  rw [make]
  cases SocketUrl.ofServer c.server with
  | error e => rfl
  | ok url =>
      show (Places.demand c.places >>= fun _ => pure (fresh c url)) = _
      rw [Places.demand]
      split <;> rfl

/-- What is true of a driver with such settings at any time. -/
structure Reached (c : BrokerConfig) (b : Broker) : Prop where
  config : b.config = c
  poised : b.Poised
  heeding : b.Heeding
  balanced : b.ledger.Balanced c.retry.attempts

namespace Reached

variable {c : BrokerConfig}

theorem fresh (c : BrokerConfig) (url : SocketUrl) : Reached c (Broker.fresh c url) :=
  ⟨rfl, rfl, Or.inr, .empty _⟩

theorem make (h : Broker.make c = .ok b) : Reached c b := by
  rw [make_eq] at h
  split at h
  · cases h
  · split at h <;> cases h
    exact fresh c _

theorem step (hr : Reached c b) (hm : b.Moves b') : Reached c b' := by
  have hmost : 0 < c.retry.attempts := Nat.lt_of_lt_of_le Nat.zero_lt_one (Nat.le_max_left ..)
  have hledger := ledger_moves hr.poised hm
  rw [hr.config] at hledger
  exact ⟨hm.config.trans hr.config, hr.poised.step hm, hr.heeding.step hm,
    hr.balanced.step hmost hledger⟩

theorem run (hr : Reached c b) {turns : List BrokerTurn} (hrun : b.run? turns = some b') :
    Reached c b' :=
  run?_induction step hrun hr

end Reached

/-- What has become of the changes that a driver has accepted, if each may be tried `most`
times. -/
structure Accounted (most : Nat) (b : Broker) : Prop where
  /-- Each change, told apart from equal ones by its number, stands in one place: it was sent, was
  dropped, is pending or is queued. -/
  placed : ((b.sent ++ b.dropped.map (·.1) ++ b.pending.toList ++ b.queue).map
    Outbound.ticket).Perm b.accepted.zipIdx
  /-- Changes are dropped because their tries were spent or there was no session. -/
  reasons : ∀ d ∈ b.dropped, d.2 = .retriesExhausted ∨ d.2 = .disconnected
  /-- Changes are sent in the order in which they were accepted. -/
  ordered : (b.sent.map (·.event)).Sublist b.accepted
  bounded : ∀ n, b.tries.count n ≤ most
  /-- A change is not given up before it was tried as often as is allowed. -/
  spent : ∀ d ∈ b.dropped, d.2 = .retriesExhausted → b.tries.count d.1.number = most
  /-- The pending change is not replaced by another in any turn: it stays, until it is sent or
  dropped. -/
  settled : ∀ t b' o, b.step? t = some b' → b.pending = some o →
    (∃ o', b'.pending = some o' ∧ o'.ticket = o.ticket) ∨
    b'.pending = none ∧ (b'.sent = b.sent ++ [o] ∨
      ∃ o' r, o'.ticket = o.ticket ∧ b'.dropped = b.dropped ++ [(o', r)])

theorem Reached.accounted {c : BrokerConfig} (hr : Reached c b) :
    b.Accounted c.retry.attempts where
  placed := by
    rw [← toList_slot]
    exact hr.balanced.conserved
  reasons := hr.balanced.reasons
  ordered := by
    have hsent : (b.sent.map Outbound.ticket).Sublist (b.ledger.kept.map Outbound.ticket) := by
      refine .map _ ?_
      rw [Ledger.kept, List.append_assoc]
      exact List.sublist_append_left ..
    have hfst := (hsent.trans hr.balanced.ordered).map Prod.fst
    rwa [List.map_map, List.zipIdx_map_fst] at hfst
  bounded := hr.balanced.tallied.bounded
  spent := hr.balanced.tallied.spent
  settled _ _ _ hstep := pending_settled hr.poised (moves_of_step? hstep)

end Broker

end Rendezvous.Sync
