import Rendezvous.Relay.Service

/-!
# Rendezvous.Proofs.Relay.Turns

What a turn of the relay can do, said once for all turns. A handler is in one stage before its
turn and in another behind it; the other handlers are left where they are.

* `Service.sent`: a client is told something, unless it cannot be;
* `Service.stageOf?_alter`: the stages behind a change of one handler;
* `Service.Moves`, `Service.moves_of_step?`: what a turn can do;
* `Service.Moves.stays`: a handler that has ended stays so, and one that has given up waiting takes
  its circuit out next;
* `Service.run?_cons`: a run begins with a turn;
* `Service.gather`, `Service.run?_gather`: what a run yields, and what every turn preserves.
-/

namespace Rendezvous.Relay

/-- Whether a handler has ended, or has given up waiting for a circuit. -/
def Stage.rests : Stage → Bool
  | .ended | .lapsed _ _ => true
  | _ => false

namespace Service

/-! ### Changes of one handler -/

/-- A client is told something, if it can be. -/
def sent (s : Service) (success : Bool) (i : Nat) (r : Response) : Service :=
  if success then s.tell i r else s

variable {s s' : Service} {i : Nat}

theorem stageOf?_alter (f : Handler → Handler) (j : Nat) :
    (s.alter i f).stageOf? j =
      if i = j then (s.handlers[j]?).map fun h => (f h).stage else s.stageOf? j := by
  simp only [stageOf?, alter, List.getElem?_modify]
  split <;> cases s.handlers[j]? <;> rfl

/-- A change of a handler that keeps its stage keeps all stages. -/
theorem stageOf?_alter_of_stage {f : Handler → Handler} (h : ∀ g, (f g).stage = g.stage)
    (j : Nat) : (s.alter i f).stageOf? j = s.stageOf? j := by
  rw [stageOf?_alter]
  split
  · simp only [h, stageOf?]
  · rfl

theorem stageOf?_of_getElem? {h : Handler} (hget : s.handlers[i]? = some h) :
    s.stageOf? i = some h.stage := by
  rw [stageOf?, hget]
  rfl

theorem stageOf?_goto {a : Stage} (hst : s.stageOf? i = some a) (b : Stage) (j : Nat) :
    (s.goto i b).stageOf? j = if i = j then some b else s.stageOf? j := by
  obtain ⟨h, hget, -⟩ := Option.map_eq_some_iff.1 hst
  rw [goto, stageOf?_alter]
  split
  · rename_i hij
    rw [← hij, hget]
    rfl
  · rfl

/-- A handler is left alone by a change of one that is in another stage. -/
theorem stageOf?_alter_of_ne {a b : Stage} (hst : s.stageOf? i = some a) (hab : a ≠ b)
    (f : Handler → Handler) {j : Nat} (hj : s.stageOf? j = some b) :
    (s.alter i f).stageOf? j = some b := by
  rw [stageOf?_alter, if_neg, hj]
  rintro rfl
  exact hab (Option.some.inj (hst.symm.trans hj))

@[simp] theorem stageOf?_sent (success : Bool) (i : Nat) (r : Response) (j : Nat) :
    (s.sent success i r).stageOf? j = s.stageOf? j := by
  cases success <;> rfl

/-- A handler to which a circuit is announced stays in its stage. -/
@[simp] theorem stageOf?_announced (owner : Nat) (e : CircuitId × PeerId) (j : Nat) :
    (s.alter owner fun h => { h with notices := h.notices ++ [e] }).stageOf? j = s.stageOf? j := by
  rw [stageOf?_alter_of_stage]
  exact fun _ => rfl

theorem stageOf?_length (s : Service) : s.stageOf? s.handlers.length = none := by
  rw [stageOf?, List.getElem?_eq_none (Nat.le_refl _)]
  rfl

/-- The stages once a stream has come. -/
theorem stageOf?_call (s : Service) (h : Handler) (j : Nat) :
    ({ s with handlers := s.handlers ++ [h] } : Service).stageOf? j =
      if j = s.handlers.length then some h.stage else s.stageOf? j := by
  rw [stageOf?, List.getElem?_append]
  split
  · rename_i hlt
    rw [if_neg (Nat.ne_of_lt hlt), stageOf?]
  · rename_i hge
    rw [List.getElem?_singleton]
    by_cases hj : j = s.handlers.length
    · rw [if_pos hj, if_pos (by omega)]
      rfl
    · rw [if_neg hj, if_neg (by omega), stageOf?,
        List.getElem?_eq_none (Nat.le_of_not_lt hge)]

/-! ### Turns -/

/-- What a turn can do. -/
inductive Moves (s : Service) : RelayTurn → Service → Prop where
  | call : Moves s .call { s with handlers := s.handlers ++ [⟨.called, false, [], none⟩] }
  | check {i : Nat} (hst : s.stageOf? i = some .called) (hstop : s.stopStage = .serving) :
      Moves s (.check i) (s.goto i .reading)
  | turnAway {i : Nat} (hst : s.stageOf? i = some .called) (hstop : s.stopStage ≠ .serving) :
      Moves s (.check i) (s.goto i (.replying (.error .unavailable "relay is stopping")))
  | receive {i : Nat} {r : Request} (hst : s.stageOf? i = some .reading) :
      Moves s (.receive i (.ok (some r))) (s.goto i (.asked r))
  | hangUp {i : Nat} (hst : s.stageOf? i = some .reading) :
      Moves s (.receive i (.ok none)) (s.goto i .ended)
  | misread {i : Nat} {e : StreamError} (hst : s.stageOf? i = some .reading) :
      Moves s (.receive i (.error e)) (s.goto i (.replying (.error .malformed e.message)))
  | fire (i : Nat) : Moves s (.fire i) (s.alter i fun h => { h with fired := true })
  | reply {i : Nat} {success : Bool} {r : Response} (hst : s.stageOf? i = some (.replying r)) :
      Moves s (.reply i success) ((s.sent success i r).goto i .ended)
  | refuse {i : Nat} {success : Bool} {r : Response} (hst : s.stageOf? i = some (.refusing r)) :
      Moves s (.reply i success) ((s.sent success i r).goto i .releasing)
  | flag (hstop : s.stopStage = .serving) : Moves s .stop { s with stopStage := .flagged }
  | cancel (hstop : s.stopStage = .flagged) : Moves s .stop { s with stopStage := .cancelled }
  | clear (hstop : s.stopStage = .cancelled) :
      Moves s .stop { s with stopStage := .cleared, pending := [] }
  | stop (hstop : s.stopStage = .cleared) :
      Moves s .stop { s with stopStage := .stopped, reservations := [] }
  | number {i : Nat} {peer : PeerId} (hst : s.stageOf? i = some (.asked (.reserve peer))) :
      Moves s (.number i)
        ({ s with nextNumber := s.nextNumber + 1 }.goto i (.numbered peer s.nextNumber))
  | enter {i number : Nat} {peer : PeerId} (hst : s.stageOf? i = some (.numbered peer number)) :
      Moves s (.enter i)
        ({ s with reservations := s.reservations.insert peer ⟨number, i⟩ }.goto i
          (.confirming peer number))
  | confirm {i number : Nat} {peer : PeerId}
      (hst : s.stageOf? i = some (.confirming peer number)) :
      Moves s (.confirm i true) ((s.tell i .reserved).goto i (.holding peer number))
  | unconfirmed {i number : Nat} {peer : PeerId}
      (hst : s.stageOf? i = some (.confirming peer number)) :
      Moves s (.confirm i false) (s.goto i (.leaving peer number))
  | notice {i number : Nat} {peer initiator : PeerId} {circuit : CircuitId} {h : Handler}
      {rest : List (CircuitId × PeerId)} (hget : s.handlers[i]? = some h)
      (hst : h.stage = .holding peer number) (hnotices : h.notices = (circuit, initiator) :: rest) :
      Moves s (.notice i) (s.alter i fun h =>
        { h with stage := .notifying peer number circuit initiator, notices := rest })
  | notify {i number : Nat} {peer initiator : PeerId} {circuit : CircuitId}
      (hst : s.stageOf? i = some (.notifying peer number circuit initiator)) :
      Moves s (.notify i true)
        ((s.tell i (.incoming circuit initiator)).goto i (.holding peer number))
  | unnotified {i number : Nat} {peer initiator : PeerId} {circuit : CircuitId}
      (hst : s.stageOf? i = some (.notifying peer number circuit initiator)) :
      Moves s (.notify i false) (s.goto i (.leaving peer number))
  | hear {i number : Nat} {peer : PeerId} (hst : s.stageOf? i = some (.holding peer number)) :
      Moves s (.hear i true) s
  | unheard {i number : Nat} {peer : PeerId} (hst : s.stageOf? i = some (.holding peer number)) :
      Moves s (.hear i false) (s.goto i (.leaving peer number))
  | yield {i number : Nat} {peer : PeerId} (hst : s.stageOf? i = some (.holding peer number))
      (hfired : s.isFired i = true) : Moves s (.yield i) (s.goto i (.leaving peer number))
  | runDry {i number : Nat} {peer : PeerId} (hst : s.stageOf? i = some (.holding peer number))
      (hsource : s.hasSource i = false) : Moves s (.runDry i) (s.goto i (.leaving peer number))
  | leave {i number : Nat} {peer : PeerId} (hst : s.stageOf? i = some (.leaving peer number)) :
      Moves s (.leave i)
        ((if (s.reservations.get? peer).any (·.number == number) then
          { s with reservations := s.reservations.erase peer } else s).goto i .ended)
  | look {i : Nat} {peer target : PeerId} {r : Reservation}
      (hst : s.stageOf? i = some (.asked (.connect peer target)))
      (hget : s.reservations.get? target = some r) :
      Moves s (.look i)
        (s.alter i fun h => { h with stage := .found peer target, target := some r.handler })
  | unreserved {i : Nat} {peer target : PeerId}
      (hst : s.stageOf? i = some (.asked (.connect peer target)))
      (hget : s.reservations.get? target = none) :
      Moves s (.look i) ((s.count .noReservation).goto i
        (.replying (.error .noReservation (target.toText ++ " has no reservation"))))
  | place {i : Nat} {peer target : PeerId} {slots : Slots}
      (hst : s.stageOf? i = some (.found peer target)) (hslots : s.slots.acquire = .ok slots) :
      Moves s (.place i) ({ s with slots }.goto i (.placed peer target))
  | full {i : Nat} {peer target : PeerId} {limit : LimitReached}
      (hst : s.stageOf? i = some (.found peer target)) (hslots : s.slots.acquire = .error limit) :
      Moves s (.place i) ((s.count .rejected).goto i
        (.replying (.error .resourceLimitExceeded (Error.resourceExceeded limit).message)))
  | register {i : Nat} {peer target : PeerId} {circuit : CircuitId}
      (hst : s.stageOf? i = some (.placed peer target)) (hfresh : circuit ∉ s.circuits) :
      Moves s (.register i circuit)
        ({ s with pending := s.pending.insert circuit i,
                  circuits := circuit :: s.circuits }.goto i (.announcing peer target circuit))
  /-- There is room for the announcement. -/
  | announce {i owner : Nat} {peer target : PeerId} {circuit : CircuitId} {h : Handler}
      (hst : s.stageOf? i = some (.announcing peer target circuit))
      (howner : s.handlers[owner]? = some h) (htakes : h.stage.takesNotices = true)
      (hroom : h.notices.length < noticePlaces) :
      Moves s (.announce i)
        ((s.alter owner fun h => { h with notices := h.notices ++ [(circuit, peer)] }).goto i
          (.waiting circuit))
  /-- The target's handler has ended. -/
  | targetGone {i owner : Nat} {peer target : PeerId} {circuit : CircuitId} {h : Handler}
      (hst : s.stageOf? i = some (.announcing peer target circuit))
      (howner : s.handlers[owner]? = some h) (htakes : h.stage.takesNotices = false) :
      Moves s (.announce i) (s.goto i (.lapsed circuit (.targetGone target)))
  | expire {i : Nat} {circuit : CircuitId} (hst : s.stageOf? i = some (.waiting circuit)) :
      Moves s (.expire i) (s.goto i (.lapsed circuit .timedOut))
  | orphan {i : Nat} {circuit : CircuitId} (hst : s.stageOf? i = some (.waiting circuit))
      (hpending : s.pending.get? circuit = none) :
      Moves s (.orphan i) (s.goto i (.lapsed circuit .timedOut))
  | abandon {i : Nat} {circuit : CircuitId} (hst : s.stageOf? i = some (.waiting circuit))
      (hfired : s.isFired i = true) :
      Moves s (.abandon i) (s.goto i (.lapsed circuit .cancelled))
  | withdraw {i : Nat} {circuit : CircuitId} {cause : Lapse} {r : Response} {o : CircuitOutcome}
      (hst : s.stageOf? i = some (.lapsed circuit cause)) (hreply : cause.reply? = some r)
      (houtcome : cause.outcome? = some o) :
      Moves s (.withdraw i)
        (({ s with pending := s.pending.erase circuit }.count o).goto i (.refusing r))
  /-- A handler that is to stop answers nothing. -/
  | withdrawMute {i : Nat} {circuit : CircuitId}
      (hst : s.stageOf? i = some (.lapsed circuit .cancelled)) :
      Moves s (.withdraw i) ({ s with pending := s.pending.erase circuit }.goto i .releasing)
  | take {i other : Nat} {circuit : CircuitId} (hst : s.stageOf? i = some (.waiting circuit))
      (hother : s.stageOf? other = some (.lent circuit i)) :
      Moves s (.take i other)
        ({ s with pairs := s.pairs ++ [(circuit, i, other)] }.goto i (.matched circuit other))
  | connect {i other : Nat} {circuit : CircuitId}
      (hst : s.stageOf? i = some (.matched circuit other)) :
      Moves s (.connect i true)
        ((s.tell i (.connected circuit)).goto i (.halfConnected circuit other))
  | unconnected {i other : Nat} {circuit : CircuitId}
      (hst : s.stageOf? i = some (.matched circuit other)) :
      Moves s (.connect i false) ((s.count .aborted).goto i .releasing)
  | connectOther {i other : Nat} {circuit : CircuitId}
      (hst : s.stageOf? i = some (.halfConnected circuit other)) :
      Moves s (.connectOther i true)
        (((s.tell other (.connected circuit)).count .opened).goto i (.spliced circuit other))
  | otherUnconnected {i other : Nat} {circuit : CircuitId}
      (hst : s.stageOf? i = some (.halfConnected circuit other)) :
      Moves s (.connectOther i false) ((s.count .aborted).goto i .releasing)
  | finish {i other : Nat} {circuit : CircuitId} {ending : CircuitEnd}
      (hst : s.stageOf? i = some (.spliced circuit other)) :
      Moves s (.finish i ending) ((s.count ending.outcome).goto i .releasing)
  | release {i : Nat} (hst : s.stageOf? i = some .releasing) :
      Moves s (.release i) ({ s with slots := s.slots.release }.goto i .ended)
  | claim {i j : Nat} {circuit : CircuitId}
      (hst : s.stageOf? i = some (.asked (.accept circuit)))
      (hpending : s.pending.get? circuit = some j) :
      Moves s (.claim i)
        ({ s with pending := s.pending.erase circuit }.goto i (.offering circuit j))
  /-- The circuit is not pending. -/
  | unknown {i : Nat} {circuit : CircuitId}
      (hst : s.stageOf? i = some (.asked (.accept circuit)))
      (hpending : s.pending.get? circuit = none) :
      Moves s (.claim i) (s.goto i
        (.replying (.error .unknownCircuit ("no pending circuit " ++ circuit.toText))))
  | offer {i j : Nat} {circuit : CircuitId} (hst : s.stageOf? i = some (.offering circuit j))
      (hawaits : (s.stageOf? j).any (·.awaits circuit) = true) :
      Moves s (.offer i) (s.goto i (.lent circuit j))
  /-- The initiator's handler awaits nothing any more. -/
  | unwanted {i j : Nat} {circuit : CircuitId} (hst : s.stageOf? i = some (.offering circuit j))
      (hawaits : (s.stageOf? j).any (·.awaits circuit) = false) :
      Moves s (.offer i) (s.goto i .ended)
  | regain {i j : Nat} {circuit : CircuitId} (hst : s.stageOf? i = some (.lent circuit j))
      (hidle : (s.stageOf? j).any (fun g => g.awaits circuit || g.uses i) = false) :
      Moves s (.regain i) (s.goto i .ended)

theorem moves_of_commonStep? {t : RelayTurn} (h : s.commonStep? t = some s') : Moves s t s' := by
  cases t with
  | call => cases h; exact .call
  | check i =>
      simp only [commonStep?] at h
      split at h
      · split at h <;> cases h
        · exact .check ‹_› ‹_›
        · exact .turnAway ‹_› ‹_›
      · cases h
  | receive i request =>
      simp only [commonStep?] at h
      split at h
      · split at h <;> cases h
        · exact .receive ‹_›
        · exact .hangUp ‹_›
        · exact .misread ‹_›
      · cases h
  | fire i => cases h; exact .fire i
  | reply i success =>
      simp only [commonStep?] at h
      split at h <;> cases h
      · exact .reply ‹_›
      · exact .refuse ‹_›
  | stop =>
      simp only [commonStep?] at h
      split at h <;> cases h
      · exact .flag ‹_›
      · exact .cancel ‹_›
      · exact .clear ‹_›
      · exact .stop ‹_›
  | _ => cases h

theorem moves_of_reserveStep? {t : RelayTurn} (h : s.reserveStep? t = some s') :
    Moves s t s' := by
  cases t with
  | number i =>
      simp only [reserveStep?] at h
      split at h <;> cases h
      exact .number ‹_›
  | enter i =>
      simp only [reserveStep?] at h
      split at h <;> cases h
      exact .enter ‹_›
  | confirm i success =>
      simp only [reserveStep?] at h
      split at h
      · cases success <;> cases h
        · exact .unconfirmed ‹_›
        · exact .confirm ‹_›
      · cases h
  | notice i =>
      simp only [reserveStep?] at h
      split at h <;> cases h
      exact .notice ‹_› rfl rfl
  | notify i success =>
      simp only [reserveStep?] at h
      split at h
      · cases success <;> cases h
        · exact .unnotified ‹_›
        · exact .notify ‹_›
      · cases h
  | hear i stays =>
      simp only [reserveStep?] at h
      split at h
      · cases stays <;> cases h
        · exact .unheard ‹_›
        · exact .hear ‹_›
      · cases h
  | yield i =>
      simp only [reserveStep?] at h
      split at h
      · split at h <;> cases h
        exact .yield ‹_› ‹_›
      · cases h
  | runDry i =>
      simp only [reserveStep?] at h
      split at h
      · split at h <;> cases h
        exact .runDry (stageOf?_of_getElem? ‹_›) (Bool.eq_false_iff.2 ‹_›)
      · cases h
  | leave i =>
      simp only [reserveStep?] at h
      split at h <;> cases h
      exact .leave ‹_›
  | _ => cases h

theorem moves_of_requestStep? {t : RelayTurn} (h : s.requestStep? t = some s') :
    Moves s t s' := by
  cases t with
  | look i =>
      simp only [requestStep?] at h
      split at h
      · split at h <;> cases h
        · exact .look ‹_› ‹_›
        · exact .unreserved ‹_› ‹_›
      · cases h
  | place i =>
      simp only [requestStep?] at h
      split at h
      · split at h <;> cases h
        · exact .place ‹_› ‹_›
        · exact .full ‹_› ‹_›
      · cases h
  | register i circuit =>
      simp only [requestStep?] at h
      split at h
      · split at h <;> cases h
        exact .register ‹_› (by simpa using ‹¬ s.circuits.contains circuit = true›)
      · cases h
  | announce i =>
      simp only [requestStep?, announceTo] at h
      split at h
      · have hst := stageOf?_of_getElem? ‹_›
        split at h
        · split at h
          · cases h
            exact .targetGone hst ‹_› (by simpa using ‹(!_) = true›)
          · split at h <;> cases h
            exact .announce hst ‹_› (by simpa using ‹¬(!_) = true›) ‹_›
        · cases h
      · cases h
  | expire i =>
      simp only [requestStep?] at h
      split at h <;> cases h
      exact .expire ‹_›
  | orphan i =>
      simp only [requestStep?] at h
      split at h
      · split at h <;> cases h
        rename_i hnot
        simp only [Bool.or_eq_true, not_or, Bool.not_eq_true, Option.isSome_eq_false_iff,
          Option.isNone_iff_eq_none] at hnot
        exact .orphan ‹_› hnot.1
      · cases h
  | abandon i =>
      simp only [requestStep?] at h
      split at h
      · split at h <;> cases h
        exact .abandon ‹_› ‹_›
      · cases h
  | withdraw i =>
      simp only [requestStep?] at h
      split at h
      · rename_i circuit cause hst
        cases cause <;> cases h
        · exact .withdraw hst rfl rfl
        · exact .withdraw hst rfl rfl
        · exact .withdrawMute hst
      · cases h
  | _ => cases h

theorem moves_of_circuitStep? {t : RelayTurn} (h : s.circuitStep? t = some s') :
    Moves s t s' := by
  cases t with
  | take i other =>
      simp only [circuitStep?] at h
      split at h
      · split at h
        · rename_i heq
          obtain ⟨rfl, rfl⟩ := heq
          cases h
          exact .take ‹_› ‹_›
        · cases h
      · cases h
  | connect i success =>
      simp only [circuitStep?] at h
      split at h
      · cases success <;> cases h
        · exact .unconnected ‹_›
        · exact .connect ‹_›
      · cases h
  | connectOther i success =>
      simp only [circuitStep?] at h
      split at h
      · cases success <;> cases h
        · exact .otherUnconnected ‹_›
        · exact .connectOther ‹_›
      · cases h
  | finish i ending =>
      simp only [circuitStep?] at h
      split at h <;> cases h
      exact .finish ‹_›
  | release i =>
      simp only [circuitStep?] at h
      split at h <;> cases h
      exact .release ‹_›
  | _ => cases h

theorem moves_of_acceptStep? {t : RelayTurn} (h : s.acceptStep? t = some s') : Moves s t s' := by
  cases t with
  | claim i =>
      simp only [acceptStep?] at h
      split at h
      · split at h <;> cases h
        · exact .claim ‹_› ‹_›
        · exact .unknown ‹_› ‹_›
      · cases h
  | offer i =>
      simp only [acceptStep?] at h
      split at h
      · split at h <;> cases h
        · exact .offer ‹_› ‹_›
        · exact .unwanted ‹_› (Bool.eq_false_iff.2 ‹_›)
      · cases h
  | regain i =>
      simp only [acceptStep?] at h
      split at h
      · split at h <;> cases h
        exact .regain ‹_› (Bool.eq_false_iff.2 ‹_›)
      · cases h
  | _ => cases h

/-- **A turn that is taken does one of these things.** -/
theorem moves_of_step? {t : RelayTurn} (h : s.step? t = some s') : Moves s t s' := by
  simp only [step?, Option.or_eq_some_iff] at h
  rcases h with h | ⟨-, h | ⟨-, h | ⟨-, h | ⟨-, h⟩⟩⟩⟩
  · exact moves_of_commonStep? h
  · exact moves_of_reserveStep? h
  · exact moves_of_requestStep? h
  · exact moves_of_circuitStep? h
  · exact moves_of_acceptStep? h

/-- A handler that rests is left alone by all turns but the one in which it takes its circuit
out. -/
theorem Moves.stays {t : RelayTurn} (hm : Moves s t s') {j : Nat} {b : Stage}
    (hj : s.stageOf? j = some b) (hb : b.rests = true) :
    s'.stageOf? j = some b ∨ ∃ c cause, b = .lapsed c cause ∧ s'.pending = s.pending.erase c := by
  have hother {a : Stage} (ha : a.rests = false) : a ≠ b := by
    rintro rfl
    exact Bool.eq_false_iff.1 ha hb
  cases hm with
  | call =>
      rw [stageOf?_call, if_neg, hj]
      · exact .inl rfl
      · rintro rfl
        cases (stageOf?_length s).symm.trans hj
  | fire i =>
      rw [stageOf?_alter_of_stage]
      · exact .inl hj
      · exact fun _ => rfl
  | flag | cancel | clear | stop | hear => exact .inl hj
  | reply hst | refuse hst =>
      exact .inl (stageOf?_alter_of_ne ((stageOf?_sent ..).trans hst) (hother rfl) _
        ((stageOf?_sent ..).trans hj))
  | notice hget hst =>
      exact .inl (stageOf?_alter_of_ne (stageOf?_of_getElem? hget)
        (hst ▸ hother rfl) _ hj)
  | leave hst =>
      split
      · exact .inl (stageOf?_alter_of_ne hst (hother rfl) _ hj)
      · exact .inl (stageOf?_alter_of_ne hst (hother rfl) _ hj)
  | announce hst =>
      exact .inl (stageOf?_alter_of_ne ((stageOf?_announced ..).trans hst) (hother rfl) _
        ((stageOf?_announced ..).trans hj))
  | @withdraw i circuit cause r o hst =>
      by_cases heq : Stage.lapsed circuit cause = b
      · exact .inr ⟨circuit, cause, heq.symm, rfl⟩
      · exact .inl (stageOf?_alter_of_ne hst heq _ hj)
  | @withdrawMute i circuit hst =>
      by_cases heq : Stage.lapsed circuit .cancelled = b
      · exact .inr ⟨circuit, .cancelled, heq.symm, rfl⟩
      · exact .inl (stageOf?_alter_of_ne hst heq _ hj)
  | check hst | turnAway hst | receive hst | hangUp hst | misread hst | number hst | enter hst
  | confirm hst | unconfirmed hst | notify hst | unnotified hst | unheard hst | yield hst
  | runDry hst | look hst | unreserved hst | place hst | full hst | register hst | targetGone hst
  | expire hst | orphan hst | abandon hst | take hst | connect hst | unconnected hst
  | connectOther hst | otherUnconnected hst | finish hst | release hst | claim hst | unknown hst
  | offer hst | unwanted hst | regain hst =>
      exact .inl (stageOf?_alter_of_ne hst (hother rfl) _ hj)

/-- A handler that has ended stays so. -/
theorem Moves.ended {t : RelayTurn} (hm : Moves s t s') {j : Nat}
    (hj : s.stageOf? j = some .ended) : s'.stageOf? j = some .ended :=
  (hm.stays hj rfl).resolve_right (by simp)

/-! ### Runs -/

theorem run?_cons {t : RelayTurn} {ts : List RelayTurn} {s'' : Service}
    (hrun : s.run? (t :: ts) = some s'') :
    ∃ s', s.step? t = some s' ∧ s'.run? ts = some s'' := by
  rw [run?] at hrun
  split at hrun
  · exact ⟨_, ‹_›, hrun⟩
  · cases hrun

theorem run?_append {ts ts' : List RelayTurn} (hrun : s.run? ts = some s') :
    s.run? (ts ++ ts') = s'.run? ts' := by
  induction ts generalizing s with
  | nil =>
      cases hrun
      rfl
  | cons t ts ih =>
      obtain ⟨u, hstep, hrun⟩ := run?_cons hrun
      rw [List.cons_append, run?, hstep]
      exact ih hrun

/-- What the turns of a run yield, in order. -/
def gather {α : Type} (f : Service → RelayTurn → List α) (s : Service) : List RelayTurn → List α
  | [] => []
  | t :: ts => f s t ++ ((s.step? t).elim [] fun s' => s'.gather f ts)

/-- What holds at the beginning and is preserved by every turn holds behind every run. It may be
about what the turns have yielded so far. -/
theorem run?_gather {α : Type} {f : Service → RelayTurn → List α}
    {motive : List RelayTurn → List α → Service → Prop} (hstart : motive [] [] s)
    (hstep : ∀ done l u t u', s.run? done = some u → motive done l u → u.step? t = some u' →
      motive (done ++ [t]) (l ++ f u t) u')
    {ts : List RelayTurn} (hrun : s.run? ts = some s') : motive ts (s.gather f ts) s' := by
  suffices h : ∀ done l u ts, s.run? done = some u → motive done l u → u.run? ts = some s' →
      motive (done ++ ts) (l ++ u.gather f ts) s' from h [] [] s ts rfl hstart hrun
  intro done l u ts hdone hu hrun
  induction ts generalizing done l u with
  | nil =>
      cases hrun
      simpa only [gather, List.append_nil] using hu
  | cons t ts ih =>
      obtain ⟨u', hturn, hrun⟩ := run?_cons hrun
      have hdone' : s.run? (done ++ [t]) = some u' := by
        rw [run?_append hdone, run?, hturn]
        rfl
      have hnext := ih _ _ u' hdone' (hstep done l u t u' hdone hu hturn) hrun
      rw [gather, hturn, Option.elim_some, ← List.append_assoc, List.append_cons done t ts]
      exact hnext

end Service

end Rendezvous.Relay
