import Rendezvous.Proofs.Data.Table
import Rendezvous.Proofs.Relay.Turns

/-!
# Rendezvous.Proofs.Relay.View

The relay as far as pairings go. Most of what a handler does is of no consequence for them. Its
*phase* is what is left of its stage, and the *view* of the relay what is left of its state:
the phases, the circuits that are pending and those that there have been, what was paired and
what clients were told. Each turn of the relay is one of few moves of the view.

* `Relay.Phase`, `Stage.phase`: what a handler is doing;
* `Relay.View`, `Service.view`: the relay as far as pairings go;
* `View.Moves`: what a turn can do to pairings;
* `Service.matched`, `Service.view_moves`: what a turn does to pairings.
-/

namespace Rendezvous.Relay

/-! ### Views -/

/-- What a handler is doing, as far as pairings go. -/
inductive Phase where
  /-- It has no request. -/
  | fresh
  | asked (request : Request)
  /-- It holds a reservation. -/
  | reserving
  /-- It asks for a circuit, and has none. -/
  | seeking
  /-- It has a circuit, which nobody has accepted for it. -/
  | owning (circuit : CircuitId)
  /-- It has the stream of another handler. -/
  | joined (circuit : CircuitId) (other : Nat)
  /-- It is done with its circuit, and may have something to answer. -/
  | settling (reply : Option Response)
  /-- It has taken a circuit out, for which its stream is. -/
  | offered (circuit : CircuitId) (initiator : Nat)
  /-- It answers for the last time. -/
  | closing (reply : Response)
  | ended
deriving DecidableEq

/-- The phase to which a stage belongs. -/
def Stage.phase : Stage → Phase
  | .called | .reading => .fresh
  | .asked r => .asked r
  | .numbered _ _ | .confirming _ _ | .holding _ _ | .notifying _ _ _ _ | .leaving _ _ => .reserving
  | .found _ _ | .placed _ _ => .seeking
  | .announcing _ _ c | .waiting c | .lapsed c _ => .owning c
  | .matched c o | .halfConnected c o | .spliced c o => .joined c o
  | .refusing r => .settling (some r)
  | .releasing => .settling none
  | .offering c j | .lent c j => .offered c j
  | .replying r => .closing r
  | .ended => .ended

/-- The relay, as far as pairings go. -/
structure View where
  phases : List Phase
  pending : Table CircuitId Nat
  circuits : List CircuitId
  told : List (Nat × Response)
  pairs : List (CircuitId × Nat × Nat)

namespace View

/-- A handler turns to another phase. -/
def turn (v : View) (i : Nat) (p : Phase) : View := { v with phases := v.phases.set i p }

/-- A client is told something. -/
def tell (v : View) (i : Nat) (r : Response) : View := { v with told := v.told ++ [(i, r)] }

/-- A client is told something, if it can be. -/
def sent (v : View) (success : Bool) (i : Nat) (r : Response) : View :=
  if success then v.tell i r else v

/-- What a client was told. -/
def heard (v : View) (i : Nat) : List Response :=
  v.told.filterMap fun e => if e.1 = i then some e.2 else none

variable {v : View} {i j : Nat} {p q : Phase}

/-- To turn to the phase it is in is of no consequence. -/
theorem turn_self (h : v.phases[i]? = some p) : v.turn i p = v := by
  obtain ⟨hlt, rfl⟩ := List.getElem?_eq_some_iff.1 h
  rw [turn, List.set_getElem_self]

theorem getElem?_turn (h : (v.turn i p).phases[j]? = some q) :
    i = j ∧ q = p ∨ i ≠ j ∧ v.phases[j]? = some q := by
  rw [turn, List.getElem?_set] at h
  split at h
  · split at h
    · exact .inl ⟨‹_›, (Option.some.inj h).symm⟩
    · cases h
  · exact .inr ⟨‹_›, h⟩

theorem heard_tell (v : View) (i : Nat) (r : Response) (j : Nat) :
    (v.tell i r).heard j = v.heard j ++ if i = j then [r] else [] := by
  simp only [heard, tell, List.filterMap_append, List.filterMap_cons, List.filterMap_nil]
  by_cases hij : i = j <;> simp [hij]

@[simp] theorem sent_phases (v : View) (success : Bool) (i : Nat) (r : Response) :
    (v.sent success i r).phases = v.phases := by
  cases success <;> rfl

@[simp] theorem sent_pending (v : View) (success : Bool) (i : Nat) (r : Response) :
    (v.sent success i r).pending = v.pending := by
  cases success <;> rfl

@[simp] theorem sent_circuits (v : View) (success : Bool) (i : Nat) (r : Response) :
    (v.sent success i r).circuits = v.circuits := by
  cases success <;> rfl

@[simp] theorem sent_pairs (v : View) (success : Bool) (i : Nat) (r : Response) :
    (v.sent success i r).pairs = v.pairs := by
  cases success <;> rfl

theorem mem_told_tell {r : Response} {e : Nat × Response} :
    e ∈ (v.tell i r).told ↔ e ∈ v.told ∨ e = (i, r) := by
  simp [tell]

theorem mem_told_sent {success : Bool} {r : Response} {e : Nat × Response}
    (h : e ∈ (v.sent success i r).told) : e ∈ v.told ∨ e = (i, r) := by
  cases success with
  | false => exact .inl h
  | true => exact mem_told_tell.1 h

theorem heard_sent_of_ne (v : View) (success : Bool) (r : Response) (h : i ≠ j) :
    (v.sent success i r).heard j = v.heard j := by
  cases success with
  | false => rfl
  | true =>
      rw [sent, if_pos rfl, heard_tell, if_neg h, List.append_nil]

end View

/-! ### Moves -/

/-- The answer to one who accepts a circuit that is not pending. -/
def unknownCircuit (c : CircuitId) : Response :=
  .error .unknownCircuit ("no pending circuit " ++ c.toText)

namespace RelayTurn

/-- A turn that brings no request and no circuit. -/
def isQuiet : RelayTurn → Bool
  | .receive _ (.ok (some _)) | .register _ _ => false
  | _ => true

theorem not_receive_of_isQuiet {t : RelayTurn} (hquiet : t.isQuiet = true) (i : Nat) (r : Request) :
    t ≠ .receive i (.ok (some r)) := by
  rintro rfl
  cases hquiet

end RelayTurn

/-- What a turn can do to pairings, and which circuit it takes out for whom. -/
inductive View.Moves (v : View) : RelayTurn → List (CircuitId × Nat) → View → Prop where
  | still {t : RelayTurn} (hquiet : t.isQuiet = true) : Moves v t [] v
  | call : Moves v .call [] { v with phases := v.phases ++ [.fresh] }
  | clear : Moves v .stop [] { v with pending := [] }
  | receive {i : Nat} {r : Request} (hp : v.phases[i]? = some .fresh) :
      Moves v (.receive i (.ok (some r))) [] (v.turn i (.asked r))
  /-- A handler that has answered everything ends. -/
  | finish {t : RelayTurn} {i : Nat} {p : Phase} (hquiet : t.isQuiet = true)
      (hp : v.phases[i]? = some p)
      (hdone : p = .fresh ∨ p = .reserving ∨ p = .settling none ∨ ∃ c j, p = .offered c j) :
      Moves v t [] (v.turn i .ended)
  /-- A request is turned down, or none comes. -/
  | close {t : RelayTurn} {i : Nat} {p : Phase} {code : ErrorCode} {message : String}
      (hquiet : t.isQuiet = true) (hp : v.phases[i]? = some p)
      (hopen : p = .fresh ∨ p = .seeking ∨ ∃ peer target, p = .asked (.connect peer target)) :
      Moves v t [] (v.turn i (.closing (.error code message)))
  | reply {i : Nat} {success : Bool} {r : Response} (hp : v.phases[i]? = some (.closing r)) :
      Moves v (.reply i success) [] ((v.sent success i r).turn i .ended)
  | reserve {t : RelayTurn} {i : Nat} {peer : PeerId} (hquiet : t.isQuiet = true)
      (hp : v.phases[i]? = some (.asked (.reserve peer))) : Moves v t [] (v.turn i .reserving)
  /-- One who holds a reservation is told something. -/
  | notify {t : RelayTurn} {i : Nat} {r : Response} (hquiet : t.isQuiet = true)
      (hp : v.phases[i]? = some .reserving) (hr : ∀ c, r ≠ .connected c) :
      Moves v t [] (v.tell i r)
  | seek {t : RelayTurn} {i : Nat} {peer target : PeerId} (hquiet : t.isQuiet = true)
      (hp : v.phases[i]? = some (.asked (.connect peer target))) :
      Moves v t [] (v.turn i .seeking)
  | register {i : Nat} {c : CircuitId} (hp : v.phases[i]? = some .seeking)
      (hfresh : c ∉ v.circuits) :
      Moves v (.register i c) []
        ({ v with pending := v.pending.insert c i, circuits := c :: v.circuits }.turn i
          (.owning c))
  | withdraw {t : RelayTurn} {i : Nat} {c : CircuitId} {reply : Option Response}
      (hquiet : t.isQuiet = true) (hp : v.phases[i]? = some (.owning c))
      (hr : ∀ c', reply ≠ some (.connected c')) :
      Moves v t [] ({ v with pending := v.pending.erase c }.turn i (.settling reply))
  | refuse {i : Nat} {success : Bool} {r : Response}
      (hp : v.phases[i]? = some (.settling (some r))) :
      Moves v (.reply i success) [] ((v.sent success i r).turn i (.settling none))
  | take {i other : Nat} {c : CircuitId} (hp : v.phases[i]? = some (.owning c))
      (hother : v.phases[other]? = some (.offered c i)) :
      Moves v (.take i other) []
        ({ v with pairs := v.pairs ++ [(c, i, other)] }.turn i (.joined c other))
  /-- One of those who are paired is told so. -/
  | connect {t : RelayTurn} {i other j : Nat} {c : CircuitId} (hquiet : t.isQuiet = true)
      (hp : v.phases[i]? = some (.joined c other)) (hj : j = i ∨ j = other) :
      Moves v t [] (v.tell j (.connected c))
  | part {t : RelayTurn} {i other : Nat} {c : CircuitId} (hquiet : t.isQuiet = true)
      (hp : v.phases[i]? = some (.joined c other)) : Moves v t [] (v.turn i (.settling none))
  | claim {i j : Nat} {c : CircuitId} (hp : v.phases[i]? = some (.asked (.accept c)))
      (hpending : v.pending.get? c = some j) :
      Moves v (.claim i) [(c, i)]
        ({ v with pending := v.pending.erase c }.turn i (.offered c j))
  | unknown {i : Nat} {c : CircuitId} (hp : v.phases[i]? = some (.asked (.accept c)))
      (hpending : v.pending.get? c = none) :
      Moves v (.claim i) [] (v.turn i (.closing (unknownCircuit c)))

namespace View.Moves

variable {v v' : View} {t : RelayTurn} {new : List (CircuitId × Nat)} {i : Nat}

/-- Only a handler without a request gets one. -/
theorem of_receive {r : Request} (hm : v.Moves (.receive i (.ok (some r))) new v') :
    v.phases[i]? = some .fresh := by
  cases hm with
  | receive hp => exact hp
  | still hquiet | finish hquiet | close hquiet | reserve hquiet | notify hquiet | seek hquiet
  | withdraw hquiet | connect hquiet | part hquiet => cases hquiet

/-- Only a new circuit is made. -/
theorem of_register {c : CircuitId} (hm : v.Moves (.register i c) new v') :
    c ∉ v.circuits ∧ c ∈ v'.circuits := by
  cases hm with
  | register hp hfresh => exact ⟨hfresh, List.mem_cons_self⟩
  | still hquiet | finish hquiet | close hquiet | reserve hquiet | notify hquiet | seek hquiet
  | withdraw hquiet | connect hquiet | part hquiet => cases hquiet

theorem length_le (hm : v.Moves t new v') : v.phases.length ≤ v'.phases.length := by
  cases hm <;> simp [View.turn, View.tell]

theorem circuits_subset (hm : v.Moves t new v') : ∀ c ∈ v.circuits, c ∈ v'.circuits := by
  intro c hc
  cases hm with
  | register => exact List.mem_cons_of_mem _ hc
  | reply | refuse => simpa [View.turn] using hc
  | _ => exact hc

theorem pairs_subset (hm : v.Moves t new v') : ∀ e ∈ v.pairs, e ∈ v'.pairs := by
  intro e he
  cases hm with
  | take => exact List.mem_append_left _ he
  | reply | refuse => simpa [View.turn] using he
  | _ => exact he

/-- Only a new circuit becomes pending. -/
theorem pending_cases (hm : v.Moves t new v') :
    ∀ e ∈ v'.pending, e ∈ v.pending ∨ e.1 ∉ v.circuits := by
  intro e he
  cases hm with
  | register hp hfresh =>
      rcases List.mem_cons.1 he with rfl | he
      · exact .inr hfresh
      · exact .inl (Table.mem_erase.1 he).1
  | withdraw | claim => exact .inl (Table.mem_erase.1 he).1
  | clear => cases he
  | reply | refuse => exact .inl (by simpa [View.turn] using he)
  | _ => exact .inl he

/-- What is taken out was pending, is so no more, and is for one who accepts it. -/
theorem claims (hm : v.Moves t new v') {c : CircuitId} (h : (c, i) ∈ new) :
    new = [(c, i)] ∧ v.phases[i]? = some (.asked (.accept c)) ∧ (∃ j, (c, j) ∈ v.pending) ∧
      ∀ j, (c, j) ∉ v'.pending := by
  cases hm with
  | claim hp hpending =>
      cases List.mem_singleton.1 h
      refine ⟨rfl, hp, ⟨_, Table.mem_of_get?_eq_some hpending⟩, fun j hj => ?_⟩
      exact (Table.mem_erase.1 hj).2 rfl
  | _ => cases h

end View.Moves

/-! ### What a turn does to pairings -/

theorem Lapse.reply?_ne_connected {cause : Lapse} (c : CircuitId) :
    cause.reply? ≠ some (.connected c) := by
  cases cause <;> simp [Lapse.reply?]

namespace Service

/-- The relay, as far as pairings go. -/
def view (s : Service) : View :=
  ⟨s.handlers.map (·.stage.phase), s.pending, s.circuits, s.told, s.pairs⟩

variable {s s' : Service} {i : Nat} {st stage : Stage}

theorem phases_of_stageOf? (h : s.stageOf? i = some st) :
    s.view.phases[i]? = some st.phase := by
  rw [stageOf?, Option.map_eq_some_iff] at h
  obtain ⟨g, hget, rfl⟩ := h
  rw [view, List.getElem?_map, hget]
  rfl

theorem map_phase_modify (hs : List Handler) (f : Handler → Handler) (j : Nat) :
    ((hs.modify i f).map (·.stage.phase))[j]? =
      (hs[j]?).map fun h => if i = j then (f h).stage.phase else h.stage.phase := by
  rw [List.getElem?_map, List.getElem?_modify]
  by_cases hij : i = j <;> cases hs[j]? <;> simp [hij]

theorem view_alter (s : Service) (i : Nat) (f : Handler → Handler) (p : Phase)
    (h : ∀ h, (f h).stage.phase = p) : (s.alter i f).view = s.view.turn i p := by
  have hphases : (s.handlers.modify i f).map (·.stage.phase) =
      (s.handlers.map (·.stage.phase)).set i p := by
    refine List.ext_getElem? fun j => ?_
    rw [map_phase_modify, List.getElem?_set', List.getElem?_map]
    by_cases hij : i = j <;> cases s.handlers[j]? <;> simp [hij, h]
  exact congrArg (View.mk · s.pending s.circuits s.told s.pairs) hphases

theorem view_goto (s : Service) (i : Nat) (stage : Stage) :
    (s.goto i stage).view = s.view.turn i stage.phase :=
  view_alter s i _ _ fun _ => rfl

/-- A change of a handler that keeps its stage is of no consequence. -/
theorem view_alter_of_stage (s : Service) (i : Nat) {f : Handler → Handler}
    (h : ∀ g, (f g).stage = g.stage) : (s.alter i f).view = s.view := by
  have hphases : (s.handlers.modify i f).map (·.stage.phase) =
      s.handlers.map (·.stage.phase) := by
    refine List.ext_getElem? fun j => ?_
    rw [map_phase_modify, List.getElem?_map]
    cases s.handlers[j]? <;> simp [h]
  exact congrArg (View.mk · s.pending s.circuits s.told s.pairs) hphases

theorem view_sent (s : Service) (success : Bool) (i : Nat) (r : Response) :
    (s.sent success i r).view = s.view.sent success i r := by
  cases success <;> rfl

/-- A turn to another stage of the same phase is of no consequence. -/
theorem moves_goto {t : RelayTurn} {new : List (CircuitId × Nat)} {u : Service}
    (hst : u.stageOf? i = some st) (h : stage.phase = st.phase)
    (hm : s.view.Moves t new u.view) : s.view.Moves t new (u.goto i stage).view := by
  rw [view_goto, View.turn_self ((phases_of_stageOf? hst).trans (congrArg some h.symm))]
  exact hm

/-- The circuit that a turn takes out for one who accepts it, with the handler of that one. -/
def matched (s : Service) : RelayTurn → List (CircuitId × Nat)
  | .claim i =>
    match s.stageOf? i with
    | some (.asked (.accept c)) => if (s.pending.get? c).isSome then [(c, i)] else []
    | _ => []
  | _ => []

/-- **Each turn is a move of the view.** -/
theorem view_moves {t : RelayTurn} (hm : Moves s t s') :
    s.view.Moves t (s.matched t) s'.view := by
  cases hm with
  | call =>
      have hphases : (s.handlers ++ [(⟨.called, false, [], none⟩ : Handler)]).map (·.stage.phase) =
          s.view.phases ++ [.fresh] := List.map_append
      have hcall : s.view.Moves .call [] { s.view with phases := s.view.phases ++ [.fresh] } :=
        .call
      rw [← hphases] at hcall
      exact hcall
  | check hst => exact moves_goto hst rfl (.still rfl)
  | turnAway hst => rw [view_goto]; exact .close rfl (phases_of_stageOf? hst) (.inl rfl)
  | receive hst => rw [view_goto]; exact .receive (phases_of_stageOf? hst)
  | hangUp hst => rw [view_goto]; exact .finish rfl (phases_of_stageOf? hst) (.inl rfl)
  | misread hst => rw [view_goto]; exact .close rfl (phases_of_stageOf? hst) (.inl rfl)
  | fire i =>
      rw [view_alter_of_stage]
      · exact .still rfl
      · exact fun _ => rfl
  | reply hst => rw [view_goto, view_sent]; exact .reply (phases_of_stageOf? hst)
  | refuse hst => rw [view_goto, view_sent]; exact .refuse (phases_of_stageOf? hst)
  | flag | cancel | stop => exact .still rfl
  | clear => exact .clear
  | number hst => rw [view_goto]; exact .reserve rfl (phases_of_stageOf? hst)
  | enter hst => exact moves_goto hst rfl (.still rfl)
  | confirm hst | notify hst =>
      refine moves_goto hst rfl (.notify rfl (phases_of_stageOf? hst) fun c hc => ?_)
      cases hc
  | unconfirmed hst | unheard hst | yield hst | runDry hst | unnotified hst =>
      exact moves_goto hst rfl (.still rfl)
  | @notice i number peer initiator circuit h rest hget hst =>
      -- The handler's stage is another, and so are its notices.
      have hp : s.view.phases[i]? = some .reserving := by
        rw [phases_of_stageOf? (stageOf?_of_getElem? hget), hst]
        rfl
      rw [view_alter s i _ .reserving fun _ => rfl, View.turn_self hp]
      exact .still rfl
  | hear => exact .still rfl
  | leave hst =>
      rw [view_goto]
      split
      · exact .finish rfl (phases_of_stageOf? hst) (.inr (.inl rfl))
      · exact .finish rfl (phases_of_stageOf? hst) (.inr (.inl rfl))
  | look hst =>
      rw [view_alter s _ _ .seeking fun _ => rfl]
      exact .seek rfl (phases_of_stageOf? hst)
  | unreserved hst =>
      rw [view_goto]
      exact .close rfl (phases_of_stageOf? hst) (.inr (.inr ⟨_, _, rfl⟩))
  | place hst => exact moves_goto hst rfl (.still rfl)
  | full hst => rw [view_goto]; exact .close rfl (phases_of_stageOf? hst) (.inr (.inl rfl))
  | register hst hfresh => rw [view_goto]; exact .register (phases_of_stageOf? hst) hfresh
  | @announce i owner peer target circuit h hst =>
      -- The notice changes the handler of the target, which stays in its stage.
      have hphase : (Stage.waiting circuit).phase = (Stage.announcing peer target circuit).phase :=
        rfl
      refine moves_goto ?_ hphase ?_
      · rw [stageOf?_alter_of_stage]
        · exact hst
        · exact fun _ => rfl
      · rw [view_alter_of_stage]
        · exact .still rfl
        · exact fun _ => rfl
  | targetGone hst | expire hst | orphan hst | abandon hst =>
      exact moves_goto hst rfl (.still rfl)
  | withdraw hst hreply houtcome =>
      rw [view_goto]
      refine .withdraw rfl (phases_of_stageOf? hst) fun c hc => ?_
      rw [Option.some.injEq] at hc
      subst hc
      exact Lapse.reply?_ne_connected c hreply
  | withdrawMute hst =>
      rw [view_goto]
      refine .withdraw rfl (phases_of_stageOf? hst) fun c hc => ?_
      cases hc
  | take hst hother =>
      rw [view_goto]
      exact .take (phases_of_stageOf? hst) (phases_of_stageOf? hother)
  | connect hst => exact moves_goto hst rfl (.connect rfl (phases_of_stageOf? hst) (.inl rfl))
  | connectOther hst => exact moves_goto hst rfl (.connect rfl (phases_of_stageOf? hst) (.inr rfl))
  | unconnected hst | otherUnconnected hst | finish hst =>
      rw [view_goto]
      exact .part rfl (phases_of_stageOf? hst)
  | release hst =>
      rw [view_goto]
      exact .finish rfl (phases_of_stageOf? hst) (.inr (.inr (.inl rfl)))
  | claim hst hpending =>
      simp only [matched, hst, hpending, Option.isSome_some, if_true]
      rw [view_goto]
      exact .claim (phases_of_stageOf? hst) hpending
  | unknown hst hpending =>
      simp only [matched, hst, hpending, Option.isSome_none, Bool.false_eq_true, if_false]
      rw [view_goto]
      exact .unknown (phases_of_stageOf? hst) hpending
  | offer hst => exact moves_goto hst rfl (.still rfl)
  | unwanted hst | regain hst =>
      rw [view_goto]
      exact .finish rfl (phases_of_stageOf? hst) (.inr (.inr (.inr ⟨_, _, rfl⟩)))

end Service

end Rendezvous.Relay
