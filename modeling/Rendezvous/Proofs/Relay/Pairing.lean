import Rendezvous.Proofs.Relay.View

/-!
# Rendezvous.Proofs.Relay.Pairing

The relay pairs streams as it should, in whatever order the handlers, their clients and the
node take their turns.

What holds of every view of the relay is shown move by move, along with the turns taken so far,
which tell who asked for what, and with the circuits that were taken out for those who accepted
them.

* `Relay.Stands`: what a phase says of a handler;
* `Relay.Paired`: what every move preserves; `Relay.Paired.step`, `Relay.Paired.run`;
* `Service.pairing_safe`.
-/

namespace Rendezvous.Relay

/-! ### What a phase says -/

/-- A handler got a request. -/
def Received (ts : List RelayTurn) (i : Nat) (r : Request) : Prop :=
  .receive i (.ok (some r)) ∈ ts

/-- A handler was asked for a circuit. -/
def Connects (ts : List RelayTurn) (i : Nat) : Prop :=
  ∃ peer target, Received ts i (.connect peer target)

/-- A handler made a circuit. -/
def Created (ts : List RelayTurn) (i : Nat) (c : CircuitId) : Prop := .register i c ∈ ts

/-- What a phase says of a handler, given the turns so far, what was taken out, what was paired
and what the handler's client was told. -/
def Stands (ts : List RelayTurn) (cl : List (CircuitId × Nat))
    (pairs : List (CircuitId × Nat × Nat)) (heard : List Response) (i : Nat) : Phase → Prop
  | .fresh => (∀ r, ¬ Received ts i r) ∧ heard = []
  | .asked r => Received ts i r ∧ heard = [] ∧ ∀ c, (c, i) ∉ cl
  | .reserving => ∃ peer, Received ts i (.reserve peer)
  | .seeking => Connects ts i
  | .owning c => Connects ts i ∧ Created ts i c
  | .joined c other => (c, i, other) ∈ pairs
  | .settling reply => Connects ts i ∧ ∀ c, reply ≠ some (.connected c)
  | .offered c j => (c, i) ∈ cl ∧ Created ts j c
  | .closing r => (∀ c, r ≠ .connected c) ∧
    ∀ c, Received ts i (.accept c) → r = unknownCircuit c ∧ heard = [] ∧ ∀ c', (c', i) ∉ cl
  | .ended => ∀ c, Received ts i (.accept c) →
    (c, i) ∈ cl ∨ heard = [unknownCircuit c] ∨ heard = [] ∧ .reply i false ∈ ts

variable {ts : List RelayTurn} {t : RelayTurn} {cl new : List (CircuitId × Nat)}
  {pairs : List (CircuitId × Nat × Nat)} {heard : List Response} {i j : Nat} {p : Phase}
  {v v' : View}

theorem received_append {r : Request} :
    Received (ts ++ [t]) i r ↔ Received ts i r ∨ t = .receive i (.ok (some r)) := by
  simp [Received, eq_comm]

theorem created_append {c : CircuitId} :
    Created (ts ++ [t]) i c ↔ Created ts i c ∨ t = .register i c := by
  simp [Created, eq_comm]

theorem received_quiet (hquiet : t.isQuiet = true) {r : Request} :
    Received (ts ++ [t]) i r ↔ Received ts i r := by
  rw [received_append, or_iff_left]
  rintro rfl
  cases hquiet

theorem Received.later {r : Request} (h : Received ts i r) : Received (ts ++ [t]) i r :=
  received_append.2 (.inl h)

theorem Connects.later (h : Connects ts i) : Connects (ts ++ [t]) i := by
  obtain ⟨peer, target, h⟩ := h
  exact ⟨peer, target, h.later⟩

theorem Created.later {c : CircuitId} (h : Created ts i c) : Created (ts ++ [t]) i c :=
  created_append.2 (.inl h)

/-- A phase says the same of a handler after a turn that brings it no request and takes no
circuit out for it. -/
theorem Stands.later {pairs' : List (CircuitId × Nat × Nat)} (h : Stands ts cl pairs heard i p)
    (hreq : ∀ r, t ≠ .receive i (.ok (some r))) (hnew : ∀ c, (c, i) ∉ new)
    (hpairs : ∀ e ∈ pairs, e ∈ pairs') :
    Stands (ts ++ [t]) (cl ++ new) pairs' heard i p := by
  -- Some phases say what did not happen, so that nothing may have happened since.
  have hback {r : Request} (h : Received (ts ++ [t]) i r) : Received ts i r :=
    (received_append.1 h).resolve_right (hreq r)
  have hcl (c : CircuitId) : (c, i) ∈ cl ++ new ↔ (c, i) ∈ cl := by
    simp [hnew c]
  cases p with
  | fresh => exact ⟨fun r hr => h.1 r (hback hr), h.2⟩
  | asked r => exact ⟨h.1.later, h.2.1, fun c hc => h.2.2 c ((hcl c).1 hc)⟩
  | reserving =>
      obtain ⟨peer, h⟩ := h
      exact ⟨peer, h.later⟩
  | seeking => exact Connects.later h
  | owning c => exact ⟨h.1.later, h.2.later⟩
  | joined c other => exact hpairs _ h
  | settling reply => exact ⟨h.1.later, h.2⟩
  | offered c j => exact ⟨(hcl c).2 h.1, h.2.later⟩
  | closing r =>
      refine ⟨h.1, fun c hc => ?_⟩
      obtain ⟨hr, hheard, hnone⟩ := h.2 c (hback hc)
      exact ⟨hr, hheard, fun c' hc' => hnone c' ((hcl c').1 hc')⟩
  | ended =>
      intro c hc
      rcases h c (hback hc) with hclaimed | htold | ⟨hsilent, hreply⟩
      · exact .inl ((hcl c).2 hclaimed)
      · exact .inr (.inl htold)
      · exact .inr (.inr ⟨hsilent, List.mem_append_left _ hreply⟩)

/-- One who does not accept ends as it likes. -/
theorem stands_ended_of_not_accepts (hquiet : t.isQuiet = true)
    (h : ∀ c, ¬ Received ts i (.accept c)) : Stands (ts ++ [t]) cl pairs heard i .ended :=
  fun c hc => absurd ((received_quiet hquiet).1 hc) (h c)

/-! ### What every move preserves -/

/-- What is true of pairings at any time, after some turns that took some circuits out. -/
structure Paired (ts : List RelayTurn) (cl : List (CircuitId × Nat)) (v : View) : Prop where
  stands : ∀ i p, v.phases[i]? = some p → Stands ts cl v.pairs (v.heard i) i p
  single : ∀ i r r', Received ts i r → Received ts i r' → r = r'
  known : ∀ i r, Received ts i r → i < v.phases.length
  spoken : ∀ e ∈ v.told, e.1 < v.phases.length
  created : ∀ i c, Created ts i c → c ∈ v.circuits
  creator : ∀ i j c, Created ts i c → Created ts j c → i = j
  /-- A circuit is pending while its handler has it. -/
  pending : ∀ e ∈ v.pending, v.phases[e.2]? = some (.owning e.1)
  claimed : ∀ c i, (c, i) ∈ cl →
    Received ts i (.accept c) ∧ c ∈ v.circuits ∧ ∀ j, (c, j) ∉ v.pending
  once : (cl.map (·.1)).Nodup
  paired : ∀ c i o, (c, i, o) ∈ v.pairs → (c, o) ∈ cl ∧ Created ts i c ∧ Connects ts i
  connected : ∀ j c, (j, .connected c) ∈ v.told → ∃ i o, (c, i, o) ∈ v.pairs ∧ (j = i ∨ j = o)

namespace Paired

variable (hv : Paired ts cl v)
include hv

/-- One whose request is another does not accept. -/
theorem not_accepts {r : Request} (h : Received ts i r) (hr : ∀ c, r ≠ .accept c) (c : CircuitId) :
    ¬ Received ts i (.accept c) := fun hc => hr c (hv.single i _ _ h hc)

theorem not_accepts_of_connects (h : Connects ts i) (c : CircuitId) :
    ¬ Received ts i (.accept c) := by
  obtain ⟨peer, target, h⟩ := h
  exact hv.not_accepts h nofun c

/-- A handler for which a circuit was taken out may be told anything. -/
theorem hear_of_claimed {c : CircuitId} (hc : (c, i) ∈ cl) (h : Stands ts cl pairs heard i p)
    (heard' : List Response) : Stands ts cl pairs heard' i p := by
  obtain ⟨hreq, -, -⟩ := hv.claimed c i hc
  cases p with
  | fresh => exact absurd hreq (h.1 _)
  | asked r => exact absurd hc (h.2.2 c)
  | closing r => exact absurd hc ((h.2 c hreq).2.2 c)
  | ended =>
      intro c' hc'
      cases hv.single i _ _ hreq hc'
      exact .inl hc
  | reserving | seeking | owning | joined | settling | offered => exact h

/-- The others are left alone by a turn of one handler that brings no request. -/
theorem stands_turn (hquiet : ∀ j r, i ≠ j → t ≠ .receive j (.ok (some r)))
    (hnew : ∀ c j, i ≠ j → (c, j) ∉ new) (hpairs : ∀ e ∈ v.pairs, e ∈ v'.pairs)
    (hheard : ∀ j, i ≠ j → v'.heard j = v.heard j) (hphases : v'.phases = v.phases)
    (hself : Stands (ts ++ [t]) (cl ++ new) v'.pairs (v'.heard i) i p) :
    ∀ j q, (v'.turn i p).phases[j]? = some q →
      Stands (ts ++ [t]) (cl ++ new) v'.pairs (v'.heard j) j q := by
  intro j q hq
  rcases View.getElem?_turn hq with ⟨rfl, rfl⟩ | ⟨hij, hq⟩
  · exact hself
  · rw [hheard j hij]
    exact (hv.stands j q (hphases ▸ hq)).later (hquiet j · hij) (fun c => hnew c j hij) hpairs

/-- A turn of one handler that brings no request and takes nothing out. -/
theorem stands_quiet (hquiet : t.isQuiet = true) (hpairs : ∀ e ∈ v.pairs, e ∈ v'.pairs)
    (hheard : ∀ j, i ≠ j → v'.heard j = v.heard j) (hphases : v'.phases = v.phases)
    (hself : Stands (ts ++ [t]) cl v'.pairs (v'.heard i) i p) :
    ∀ j q, (v'.turn i p).phases[j]? = some q →
      Stands (ts ++ [t]) (cl ++ []) v'.pairs (v'.heard j) j q :=
  hv.stands_turn (fun j r _ => RelayTurn.not_receive_of_isQuiet hquiet j r)
    (fun _ _ _ => List.not_mem_nil) hpairs hheard hphases
    ((List.append_nil cl).symm ▸ hself)

/-- A turn that brings nothing but an answer. -/
theorem stands_tell {r : Response} (hquiet : t.isQuiet = true)
    (hself : ∀ q, v.phases[i]? = some q → Stands ts cl v.pairs (v.heard i ++ [r]) i q) :
    ∀ j q, (v.tell i r).phases[j]? = some q →
      Stands (ts ++ [t]) (cl ++ []) (v.tell i r).pairs ((v.tell i r).heard j) j q := by
  intro j q hq
  refine Stands.later ?_ (RelayTurn.not_receive_of_isQuiet hquiet j)
    (fun _ => List.not_mem_nil) fun _ he => he
  rw [View.heard_tell]
  by_cases hij : i = j
  · subst hij
    rw [if_pos rfl]
    exact hself q hq
  · rw [if_neg hij, List.append_nil]
    exact hv.stands j q hq

/-- A new handler has no request, and nobody was told anything on its stream. -/
theorem stands_fresh : Stands ts cl v.pairs (v.heard v.phases.length) v.phases.length .fresh := by
  refine ⟨fun r hr => Nat.lt_irrefl _ (hv.known _ r hr), ?_⟩
  refine List.filterMap_eq_nil_iff.2 fun e he => if_neg fun heq => ?_
  exact Nat.lt_irrefl _ (heq ▸ hv.spoken e he)

/-- A handler that may end accepts nothing, or something was taken out for it. -/
theorem stands_ended (hquiet : t.isQuiet = true) (hp : v.phases[i]? = some p)
    (hdone : p = .fresh ∨ p = .reserving ∨ p = .settling none ∨ ∃ c j, p = .offered c j) :
    Stands (ts ++ [t]) cl pairs heard i .ended := by
  have hst := hv.stands i p hp
  rcases hdone with rfl | rfl | rfl | ⟨c, j, rfl⟩
  · exact stands_ended_of_not_accepts hquiet fun c => hst.1 _
  · obtain ⟨peer, hreq⟩ := hst
    exact stands_ended_of_not_accepts hquiet (hv.not_accepts hreq nofun)
  · exact stands_ended_of_not_accepts hquiet (hv.not_accepts_of_connects hst.1)
  · intro c' hc'
    have hreq := (hv.claimed c i hst.1).1
    cases hv.single i _ _ hreq ((received_quiet hquiet).1 hc')
    exact .inl hst.1

/-- A handler that is turned down accepts nothing. -/
theorem stands_closing (hquiet : t.isQuiet = true) (hp : v.phases[i]? = some p)
    (hopen : p = .fresh ∨ p = .seeking ∨ ∃ peer target, p = .asked (.connect peer target))
    (code : ErrorCode) (message : String) :
    Stands (ts ++ [t]) cl pairs heard i (.closing (.error code message)) := by
  have hst := hv.stands i p hp
  refine ⟨nofun, fun c hc => absurd ((received_quiet hquiet).1 hc) ?_⟩
  rcases hopen with rfl | rfl | ⟨peer, target, rfl⟩
  · exact hst.1 _
  · exact hv.not_accepts_of_connects hst c
  · exact hv.not_accepts hst.1 nofun c

/-- The last answer of a handler is all that one hears whose circuit was not pending. -/
theorem stands_replied {success : Bool} {r : Response} (hp : v.phases[i]? = some (.closing r)) :
    Stands (ts ++ [.reply i success]) cl pairs ((v.sent success i r).heard i) i .ended := by
  intro c hc
  obtain ⟨rfl, hsilent, -⟩ := (hv.stands i _ hp).2 c ((received_quiet rfl).1 hc)
  cases success with
  | false => exact .inr (.inr ⟨hsilent, List.mem_append_right _ List.mem_cons_self⟩)
  | true =>
      refine .inr (.inl ?_)
      rw [View.sent, if_pos rfl, View.heard_tell, if_pos rfl, hsilent, List.nil_append]

/-- A handler with a circuit that is pending has made it. -/
theorem created_of_pending {c : CircuitId} (h : (c, i) ∈ v.pending) : Created ts i c :=
  (hv.stands i _ (hv.pending _ h)).2

theorem step_stands (hm : v.Moves t new v') :
    ∀ j q, v'.phases[j]? = some q →
      Stands (ts ++ [t]) (cl ++ new) v'.pairs (v'.heard j) j q := by
  cases hm with
  | still hquiet =>
      exact fun j q hq => (hv.stands j q hq).later
        (RelayTurn.not_receive_of_isQuiet hquiet j) (fun _ => List.not_mem_nil) fun _ he => he
  | clear =>
      exact fun j q hq => (hv.stands j q hq).later nofun (fun _ => List.not_mem_nil) fun _ he => he
  | call =>
      intro j q hq
      refine Stands.later ?_ nofun (fun _ => List.not_mem_nil) fun _ he => he
      rcases Nat.lt_or_ge j v.phases.length with hlt | hge
      · rw [List.getElem?_append_left hlt] at hq
        exact hv.stands j q hq
      · obtain ⟨rfl, rfl⟩ : j = v.phases.length ∧ q = .fresh := by
          rw [List.getElem?_append_right hge, List.getElem?_singleton] at hq
          split at hq
          · exact ⟨by omega, (Option.some.inj hq).symm⟩
          · cases hq
        exact hv.stands_fresh
  | @receive i r hp =>
      obtain ⟨hnone, hsilent⟩ := hv.stands i _ hp
      refine hv.stands_turn (fun j r hij heq => ?_) (fun _ _ _ => List.not_mem_nil)
        (fun _ he => he) (fun _ _ => rfl) rfl ?_
      · cases heq
        exact hij rfl
      · refine ⟨received_append.2 (.inr rfl), hsilent, fun c hc => ?_⟩
        rw [List.append_nil] at hc
        exact hnone _ (hv.claimed c i hc).1
  | finish hquiet hp hdone =>
      exact hv.stands_quiet hquiet (fun _ he => he) (fun _ _ => rfl) rfl
        (hv.stands_ended hquiet hp hdone)
  | close hquiet hp hopen =>
      exact hv.stands_quiet hquiet (fun _ he => he) (fun _ _ => rfl) rfl
        (hv.stands_closing hquiet hp hopen _ _)
  | @reply i success r hp =>
      refine hv.stands_quiet rfl (fun _ he => ?_) (fun j => View.heard_sent_of_ne v success r)
        (View.sent_phases ..) (hv.stands_replied hp)
      rwa [View.sent_pairs]
  | reserve hquiet hp =>
      refine hv.stands_quiet hquiet (fun _ he => he) (fun _ _ => rfl) rfl ?_
      exact ⟨_, (hv.stands _ _ hp).1.later⟩
  | notify hquiet hp hr =>
      refine hv.stands_tell hquiet fun q hq => ?_
      cases hp.symm.trans hq
      exact hv.stands _ _ hp
  | seek hquiet hp =>
      refine hv.stands_quiet hquiet (fun _ he => he) (fun _ _ => rfl) rfl ?_
      exact ⟨_, _, (hv.stands _ _ hp).1.later⟩
  | register hp hfresh =>
      refine hv.stands_turn nofun (fun _ _ _ => List.not_mem_nil) (fun _ he => he)
        (fun _ _ => rfl) rfl ?_
      exact ⟨Connects.later (hv.stands _ _ hp), created_append.2 (.inr rfl)⟩
  | withdraw hquiet hp hr =>
      refine hv.stands_quiet hquiet (fun _ he => he) (fun _ _ => rfl) rfl ?_
      exact ⟨(hv.stands _ _ hp).1.later, hr⟩
  | @refuse i success r hp =>
      refine hv.stands_quiet rfl (fun _ he => ?_) (fun j => View.heard_sent_of_ne v success r)
        (View.sent_phases ..) ⟨(hv.stands i _ hp).1.later, nofun⟩
      rwa [View.sent_pairs]
  | take hp hother =>
      refine hv.stands_quiet rfl (fun _ he => List.mem_append_left _ he) (fun _ _ => rfl) rfl ?_
      exact List.mem_append_right _ List.mem_cons_self
  | connect hquiet hp hj =>
      refine hv.stands_tell hquiet fun q hq => ?_
      rcases hj with rfl | rfl
      · cases hp.symm.trans hq
        exact hv.stands _ _ hp
      · -- The circuit was taken out for the other, of which no phase tells what it hears.
        have hclaimed := (hv.paired _ _ _ (hv.stands _ _ hp)).1
        exact hv.hear_of_claimed hclaimed (hv.stands _ q hq) _
  | part hquiet hp =>
      refine hv.stands_quiet hquiet (fun _ he => he) (fun _ _ => rfl) rfl ?_
      exact ⟨(hv.paired _ _ _ (hv.stands _ _ hp)).2.2.later, nofun⟩
  | @claim i j c hp hpending =>
      refine hv.stands_turn nofun (fun c' k hik hc' => ?_) (fun _ he => he) (fun _ _ => rfl) rfl ?_
      · cases List.mem_singleton.1 hc'
        exact hik rfl
      · refine ⟨List.mem_append_right _ List.mem_cons_self, ?_⟩
        exact (hv.created_of_pending (Table.mem_of_get?_eq_some hpending)).later
  | @unknown i c hp hpending =>
      obtain ⟨hreq, hsilent, hnone⟩ := hv.stands i _ hp
      refine hv.stands_quiet rfl (fun _ he => he) (fun _ _ => rfl) rfl ⟨nofun, fun c' hc' => ?_⟩
      cases hv.single i _ _ hreq ((received_quiet rfl).1 hc')
      exact ⟨rfl, hsilent, hnone⟩

theorem step_single (hm : v.Moves t new v') :
    ∀ i r r', Received (ts ++ [t]) i r → Received (ts ++ [t]) i r' → r = r' := by
  -- One that gets a request has had none.
  have hfirst {i : Nat} {r r' : Request} (h : Received ts i r)
      (heq : t = .receive i (.ok (some r'))) : False := by
    subst heq
    exact (hv.stands i _ hm.of_receive).1 r h
  intro i r r' h h'
  rcases received_append.1 h with h | heq <;> rcases received_append.1 h' with h' | heq'
  · exact hv.single i r r' h h'
  · exact (hfirst h heq').elim
  · exact (hfirst h' heq).elim
  · cases heq.symm.trans heq'
    rfl

theorem step_known (hm : v.Moves t new v') :
    ∀ i r, Received (ts ++ [t]) i r → i < v'.phases.length := by
  intro i r h
  refine Nat.lt_of_lt_of_le ?_ hm.length_le
  rcases received_append.1 h with h | rfl
  · exact hv.known i r h
  · exact (List.getElem?_eq_some_iff.1 hm.of_receive).1

/-- Only handlers that are there are told anything, and only those who are paired that they are
connected. -/
theorem told_cases (hm : v.Moves t new v') :
    ∀ e ∈ v'.told, e ∈ v.told ∨ e.1 < v.phases.length ∧
      ∀ c, e.2 = .connected c → ∃ i o, (c, i, o) ∈ v.pairs ∧ (e.1 = i ∨ e.1 = o) := by
  have hother {i : Nat} {p : Phase} {r : Response} (hp : v.phases[i]? = some p)
      (hr : ∀ c, r ≠ .connected c) : i < v.phases.length ∧
        ∀ c, r = .connected c → ∃ i' o, (c, i', o) ∈ v.pairs ∧ (i = i' ∨ i = o) :=
    ⟨(List.getElem?_eq_some_iff.1 hp).1, fun c hc => absurd hc (hr c)⟩
  intro e he
  cases hm with
  | reply hp =>
      rcases View.mem_told_sent he with he | rfl
      · exact .inl he
      · exact .inr (hother hp (hv.stands _ _ hp).1)
  | refuse hp =>
      rcases View.mem_told_sent he with he | rfl
      · exact .inl he
      · exact .inr (hother hp fun c hc => (hv.stands _ _ hp).2 c (congrArg some hc))
  | notify hquiet hp hr =>
      rcases View.mem_told_tell.1 he with he | rfl
      · exact .inl he
      · exact .inr (hother hp hr)
  | @connect _ i other j c hquiet hp hj =>
      rcases View.mem_told_tell.1 he with he | rfl
      · exact .inl he
      · have hpair : (c, i, other) ∈ v.pairs := hv.stands i _ hp
        refine .inr ⟨?_, fun c' hc' => ?_⟩
        · rcases hj with rfl | rfl
          · exact (List.getElem?_eq_some_iff.1 hp).1
          · exact hv.known _ _ (hv.claimed _ _ (hv.paired _ _ _ hpair).1).1
        · cases hc'
          exact ⟨i, other, hpair, hj⟩
  | _ => exact .inl he

theorem step_spoken (hm : v.Moves t new v') : ∀ e ∈ v'.told, e.1 < v'.phases.length := by
  intro e he
  refine Nat.lt_of_lt_of_le ?_ hm.length_le
  rcases hv.told_cases hm e he with he | ⟨hlt, -⟩
  · exact hv.spoken e he
  · exact hlt

theorem step_created (hm : v.Moves t new v') :
    ∀ i c, Created (ts ++ [t]) i c → c ∈ v'.circuits := by
  intro i c h
  rcases created_append.1 h with h | rfl
  · exact hm.circuits_subset c (hv.created i c h)
  · exact hm.of_register.2

theorem step_creator (hm : v.Moves t new v') :
    ∀ i j c, Created (ts ++ [t]) i c → Created (ts ++ [t]) j c → i = j := by
  -- A circuit that is made is none that there has been.
  have hfirst {i j : Nat} {c : CircuitId} (h : Created ts i c) (heq : t = .register j c) :
      False := by
    subst heq
    exact hm.of_register.1 (hv.created i c h)
  intro i j c h h'
  rcases created_append.1 h with h | heq <;> rcases created_append.1 h' with h' | heq'
  · exact hv.creator i j c h h'
  · exact (hfirst h heq').elim
  · exact (hfirst h' heq).elim
  · cases heq.symm.trans heq'
    rfl

/-- A circuit is not pending for a handler that does something else. -/
theorem not_pending (hp : v.phases[i]? = some p) (h : ∀ c, p ≠ .owning c) :
    ∀ c, (c, i) ∉ v.pending := by
  intro c hc
  have howning := hv.pending _ hc
  cases hp.symm.trans howning
  exact h c rfl

/-- A turn of a handler for which nothing is pending. -/
theorem pending_turn (hsub : ∀ e ∈ v'.pending, e ∈ v.pending) (hphases : v'.phases = v.phases)
    (hi : ∀ c, (c, i) ∉ v'.pending) :
    ∀ e ∈ (v'.turn i p).pending, (v'.turn i p).phases[e.2]? = some (.owning e.1) := by
  intro e he
  have hne : i ≠ e.2 := by
    rintro rfl
    exact hi e.1 he
  rw [View.turn, List.getElem?_set_ne hne, hphases]
  exact hv.pending e (hsub e he)

theorem step_pending (hm : v.Moves t new v') :
    ∀ e ∈ v'.pending, v'.phases[e.2]? = some (.owning e.1) := by
  cases hm with
  | still | notify | connect => exact hv.pending
  | clear => exact fun _ he => absurd he List.not_mem_nil
  | call =>
      intro e he
      have howning := hv.pending e he
      rw [List.getElem?_append_left (List.getElem?_eq_some_iff.1 howning).1]
      exact howning
  | receive hp | reserve _ hp | seek _ hp | part _ hp | unknown hp =>
      exact hv.pending_turn (fun _ he => he) rfl (hv.not_pending hp nofun)
  | finish hquiet hp hdone =>
      refine hv.pending_turn (fun _ he => he) rfl (hv.not_pending hp ?_)
      rcases hdone with rfl | rfl | rfl | ⟨c, j, rfl⟩ <;> nofun
  | close hquiet hp hopen =>
      refine hv.pending_turn (fun _ he => he) rfl (hv.not_pending hp ?_)
      rcases hopen with rfl | rfl | ⟨peer, target, rfl⟩ <;> nofun
  | reply hp | refuse hp =>
      refine hv.pending_turn (fun _ he => ?_) (View.sent_phases ..) ?_
      · rwa [View.sent_pending] at he
      · rw [View.sent_pending]
        exact hv.not_pending hp nofun
  | @register i c hp hfresh =>
      intro e he
      rcases List.mem_cons.1 he with rfl | he
      · rw [View.turn, List.getElem?_set_self (List.getElem?_eq_some_iff.1 hp).1]
      · obtain ⟨hmem, -⟩ := Table.mem_erase.1 he
        have hne : i ≠ e.2 := by
          rintro rfl
          exact hv.not_pending hp nofun e.1 hmem
        rw [View.turn, List.getElem?_set_ne hne]
        exact hv.pending e hmem
  | @withdraw _ i c reply hquiet hp hr =>
      refine hv.pending_turn (fun _ he => (Table.mem_erase.1 he).1) rfl fun c' hc' => ?_
      obtain ⟨hmem, hne⟩ := Table.mem_erase.1 hc'
      cases hp.symm.trans (hv.pending _ hmem)
      exact hne rfl
  | @take i other c hp hother =>
      -- The circuit was taken out for the other, so it is pending no more.
      refine hv.pending_turn (fun _ he => he) rfl fun c' hc' => ?_
      cases hp.symm.trans (hv.pending _ hc')
      exact (hv.claimed _ other (hv.stands other _ hother).1).2.2 i hc'
  | claim hp hpending =>
      exact hv.pending_turn (fun _ he => (Table.mem_erase.1 he).1) rfl fun c' hc' =>
        hv.not_pending hp nofun c' (Table.mem_erase.1 hc').1

theorem step_claimed (hm : v.Moves t new v') :
    ∀ c i, (c, i) ∈ cl ++ new →
      Received (ts ++ [t]) i (.accept c) ∧ c ∈ v'.circuits ∧ ∀ j, (c, j) ∉ v'.pending := by
  intro c i h
  rcases List.mem_append.1 h with h | h
  · obtain ⟨hreq, hcircuit, hgone⟩ := hv.claimed c i h
    refine ⟨hreq.later, hm.circuits_subset c hcircuit, fun j hj => ?_⟩
    rcases hm.pending_cases _ hj with hj | hnew
    · exact hgone j hj
    · exact hnew hcircuit
  · obtain ⟨-, hp, ⟨j, hpending⟩, hgone⟩ := hm.claims h
    have hcircuit := hv.created j c (hv.created_of_pending hpending)
    exact ⟨(hv.stands i _ hp).1.later, hm.circuits_subset c hcircuit, hgone⟩

theorem step_once (hm : v.Moves t new v') : ((cl ++ new).map (·.1)).Nodup := by
  cases new with
  | nil =>
      rw [List.append_nil]
      exact hv.once
  | cons e rest =>
      obtain ⟨c, i⟩ := e
      obtain ⟨hnew, -, ⟨j, hpending⟩, -⟩ := hm.claims List.mem_cons_self
      rw [hnew, List.map_append, List.nodup_append]
      refine ⟨hv.once, List.pairwise_singleton _ c, fun c' hc' d hd heq => ?_⟩
      -- What was taken out before is not pending.
      obtain ⟨⟨c'', i'⟩, hmem, rfl⟩ := List.mem_map.1 hc'
      cases List.mem_singleton.1 hd
      cases heq
      exact (hv.claimed c i' hmem).2.2 j hpending

theorem step_paired (hm : v.Moves t new v') :
    ∀ c i o, (c, i, o) ∈ v'.pairs →
      (c, o) ∈ cl ++ new ∧ Created (ts ++ [t]) i c ∧ Connects (ts ++ [t]) i := by
  intro c i o h
  have hold (h : (c, i, o) ∈ v.pairs) :
      (c, o) ∈ cl ++ new ∧ Created (ts ++ [t]) i c ∧ Connects (ts ++ [t]) i := by
    obtain ⟨hclaimed, hcreated, hconnects⟩ := hv.paired c i o h
    exact ⟨List.mem_append_left _ hclaimed, hcreated.later, hconnects.later⟩
  cases hm with
  | take hp hother =>
      rcases List.mem_append.1 h with h | h
      · exact hold h
      · cases List.mem_singleton.1 h
        obtain ⟨hclaimed, hcreated⟩ := hv.stands o _ hother
        exact ⟨List.mem_append_left _ hclaimed, hcreated.later, (hv.stands i _ hp).1.later⟩
  | reply | refuse => exact hold (by simpa [View.turn] using h)
  | _ => exact hold h

theorem step_connected (hm : v.Moves t new v') :
    ∀ j c, (j, .connected c) ∈ v'.told →
      ∃ i o, (c, i, o) ∈ v'.pairs ∧ (j = i ∨ j = o) := by
  intro j c h
  obtain ⟨i, o, hpair, hj⟩ : ∃ i o, (c, i, o) ∈ v.pairs ∧ (j = i ∨ j = o) := by
    rcases hv.told_cases hm _ h with h | ⟨-, h⟩
    · exact hv.connected j c h
    · exact h c rfl
  exact ⟨i, o, hm.pairs_subset _ hpair, hj⟩

/-- Every move preserves what is true of pairings at any time. -/
theorem step (hm : v.Moves t new v') : Paired (ts ++ [t]) (cl ++ new) v' :=
  ⟨hv.step_stands hm, hv.step_single hm, hv.step_known hm, hv.step_spoken hm, hv.step_created hm,
    hv.step_creator hm, hv.step_pending hm, hv.step_claimed hm, hv.step_once hm,
    hv.step_paired hm, hv.step_connected hm⟩

end Paired

/-! ### Runs -/

theorem Paired.start (limits : Limits) : Paired [] [] (Service.start limits).view := by
  refine ⟨?_, ?_, ?_, ?_, ?_, ?_, ?_, ?_, List.nodup_nil, ?_, ?_⟩ <;>
    simp [Service.start, Service.view, Received, Created]

namespace Service

/-- The circuits that were taken out for those who accepted them, with their handlers, in
order. -/
def allMatched (s : Service) : List RelayTurn → List (CircuitId × Nat)
  | [] => []
  | t :: ts => s.matched t ++ ((s.step? t).elim [] fun s' => s'.allMatched ts)

end Service

theorem Paired.run {s s' : Service} {done ts : List RelayTurn} {cl : List (CircuitId × Nat)}
    (hv : Paired done cl s.view) (hrun : s.run? ts = some s') :
    Paired (done ++ ts) (cl ++ s.allMatched ts) s'.view := by
  induction ts generalizing s done cl with
  | nil =>
      cases hrun
      simpa [Service.allMatched] using hv
  | cons t ts ih =>
      obtain ⟨u, hstep, hrun⟩ := Service.run?_cons hrun
      have hnext := ih (hv.step (Service.view_moves (Service.moves_of_step? hstep))) hrun
      rw [Service.allMatched, hstep, Option.elim_some, ← List.append_assoc,
        List.append_cons done t ts]
      exact hnext

/-! ### The relay -/

/-- What a stream is told that comes to a relay which stops. -/
def turnedAway : Response := .error .unavailable "relay is stopping"

/-- Whether a handler in this stage waits for a circuit to be accepted: it announces it, or has
announced it. -/
def Stage.waitsOn (c : CircuitId) : Stage → Bool
  | .announcing _ _ c' | .waiting c' => c' == c
  | _ => false

/-- Whether a handler in this stage has given up waiting for a circuit. -/
def Stage.gaveUp (c : CircuitId) : Stage → Bool
  | .lapsed c' _ => c' == c
  | _ => false

/-- The circuit for which a handler in this stage has the stream of another, and that other. -/
def Stage.joins? : Stage → Option (CircuitId × Nat)
  | .matched c o | .halfConnected c o | .spliced c o => some (c, o)
  | _ => none

theorem Stage.waitsOn_or_gaveUp {st : Stage} {c : CircuitId} (h : st.phase = .owning c) :
    st.waitsOn c = true ∨ st.gaveUp c = true := by
  cases st <;> simp_all [phase, waitsOn, gaveUp]

theorem Stage.eq_lapsed_of_gaveUp {st : Stage} {c : CircuitId} (h : st.gaveUp c = true) :
    ∃ cause, st = .lapsed c cause := by
  cases st <;> simp_all [gaveUp]

theorem Stage.phase_of_joins? {st : Stage} {c : CircuitId} {o : Nat}
    (h : st.joins? = some (c, o)) : st.phase = .joined c o := by
  cases st <;> simp_all [phase, joins?]

namespace Service

/-- A handler that has given up waiting can take its circuit out, and before it has done so no
turn brings it further. -/
theorem withdraws_of_gaveUp {s : Service} {c : CircuitId} {i : Nat}
    (h : (s.stageOf? i).any (·.gaveUp c) = true) :
    (s.step? (.withdraw i)).isSome = true ∧
      ∀ t s', s.step? t = some s' → s'.stageOf? i = s.stageOf? i ∨ s'.pending.get? c = none := by
  obtain ⟨st, hst, hgaveUp⟩ := (Option.any_eq_true _ _).1 h
  obtain ⟨cause, rfl⟩ := Stage.eq_lapsed_of_gaveUp hgaveUp
  refine ⟨?_, fun t s' hstep => ?_⟩
  · simp [step?, commonStep?, reserveStep?, requestStep?, hst]
  · rcases (moves_of_step? hstep).stays hst rfl with
      hstays | ⟨c', cause', heq, hpending⟩
    · exact .inl (hstays.trans hst.symm)
    · cases heq
      rw [hpending]
      exact .inr (Table.get?_erase_self _ _)

/-- **The relay pairs streams as it should.** Take any turns of any handlers, of their clients
and of the node, which may ask handlers to stop and may stop the relay.

* No circuit is taken out twice, and it is taken out for one who accepts it.
* Streams that are joined for a circuit, or have been, are that of the handler which made it, on
  the request of its client, and that of the handler for which it was taken out.
* Nobody is told to be connected who is not paired.
* One who accepts a circuit that is not pending is told that it is unknown, and nothing else. A
  stream that comes to a relay which stops is turned away before its request is read.
* A circuit is pending only while the handler that made it waits for it to be accepted, or, having
  given up, has yet to take it out, which is the next thing that it does. Once all handlers have
  ended, no circuit is pending. -/
theorem pairing_safe (limits : Limits) {ts : List RelayTurn} {s : Service}
    (hrun : (start limits).run? ts = some s) :
    let matched := (start limits).allMatched ts
    (matched.map (·.1)).Nodup ∧ (∀ c o, (c, o) ∈ matched → Received ts o (.accept c)) ∧
    (∀ i c o, (s.stageOf? i).bind Stage.joins? = some (c, o) ∨ (c, i, o) ∈ s.pairs →
      (c, o) ∈ matched ∧ Connects ts i ∧ ∀ j, Created ts j c ↔ j = i) ∧
    (∀ j c, (j, .connected c) ∈ s.told → ∃ i o, (c, i, o) ∈ s.pairs ∧ (j = i ∨ j = o)) ∧
    (∀ o c, s.stageOf? o = some (.asked (.accept c)) → s.pending.get? c = none →
      s.step? (.claim o) = some (s.goto o (.replying (unknownCircuit c)))) ∧
    (∀ o c, Received ts o (.accept c) → (c, o) ∉ matched → s.stageOf? o = some .ended →
      s.view.heard o = [unknownCircuit c] ∨ s.view.heard o = [] ∧ .reply o false ∈ ts) ∧
    (∀ o, s.stageOf? o = some .called → s.stopStage ≠ .serving →
      s.step? (.check o) = some (s.goto o (.replying turnedAway))) ∧
    (∀ c i, s.pending.get? c = some i → Connects ts i ∧ Created ts i c ∧
      ((s.stageOf? i).any (·.waitsOn c) = true ∨
        (s.stageOf? i).any (·.gaveUp c) = true ∧ (s.step? (.withdraw i)).isSome = true ∧
        ∀ t s', s.step? t = some s' →
          s'.stageOf? i = s.stageOf? i ∨ s'.pending.get? c = none)) ∧
    ((∀ h ∈ s.handlers, h.stage = .ended) → s.pending = []) := by
  have hv : Paired ts ((start limits).allMatched ts) s.view := (Paired.start limits).run hrun
  refine ⟨hv.once, fun c o h => (hv.claimed c o h).1, ?_, hv.connected, ?_, ?_, ?_, ?_, ?_⟩
  · intro i c o h
    have hpair : (c, i, o) ∈ s.pairs := by
      rcases h with h | h
      · obtain ⟨st, hst, hjoins⟩ := Option.bind_eq_some_iff.1 h
        have hp := phases_of_stageOf? hst
        rw [Stage.phase_of_joins? hjoins] at hp
        exact hv.stands i _ hp
      · exact h
    obtain ⟨hmatched, hcreated, hconnects⟩ := hv.paired c i o hpair
    refine ⟨hmatched, hconnects, fun j => ⟨fun hj => hv.creator j i c hj hcreated, ?_⟩⟩
    rintro rfl
    exact hcreated
  · intro o c hst hpending
    simp [step?, commonStep?, reserveStep?, requestStep?, circuitStep?, acceptStep?, hst, hpending,
      unknownCircuit]
  · intro o c hreq hmatched hst
    exact (hv.stands o _ (phases_of_stageOf? hst) c hreq).resolve_left hmatched
  · intro o hst hstop
    simp [step?, commonStep?, hst, hstop, turnedAway]
  · intro c i h
    have hp := hv.pending _ (Table.mem_of_get?_eq_some h)
    obtain ⟨hconnects, hcreated⟩ := hv.stands i _ hp
    refine ⟨hconnects, hcreated, ?_⟩
    rw [view, List.getElem?_map, Option.map_eq_some_iff] at hp
    obtain ⟨g, hget, hphase⟩ := hp
    have hst := stageOf?_of_getElem? hget
    rcases Stage.waitsOn_or_gaveUp hphase with hwaits | hgaveUp
    · exact .inl (by rwa [hst, Option.any_some])
    · have hgaveUp : (s.stageOf? i).any (·.gaveUp c) = true := by rwa [hst, Option.any_some]
      exact .inr ⟨hgaveUp, withdraws_of_gaveUp hgaveUp⟩
  · intro hended
    refine List.eq_nil_iff_forall_not_mem.2 fun e he => ?_
    have hp := hv.pending e he
    rw [view, List.getElem?_map, Option.map_eq_some_iff] at hp
    obtain ⟨g, hget, hphase⟩ := hp
    rw [hended g (List.mem_of_getElem? hget)] at hphase
    cases hphase

/-- A target reserves and an initiator asks for it. Two accept the circuit, one of them too
late; the relay stops while the circuit is open. -/
def pairingTurns (c : CircuitId) : List RelayTurn :=
  [.call, .check 0, .receive 0 (.ok (some (.reserve default))), .number 0, .enter 0,
    .confirm 0 true, .call, .check 1, .receive 1 (.ok (some (.connect default default))), .look 1,
    .place 1, .register 1 c, .announce 1, .notice 0, .notify 0 true, .call, .call, .check 2,
    .check 3, .receive 2 (.ok (some (.accept c))), .receive 3 (.ok (some (.accept c))), .claim 2,
    .claim 3, .offer 2, .take 1 2, .connect 1 true, .stop, .stop, .connectOther 1 true, .stop,
    .reply 3 true, .stop, .finish 1 .cancelled, .regain 2, .yield 0, .leave 0, .release 1]

theorem pairing_safe_late :
    ∃ s, (start .unlimited).run? (pairingTurns ⟨7⟩) = some s ∧
      (start .unlimited).allMatched (pairingTurns ⟨7⟩) = [(⟨7⟩, 2)] ∧
      (⟨7⟩, 1, 2) ∈ s.pairs ∧ Connects (pairingTurns ⟨7⟩) 1 ∧
      s.told = [(0, .reserved), (0, .incoming ⟨7⟩ default), (1, .connected ⟨7⟩),
        (2, .connected ⟨7⟩), (3, unknownCircuit ⟨7⟩)] ∧
      s.view.heard 3 = [unknownCircuit ⟨7⟩] ∧ s.stopStage = .stopped ∧ s.pending = [] := by
  obtain ⟨s, hrun, htold, hpairs, hstop, hstages⟩ :
      ∃ s, (start .unlimited).run? (pairingTurns ⟨7⟩) = some s ∧
        s.told = [(0, .reserved), (0, .incoming ⟨7⟩ default), (1, .connected ⟨7⟩),
          (2, .connected ⟨7⟩), (3, unknownCircuit ⟨7⟩)] ∧
        s.pairs = [(⟨7⟩, 1, 2)] ∧ s.stopStage = .stopped ∧
        s.handlers.map (·.stage) = List.replicate 4 .ended :=
    ⟨_, rfl, rfl, rfl, rfl, rfl⟩
  have hmatched : (start .unlimited).allMatched (pairingTurns ⟨7⟩) = [(⟨7⟩, 2)] := rfl
  obtain ⟨-, -, hjoined, -, -, hunknown, -, -, hcleared⟩ := pairing_safe .unlimited hrun
  have hpair : (⟨7⟩, 1, 2) ∈ s.pairs := by
    rw [hpairs]
    exact List.mem_cons_self
  have hended : ∀ h ∈ s.handlers, h.stage = .ended := fun h hh =>
    List.eq_of_mem_replicate (hstages ▸ List.mem_map_of_mem hh)
  have hlate : s.stageOf? 3 = some .ended := by
    rw [stageOf?, ← List.getElem?_map, hstages]
    rfl
  have hheard := hunknown 3 ⟨7⟩ (by simp [Received, pairingTurns]) (by simp [hmatched]) hlate
  refine ⟨s, hrun, hmatched, hpair, (hjoined 1 ⟨7⟩ 2 (.inr hpair)).2.1, htold,
    hheard.resolve_right fun h => ?_, hstop, hcleared hended⟩
  simp [pairingTurns] at h

/-- A target reserves and an initiator asks for it. Nobody accepts the circuit in time. -/
def lapsingTurns (c : CircuitId) : List RelayTurn :=
  [.call, .check 0, .receive 0 (.ok (some (.reserve default))), .number 0, .enter 0,
    .confirm 0 true, .call, .check 1, .receive 1 (.ok (some (.connect default default))), .look 1,
    .place 1, .register 1 c, .announce 1, .expire 1]

/-- A circuit may be pending although its handler waits no more, and one may be told otherwise than
that a circuit is unknown although nothing is pending. -/
theorem pairing_lags :
    (∃ s, (start .unlimited).run? (lapsingTurns ⟨7⟩) = some s ∧ s.pending.get? ⟨7⟩ = some 1 ∧
      (s.stageOf? 1).any (·.waitsOn ⟨7⟩) = false) ∧
    ∃ s, (start .unlimited).run? [.stop, .call, .check 0, .reply 0 true] = some s ∧
      s.pending = [] ∧ s.told = [(0, turnedAway)] :=
  ⟨⟨_, rfl, rfl, rfl⟩, _, rfl, rfl, rfl⟩

end Service

end Rendezvous.Relay
