import Rendezvous.Proofs.Retry.Backoff
import Rendezvous.Proofs.Sync.Delivery

/-!
# Rendezvous.Proofs.Sync.Endurance

What it takes for the driver for a broker to end. Only an answer to an attempt can end it
against its will, so the turns fall into the answers and the others; the others leave alone how
many attempts of the budget have failed. Whatever the broker does, a driver goes on until the node
asks it to stop or, if the node cannot do without it, a whole budget was spent in a row.

One thing can still end it: a delay that does not fit a word. A policy has such a delay or it has
not, and that alone decides whether every run ends as it should.

* `attempts`, `Spent`: what attempts at a session came to;
* `Broker.Drifts`: what a turn that is no answer does to the phase;
* `Broker.Enduring`: what every turn preserves; `Enduring.step`, `Enduring.run`;
* `Broker.endsDutifully_iff`.
-/

namespace Rendezvous

namespace Sync.Broker

variable {b b' : Broker} {t : BrokerTurn} {c : BrokerConfig} {url : SocketUrl}
  {past : List BrokerTurn} {reasons : List String}

/-! ### Attempts -/

/-- What an attempt at a session came to in a turn. -/
def BrokerTurn.attempt? : BrokerTurn → Option (Except String Unit)
  | .answer outcome => some outcome
  | .publish _ | .subscribe | .connect _ | .start | .cancel | .close | .learn | .halt | .dial _
  | .take | .deliver _ | .arrive _ | .discard | .resume => none

/-- What the attempts at a session came to, the first in front. -/
def attempts (turns : List BrokerTurn) : List (Except String Unit) :=
  turns.filterMap BrokerTurn.attempt?

theorem attempts_snoc (past : List BrokerTurn) (t : BrokerTurn) :
    attempts (past ++ [t]) = attempts past ++ t.attempt?.toList := by
  rw [attempts, List.filterMap_append]
  cases t <;> rfl

/-- The last attempts, one for each of some reasons, came to nothing. -/
def Failed (turns : List BrokerTurn) (reasons : List String) : Prop :=
  reasons.map .error <:+ attempts turns

theorem Failed.nil (turns : List BrokerTurn) : Failed turns [] := List.nil_suffix

theorem Failed.quiet (hf : Failed past reasons) (ht : t.attempt? = none) :
    Failed (past ++ [t]) reasons := by
  rwa [Failed, attempts_snoc, ht, Option.toList_none, List.append_nil]

theorem Failed.again (hf : Failed past reasons) (reason : String) :
    Failed (past ++ [.answer (.error reason)]) (reasons ++ [reason]) := by
  obtain ⟨before, hbefore⟩ := hf
  refine ⟨before, ?_⟩
  rw [attempts_snoc, ← hbefore, List.map_append, List.append_assoc]
  rfl

/-- A whole budget of attempts in a row came to nothing, the last for this reason. -/
def Spent (c : BrokerConfig) (turns : List BrokerTurn) (reason : String) : Prop :=
  ∃ reasons, Failed turns reasons ∧ reasons.length = c.retry.attempts ∧
    reasons.getLast? = some reason

/-- Whether the node has asked the driver to stop, or closed it. -/
def Asked (turns : List BrokerTurn) : Prop := .cancel ∈ turns ∨ .close ∈ turns

/-! ### Turns that are no answers -/

/-- What a turn that is no answer does to the phase. -/
inductive Drifts (b : Broker) : BrokerPhase → Prop where
  | stay : Drifts b b.phase
  | wait : Drifts b (.waiting 0)
  | dial {attempt : Nat} (hphase : b.phase = .waiting attempt) : Drifts b (.dialing attempt)
  | serve : Drifts b .connected
  | send : Drifts b .sending
  | halt (hstopping : b.stopping = true) : Drifts b (.finished (.ok ()))
  | overflow {attempt jitter : Nat} (hphase : b.phase = .waiting attempt)
      (hallows : b.config.retry.allows attempt jitter = true)
      (hdelay : b.config.retry.delay? attempt jitter = none) :
      Drifts b (.crashed .delayOverflow)

theorem drifts_publish (b : Broker) (a : Announcement) : Drifts b (b.publish a).1.phase := by
  unfold publish
  split
  · exact .stay
  · split <;> exact .stay

theorem drifts_hear (b : Broker) (text : String) : Drifts b (b.hear text).phase := by
  unfold hear
  split
  · split <;> exact .stay
  · exact .stay

theorem drifts_delivered (b : Broker) (o : Outbound) (success : Bool) :
    Drifts b (b.delivered o success).phase := by
  unfold delivered
  split
  · exact .serve
  · dsimp only
    split
    · exact .wait
    · exact .wait

theorem drifts_of_step? (h : b.step? t = some b') (ht : t.attempt? = none) :
    Drifts b b'.phase := by
  cases t with
  | answer => cases ht
  | publish a => cases h; exact drifts_publish b a
  | subscribe | cancel | close => cases h; exact .stay
  | connect outcome =>
      simp only [step?] at h
      split at h
      · cases h
      · split at h <;> cases h <;> exact .stay
  | start =>
      simp only [step?] at h
      split at h <;> cases h
      cases b.hasSession with
      | true => exact .serve
      | false => exact .wait
  | learn =>
      simp only [step?] at h
      split at h <;> cases h
      exact .stay
  | halt =>
      simp only [step?] at h
      split at h
      all_goals first
        | (split at h <;> cases h; exact .halt ‹_›)
        | cases h
  | dial jitter =>
      simp only [step?] at h
      split at h
      · split at h
        · cases h
        · rename_i hallows
          split at h
          · split at h <;> cases h
            exact .dial ‹_›
          · cases h
            exact .overflow ‹_› (by simpa using hallows) ‹_›
      · cases h
  | take =>
      simp only [step?] at h
      split at h <;> cases h
      exact .send
  | deliver success =>
      simp only [step?] at h
      split at h <;> cases h
      exact drifts_delivered b _ success
  | arrive a =>
      simp only [step?] at h
      split at h
      · split at h <;> cases h
        · exact drifts_hear b _
        · exact .stay
        all_goals exact .wait
      · cases h
  | discard =>
      simp only [step?] at h
      split at h <;> cases h
      exact .stay
  | resume =>
      simp only [step?] at h
      split at h <;> cases h
      exact .wait

/-- An answer comes to an attempt alone. -/
theorem answer_of_step? {outcome : Except String Unit} (h : b.step? (.answer outcome) = some b') :
    ∃ attempt, b.phase = .dialing attempt ∧ b' = b.settle attempt outcome := by
  simp only [step?] at h
  split at h <;> cases h
  exact ⟨_, ‹_›, rfl⟩

/-! ### What the node has asked -/

/-- Whether the node has asked the driver to stop, and whether it has closed it. -/
def asks (b : Broker) : Bool × Bool := (b.cancelled, b.closed)

theorem asks_publish (b : Broker) (a : Announcement) : (b.publish a).1.asks = b.asks := by
  unfold publish
  split
  · rfl
  · split <;> rfl

theorem asks_hear (b : Broker) (text : String) : (b.hear text).asks = b.asks := by
  unfold hear
  split
  · split <;> rfl
  · rfl

theorem asks_dropPending (b : Broker) (r : DropReason) : (b.dropPending r).asks = b.asks := by
  unfold dropPending
  split <;> rfl

theorem asks_delivered (b : Broker) (o : Outbound) (success : Bool) :
    (b.delivered o success).asks = b.asks := by
  unfold delivered
  split
  · rfl
  · dsimp only
    split
    · exact asks_dropPending _ _
    · rfl

theorem asks_settle (b : Broker) (attempt : Nat) (outcome : Except String Unit) :
    (b.settle attempt outcome).asks = b.asks := by
  cases outcome with
  | ok =>
      rw [settle, enter]
      split <;> rfl
  | error reason =>
      rw [settle]
      split
      · rfl
      · rw [exhaust]
        split
        · rfl
        · exact asks_dropPending b _

theorem asks_of_step? (h : b.step? t = some b') (hcancel : t ≠ .cancel) (hclose : t ≠ .close) :
    b'.asks = b.asks := by
  cases t with
  | cancel => exact absurd rfl hcancel
  | close => exact absurd rfl hclose
  | publish a => cases h; exact asks_publish b a
  | subscribe => cases h; rfl
  | answer outcome =>
      obtain ⟨attempt, -, rfl⟩ := answer_of_step? h
      exact asks_settle b attempt outcome
  | deliver success =>
      simp only [step?] at h
      split at h <;> cases h
      exact asks_delivered b _ success
  | arrive a =>
      simp only [step?] at h
      split at h
      · split at h <;> cases h
        · exact asks_hear b _
        all_goals rfl
      · cases h
  | connect | start | learn | halt | dial | take | discard | resume =>
      simp only [step?] at h
      repeat' split at h
      all_goals first
        | (cases h; rfl)
        | cases h

theorem asked_of_step? (h : b.step? t = some b')
    (hb : b.cancelled = true ∨ b.closed = true → Asked past)
    (hb' : b'.cancelled = true ∨ b'.closed = true) : Asked (past ++ [t]) := by
  by_cases hcancel : t = .cancel
  · exact .inl (by simp [hcancel])
  by_cases hclose : t = .close
  · exact .inr (by simp [hclose])
  obtain ⟨hcancelled, hclosed⟩ := Prod.mk.inj (asks_of_step? h hcancel hclose)
  rw [hcancelled, hclosed] at hb'
  exact (hb hb').imp (List.mem_append_left _) (List.mem_append_left _)

/-! ### What every turn preserves -/

theorem Moves.url_eq (hm : Moves b b') : b'.url = b.url := by
  cases hm with
  | withdraw =>
      show (b.dropPending _).url = b.url
      unfold dropPending
      split <;> rfl
  | _ => rfl

/-- What a phase tells of the turns so far. -/
def Tells (c : BrokerConfig) (url : SocketUrl) (past : List BrokerTurn) : BrokerPhase → Prop
  | .waiting attempt | .dialing attempt =>
    attempt < c.retry.attempts ∧ ∃ reasons, Failed past reasons ∧ reasons.length = attempt
  | .finished (.ok ()) => Asked past
  | .finished (.error e) =>
    c.mandatory = true ∧ ∃ reason, Spent c past reason ∧ e = .connect url.toText reason
  | .crashed _ => c.retry.Overflows
  | .ready | .connected | .sending | .localOnly => True

/-- A turn that is no answer changes nothing of what a phase tells. -/
theorem Tells.quiet {phase : BrokerPhase} (hp : Tells c url past phase) (ht : t.attempt? = none) :
    Tells c url (past ++ [t]) phase := by
  cases phase with
  | waiting | dialing =>
      obtain ⟨hlt, reasons, hfailed, hlength⟩ := hp
      exact ⟨hlt, reasons, hfailed.quiet ht, hlength⟩
  | finished result =>
      cases result with
      | ok => exact hp.imp (List.mem_append_left _) (List.mem_append_left _)
      | error e =>
          obtain ⟨hmandatory, reason, ⟨reasons, hfailed, hspent⟩, he⟩ := hp
          exact ⟨hmandatory, reason, ⟨reasons, hfailed.quiet ht, hspent⟩, he⟩
  | crashed => exact hp
  | ready | connected | sending | localOnly => trivial

/-- What is true of a driver after some turns. -/
structure Enduring (c : BrokerConfig) (url : SocketUrl) (past : List BrokerTurn) (b : Broker) :
    Prop where
  reached : Reached c b
  url_eq : b.url = url
  asked : b.cancelled = true ∨ b.closed = true → Asked past
  tells : Tells c url past b.phase

namespace Enduring

theorem fresh (c : BrokerConfig) (url : SocketUrl) : Enduring c url [] (Broker.fresh c url) :=
  ⟨.fresh c url, rfl, by simp [Broker.fresh], trivial⟩

theorem tells_drift {phase : BrokerPhase} (he : Enduring c url past b) (hd : Drifts b phase)
    (ht : t.attempt? = none) : Tells c url (past ++ [t]) phase := by
  have htells := he.tells
  cases hd with
  | stay => exact htells.quiet ht
  | wait => exact ⟨c.retry.attempts_pos, [], .nil _, rfl⟩
  | @dial attempt hphase =>
      rw [hphase] at htells
      have hdialing : Tells c url past (.dialing attempt) := htells
      exact hdialing.quiet ht
  | serve | send => trivial
  | halt hstopping =>
      have hasked : Asked past := he.asked (he.reached.heeding hstopping)
      exact hasked.imp (List.mem_append_left _) (List.mem_append_left _)
  | @overflow attempt jitter hphase hallows hdelay =>
      rw [hphase] at htells
      rw [he.reached.config] at hallows hdelay
      exact ⟨attempt, jitter, htells.1, hallows, hdelay⟩

theorem tells_settle (he : Enduring c url past b) {attempt : Nat}
    (hphase : b.phase = .dialing attempt) (outcome : Except String Unit) :
    Tells c url (past ++ [.answer outcome]) (b.settle attempt outcome).phase := by
  have htells := he.tells
  rw [hphase] at htells
  obtain ⟨hlt, reasons, hfailed, hlength⟩ := htells
  cases outcome with
  | ok =>
      rw [settle, enter]
      split <;> trivial
  | error reason =>
      -- One more attempt of the budget has failed, and either that was the last or it was not.
      have hagain := hfailed.again reason
      have hlength' : (reasons ++ [reason]).length = attempt + 1 := by simp [hlength]
      rw [settle, he.reached.config]
      split
      · exact ⟨‹_›, _, hagain, hlength'⟩
      · have hspent : (reasons ++ [reason]).length = c.retry.attempts := by omega
        rw [exhaust, he.reached.config]
        split
        · refine ⟨‹_›, reason, ⟨_, hagain, hspent, by simp⟩, ?_⟩
          rw [connectError, he.url_eq]
        · trivial

theorem step (he : Enduring c url past b) (hstep : b.step? t = some b') :
    Enduring c url (past ++ [t]) b' := by
  have hm := moves_of_step? hstep
  refine ⟨he.reached.step hm, hm.url_eq.trans he.url_eq, asked_of_step? hstep he.asked, ?_⟩
  cases ht : t.attempt? with
  | none => exact he.tells_drift (drifts_of_step? hstep ht) ht
  | some outcome =>
      cases t with
      | answer outcome' =>
          obtain ⟨attempt, hphase, rfl⟩ := answer_of_step? hstep
          exact he.tells_settle hphase outcome'
      | _ => cases ht

theorem run (he : Enduring c url past b) {turns : List BrokerTurn}
    (hrun : b.run? turns = some b') : Enduring c url (past ++ turns) b' := by
  induction turns generalizing b past with
  | nil =>
      cases hrun
      rwa [List.append_nil]
  | cons t rest ih =>
      rw [run?] at hrun
      split at hrun
      · rw [List.append_cons]
        exact ih (he.step ‹_›) hrun
      · cases hrun

end Enduring

/-! ### A delay that does not fit -/

theorem run?_append (b : Broker) (turns later : List BrokerTurn) :
    b.run? (turns ++ later) = (b.run? turns).bind (·.run? later) := by
  induction turns generalizing b with
  | nil => rfl
  | cons t rest ih =>
      rw [List.cons_append, run?, run?]
      cases b.step? t with
      | none => rfl
      | some b' => exact ih b'

/-- A driver can crash. -/
def Crashes (b : Broker) : Prop :=
  ∃ turns b' cause, b.run? turns = some b' ∧ b'.phase = .crashed cause

theorem Crashes.of_run {turns : List BrokerTurn} (hrun : b.run? turns = some b')
    (hb : b'.Crashes) : b.Crashes := by
  obtain ⟨later, b'', cause, hlater, hphase⟩ := hb
  refine ⟨turns ++ later, b'', cause, ?_, hphase⟩
  rw [run?_append, hrun]
  exact hlater

/-- A driver can come to a crash in which nothing but its phase is lost. -/
def Breaks (b : Broker) : Prop :=
  ∃ turns, b.run? turns = some { b with phase := .crashed .delayOverflow }

theorem Breaks.crashes (hb : b.Breaks) : b.Crashes := by
  obtain ⟨turns, hrun⟩ := hb
  exact ⟨turns, _, _, hrun, rfl⟩

theorem Breaks.of_run {turns : List BrokerTurn} {phase : BrokerPhase}
    (hrun : b.run? turns = some { b with phase }) (hb : Breaks { b with phase }) : b.Breaks := by
  obtain ⟨later, hlater⟩ := hb
  refine ⟨turns ++ later, ?_⟩
  rw [run?_append, hrun]
  exact hlater

/-- A driver that waits breaks if the delay before its next attempt does not fit. -/
theorem breaks_of_waiting {attempt jitter : Nat} (hphase : b.phase = .waiting attempt)
    (hallows : b.config.retry.allows attempt jitter = true)
    (hdelay : b.config.retry.delay? attempt jitter = none) : b.Breaks := by
  refine ⟨[.dial jitter], ?_⟩
  simp only [run?, step?, hphase, hallows, hdelay]
  rfl

/-- One attempt after the other can fail, if no delay gets in the way. -/
theorem run?_refused {attempt : Nat} (hphase : b.phase = .waiting attempt)
    (hstopping : b.stopping = false) (hlt : attempt + 1 < b.config.retry.attempts)
    (hdelay : b.config.retry.delay? attempt 0 ≠ none) :
    b.run? [.dial 0, .answer (.error "refused")]
      = some { b with phase := .waiting (attempt + 1) } := by
  obtain ⟨delay, hsome⟩ := Option.ne_none_iff_exists'.1 hdelay
  simp only [run?, step?, hphase, b.config.retry.allows_zero attempt, hsome, hstopping, settle]
  simp [hlt]

theorem breaks_or_refused (hphase : b.phase = .waiting 0) (hstopping : b.stopping = false)
    {attempt : Nat} (hlt : attempt < b.config.retry.attempts) :
    b.Breaks ∨ ∃ turns, b.run? turns = some { b with phase := .waiting attempt } := by
  induction attempt with
  | zero =>
      refine .inr ⟨[], ?_⟩
      rw [run?, ← hphase]
  | succ attempt ih =>
      rcases ih (by omega) with hbreaks | ⟨turns, hrun⟩
      · exact .inl hbreaks
      · by_cases hdelay : b.config.retry.delay? attempt 0 = none
        · exact .inl (.of_run hrun
            (breaks_of_waiting rfl (b.config.retry.allows_zero attempt) hdelay))
        · refine .inr ⟨turns ++ [.dial 0, .answer (.error "refused")], ?_⟩
          rw [run?_append, hrun]
          exact run?_refused (b := { b with phase := .waiting attempt }) rfl hstopping hlt hdelay

/-- A driver that waits for its first attempt, and whose policy has a delay that does not fit,
can break. -/
theorem breaks_of_overflows (hphase : b.phase = .waiting 0) (hstopping : b.stopping = false)
    (ho : b.config.retry.Overflows) : b.Breaks := by
  obtain ⟨attempt, jitter, hlt, hallows, hdelay⟩ := ho
  rcases breaks_or_refused hphase hstopping hlt with hbreaks | ⟨turns, hrun⟩
  · exact hbreaks
  · exact .of_run hrun (breaks_of_waiting rfl hallows hdelay)

theorem crashes_of_overflows (url : SocketUrl) (ho : c.retry.Overflows) :
    (fresh c url).Crashes := by
  have hstart : (fresh c url).run? [.start] = some { fresh c url with phase := .waiting 0 } := rfl
  exact .of_run hstart (breaks_of_overflows rfl rfl ho).crashes

/-- Nothing else makes a driver crash. -/
theorem overflows_of_crashes (hcrashes : (fresh c url).Crashes) : c.retry.Overflows := by
  obtain ⟨turns, b, cause, hrun, hphase⟩ := hcrashes
  have he : Enduring c url turns b := (Enduring.fresh c url).run hrun
  have htells := he.tells
  rwa [hphase] at htells

/-! ### How a driver ends -/

/-- A driver that has ended well has done so because the node asked for it. One that has ended
with an error is one that the node cannot do without: it has spent a whole budget in a row, and
the error is that of the last attempt. No driver crashes. -/
def EndsDutifully (turns : List BrokerTurn) (b : Broker) : Prop :=
  match b.phase with
  | .finished (.ok ()) => Asked turns
  | .finished (.error e) =>
    b.config.mandatory = true ∧ ∃ reason, Spent b.config turns reason ∧ e = b.connectError reason
  | .crashed _ => False
  | _ => True

theorem Enduring.endsDutifully {turns : List BrokerTurn} (he : Enduring c url turns b)
    (ho : ¬ c.retry.Overflows) : b.EndsDutifully turns := by
  have htells := he.tells
  rw [EndsDutifully]
  cases hphase : b.phase with
  | finished result =>
      rw [hphase] at htells
      cases result with
      | ok => exact htells
      | error e =>
          simp only [he.reached.config, connectError, he.url_eq]
          exact htells
  | crashed cause =>
      rw [hphase] at htells
      exact ho htells
  | _ => trivial

theorem eq_fresh_of_make {b₀ : Broker} (hmake : make c = .ok b₀) : ∃ url, b₀ = fresh c url := by
  rw [make_eq] at hmake
  split at hmake
  · cases hmake
  · split at hmake <;> cases hmake
    exact ⟨_, rfl⟩

/-- **A driver lasts, unless a delay does not fit.** The runs of a driver, whatever the node and
the broker do in them, all end as they should if and only if its policy has no delay that does
not fit a word. -/
theorem endsDutifully_iff {b₀ : Broker} (hmake : make c = .ok b₀) :
    (∀ turns b, b₀.run? turns = some b → b.EndsDutifully turns) ↔ ¬ c.retry.Overflows := by
  obtain ⟨url, rfl⟩ := eq_fresh_of_make hmake
  constructor
  · intro hends ho
    obtain ⟨turns, b, cause, hrun, hphase⟩ := crashes_of_overflows url ho
    have hend := hends turns b hrun
    rwa [EndsDutifully, hphase] at hend
  · exact fun ho turns b hrun => ((Enduring.fresh c url).run hrun).endsDutifully ho

theorem make_of_server (hserver : (SocketUrl.ofServer c.server).toOption = some url)
    (hplaces : c.places ≤ Places.most) : make c = .ok (fresh c url) := by
  rw [make_eq]
  cases h : SocketUrl.ofServer c.server with
  | error e => simp [h, Except.toOption] at hserver
  | ok url' =>
      simp only [h, Except.toOption, Option.some.injEq] at hserver
      rw [hserver]
      exact if_pos hplaces

/-- A driver with two places in its queue that tries everything twice. -/
def twice : BrokerConfig :=
  { BrokerConfig.usual "broker" "key" "node" with queueCapacity := 2, retry := ⟨2, 1, 2⟩ }

/-- The address of its broker. -/
def brokerUrl : SocketUrl := ⟨"", "", .name "broker", none, "/", none, none⟩

/-- A driver that the node cannot do without, and that tries twice. -/
def needed : BrokerConfig := { twice with mandatory := true }

/-- It loses a session, and two attempts at another fail. -/
def lossAndRefusals : List BrokerTurn :=
  [.start, .dial 0, .answer (.error "refused"), .dial 0, .answer (.ok ()), .arrive .ended, .dial 0,
    .answer (.error "timed out"), .dial 0, .answer (.error "rejected")]

theorem endsDutifully_iff_needed :
    ∃ b₀ b, make needed = .ok b₀ ∧ b₀.run? lossAndRefusals = some b ∧
      b.phase = .finished (.error (b.connectError "rejected")) ∧
      b.EndsDutifully lossAndRefusals := by
  have hmake : make needed = .ok (fresh needed brokerUrl) :=
    make_of_server (by decide +kernel) (by decide)
  have hfits : needed.retry.Fits := show 2 + 2 / 10 < Backoff.words by decide
  have hrun : (fresh needed brokerUrl).run? lossAndRefusals = some _ := rfl
  exact ⟨_, _, hmake, hrun, rfl, (endsDutifully_iff hmake).2 hfits.not_overflows _ _ hrun⟩

/-- A driver that the node can do without, and that would wait for as long as a word can tell. -/
def farOff : BrokerConfig :=
  { BrokerConfig.usual "broker" "key" "node" with
    retry := ⟨2, Backoff.largest, Backoff.largest⟩ }

/-- A driver that the node can do without, and that was neither asked to stop nor closed, crashes
after one attempt has failed. -/
theorem unasked_driver_crashes :
    ∃ b₀ b, make farOff = .ok b₀ ∧ farOff.mandatory = false ∧
      b₀.run? [.start, .dial 0, .answer (.error "refused"), .dial 1] = some b ∧
      b.phase = .crashed .delayOverflow ∧ b.cancelled = false ∧ b.closed = false := by
  have hmake : make farOff = .ok (fresh farOff brokerUrl) :=
    make_of_server (by decide +kernel) (by decide)
  exact ⟨_, _, hmake, rfl, rfl, rfl, rfl, rfl⟩

end Sync.Broker

end Rendezvous
