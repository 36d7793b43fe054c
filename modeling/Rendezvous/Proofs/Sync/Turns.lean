import Rendezvous.Sync.Broker

/-!
# Rendezvous.Proofs.Sync.Turns

What a turn of the driver for a broker can do, and what its state tells of the rest of it: in
which phases a change may be pending, and why the driver is to stop.

* `Broker.Moves`, `Broker.moves_of_step?`: what a turn can do;
* `Broker.run?_induction`: what every turn preserves is preserved by a run;
* `Broker.Poised`: when a change may be pending;
* `Broker.Heeding`: why a driver is to stop.
-/

namespace Rendezvous.Sync.Broker

variable {b b' : Broker} {t : BrokerTurn}

/-- Whether the pending change is being sent. -/
def isSending (b : Broker) : Bool :=
  match b.phase with
  | .sending => true
  | _ => false

/-- What a turn can do. -/
inductive Moves (b : Broker) : Broker → Prop where
  /-- The node or the broker tells something that concerns neither the changes nor the phase. -/
  | aside {hasSession subscribed closed cancelled stopping : Bool} {refused : Nat}
      {handled : List Event} (hclosed : b.closed = true → closed = true)
      (hcancelled : b.cancelled = true → cancelled = true)
      (hstopping : stopping = true → b.stopping = true ∨ cancelled = true ∨ closed = true) :
      Moves b { b with hasSession, subscribed, closed, cancelled, stopping, refused, handled }
  | accept (e : Event) :
      Moves b { b with queue := b.queue ++ [⟨b.accepted.length, e, 0⟩],
                       accepted := b.accepted ++ [e] }
  | start (hphase : b.phase = .ready) :
      Moves b { b with stopping := b.closed, hasSession := false,
                       phase := if b.hasSession then .connected else .waiting 0 }
  | halt (hsending : b.isSending = false) (hstopping : b.stopping = true) :
      Moves b { b with phase := .finished (.ok ()) }
  | dial {attempt : Nat} (hphase : b.phase = .waiting attempt) :
      Moves b { b with phase := .dialing attempt }
  | overflow {attempt jitter : Nat} (hphase : b.phase = .waiting attempt)
      (hjitter : b.config.retry.allows attempt jitter = true)
      (hdelay : b.config.retry.delay? attempt jitter = none) :
      Moves b { b with phase := .crashed .delayOverflow }
  | again {attempt : Nat} (hphase : b.phase = .dialing attempt) :
      Moves b { b with phase := .waiting (attempt + 1) }
  | enter {attempt : Nat} (hphase : b.phase = .dialing attempt) (hpending : b.pending = none) :
      Moves b { b with phase := .connected }
  | resend {attempt : Nat} {o : Outbound} (hphase : b.phase = .dialing attempt)
      (hpending : b.pending = some o) : Moves b (b.send o)
  | giveUp {attempt : Nat} {e : DriverError} (hphase : b.phase = .dialing attempt)
      (hmandatory : b.config.mandatory = true) : Moves b { b with phase := .finished (.error e) }
  | withdraw {attempt : Nat} (hphase : b.phase = .dialing attempt) :
      Moves b { b.dropPending .disconnected with phase := .localOnly }
  | take {o : Outbound} {rest : List Outbound} (hphase : b.phase = .connected)
      (hqueue : b.queue = o :: rest) : Moves b ({ b with queue := rest }.send o)
  | sent {o : Outbound} (hphase : b.phase = .sending) (hpending : b.pending = some o) :
      Moves b { b with phase := .connected, pending := none, sent := b.sent ++ [o] }
  | failed {o : Outbound} (hphase : b.phase = .sending) (hpending : b.pending = some o)
      (hleft : o.failures + 1 < b.config.retry.attempts) :
      Moves b { b with phase := .waiting 0,
                       pending := some { o with failures := o.failures + 1 } }
  | exhausted {o : Outbound} (hphase : b.phase = .sending) (hpending : b.pending = some o)
      (hspent : b.config.retry.attempts ≤ o.failures + 1) :
      Moves b { b with
        phase := .waiting 0, pending := none,
        dropped := b.dropped ++ [({ o with failures := o.failures + 1 }, .retriesExhausted)] }
  | lost (hphase : b.phase = .connected) : Moves b { b with phase := .waiting 0 }
  | discard {o : Outbound} {rest : List Outbound} (hphase : b.phase = .localOnly)
      (hqueue : b.queue = o :: rest) :
      Moves b { b with queue := rest, dropped := b.dropped ++ [(o, .disconnected)] }
  | resume (hphase : b.phase = .localOnly) : Moves b { b with phase := .waiting 0 }

theorem moves_publish (b : Broker) (a : Announcement) : Moves b (b.publish a).1 := by
  unfold publish
  split
  · exact .aside id id Or.inl
  · split
    · exact .aside id id Or.inl
    · exact .accept _

theorem moves_hear (b : Broker) (text : String) : Moves b (b.hear text) := by
  unfold hear
  split
  · split <;> exact .aside id id Or.inl
  · exact .aside id id Or.inl

theorem moves_enter {attempt : Nat} (hphase : b.phase = .dialing attempt) : Moves b b.enter := by
  unfold enter
  split
  · exact .resend hphase ‹_›
  · exact .enter hphase ‹_›

theorem moves_settle {attempt : Nat} (hphase : b.phase = .dialing attempt)
    (outcome : Except String Unit) : Moves b (b.settle attempt outcome) := by
  cases outcome with
  | ok => exact moves_enter hphase
  | error reason =>
      rw [settle]
      split
      · exact .again hphase
      · rw [exhaust]
        split
        · exact .giveUp hphase ‹_›
        · exact .withdraw hphase

theorem moves_delivered {o : Outbound} (hphase : b.phase = .sending)
    (hpending : b.pending = some o) (success : Bool) : Moves b (b.delivered o success) := by
  cases success with
  | true => exact .sent hphase hpending
  | false =>
      rw [delivered, if_neg Bool.false_ne_true]
      dsimp only
      split
      · exact .exhausted hphase hpending ‹_›
      · exact .failed hphase hpending (Nat.lt_of_not_le ‹_›)

theorem moves_of_step? (h : b.step? t = some b') : Moves b b' := by
  cases t with
  | publish a => cases h; exact moves_publish b a
  | subscribe => cases h; exact .aside id id Or.inl
  | cancel => cases h; exact .aside id (fun _ => rfl) Or.inl
  | close => cases h; exact .aside (fun _ => rfl) id (fun _ => Or.inr (Or.inr rfl))
  | connect outcome =>
      simp only [step?] at h
      split at h
      · cases h
      · split at h <;> cases h <;> exact .aside id id Or.inl
  | start =>
      simp only [step?] at h
      split at h <;> cases h
      exact .start ‹_›
  | learn =>
      simp only [step?] at h
      split at h <;> cases h
      exact .aside id id fun _ => Or.inr (Or.inl ‹_›)
  | halt =>
      simp only [step?] at h
      split at h
      all_goals first
        | (split at h <;> cases h; exact .halt (by simp [isSending, *]) ‹_›)
        | cases h
  | dial jitter =>
      simp only [step?] at h
      split at h
      · split at h
        · cases h
        · rename_i hjitter
          split at h
          · split at h <;> cases h
            exact .dial ‹_›
          · cases h
            exact .overflow ‹_› (by simpa using hjitter) ‹_›
      · cases h
  | answer outcome =>
      simp only [step?] at h
      split at h <;> cases h
      exact moves_settle ‹_› outcome
  | take =>
      simp only [step?] at h
      split at h <;> cases h
      exact .take ‹_› ‹_›
  | deliver success =>
      simp only [step?] at h
      split at h <;> cases h
      exact moves_delivered ‹_› ‹_› success
  | arrive a =>
      simp only [step?] at h
      split at h
      · split at h <;> cases h
        · exact moves_hear b _
        · exact .aside id id Or.inl
        all_goals exact .lost ‹_›
      · cases h
  | discard =>
      simp only [step?] at h
      split at h <;> cases h
      exact .discard ‹_› ‹_›
  | resume =>
      simp only [step?] at h
      split at h <;> cases h
      exact .resume ‹_›

theorem run?_induction {motive : Broker → Prop}
    (hstep : ∀ {b b' : Broker}, motive b → Moves b b' → motive b') {turns : List BrokerTurn}
    (hrun : b.run? turns = some b') (hb : motive b) : motive b' := by
  induction turns generalizing b with
  | nil =>
      cases hrun
      exact hb
  | cons t rest ih =>
      rw [run?] at hrun
      split at hrun
      · exact ih hrun (hstep hb (moves_of_step? ‹_›))
      · cases hrun

theorem dropPending_of_none {r : DropReason} (h : b.pending = none) : b.dropPending r = b := by
  simp [dropPending, h]

theorem dropPending_of_some {o : Outbound} {r : DropReason} (h : b.pending = some o) :
    b.dropPending r = { b with pending := none, dropped := b.dropped ++ [(o, r)] } := by
  simp [dropPending, h]

theorem dropPending_config (b : Broker) (r : DropReason) :
    (b.dropPending r).config = b.config := by
  unfold dropPending
  split <;> rfl

theorem Moves.config (hm : Moves b b') : b'.config = b.config := by
  cases hm with
  | withdraw => exact dropPending_config b _
  | _ => rfl

/-! ### What the phases tell -/

/-- A change is pending only while there is no session, or while it is being sent. -/
def Poised (b : Broker) : Prop :=
  match b.phase with
  | .ready | .connected | .localOnly => b.pending = none
  | .sending => b.pending.isSome = true
  | _ => True

theorem dropPending_pending (b : Broker) (r : DropReason) : (b.dropPending r).pending = none := by
  unfold dropPending
  split
  · rfl
  · assumption

namespace Poised

theorem pending_of_connected (hp : b.Poised) (hphase : b.phase = .connected) :
    b.pending = none := by
  rwa [Poised, hphase] at hp

theorem step (hp : b.Poised) (hm : Moves b b') : b'.Poised := by
  cases hm with
  | aside | accept => exact hp
  | start hphase =>
      rw [Poised, hphase] at hp
      cases b.hasSession with
      | true => exact hp
      | false => trivial
  | enter _ hpending => exact hpending
  | withdraw => exact dropPending_pending b _
  | discard hphase =>
      rw [Poised, hphase] at hp
      rw [Poised, hphase]
      exact hp
  | resend | take | sent => rfl
  | _ => trivial

end Poised

/-- A driver is to stop only if the node has asked it to, or has closed it. -/
def Heeding (b : Broker) : Prop := b.stopping = true → b.cancelled = true ∨ b.closed = true

namespace Heeding

theorem step (hb : b.Heeding) (hm : Moves b b') : b'.Heeding := by
  cases hm with
  | aside hclosed hcancelled hstop =>
      -- What was asked stays asked.
      exact fun h => (hstop h).elim (fun h => (hb h).imp hcancelled hclosed) id
  | start => exact Or.inr
  | withdraw =>
      show (b.dropPending _).stopping = true →
        (b.dropPending _).cancelled = true ∨ (b.dropPending _).closed = true
      unfold dropPending
      split <;> exact hb
  | _ => exact hb

end Heeding

end Rendezvous.Sync.Broker
