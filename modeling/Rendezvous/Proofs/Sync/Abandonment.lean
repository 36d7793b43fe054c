import Rendezvous.Proofs.Sync.Endurance

/-!
# Rendezvous.Proofs.Sync.Abandonment

What a driver for a broker leaves behind. While it goes on, every change that it has accepted has
its place; a driver that has ended leaves what is pending or queued where it is. It should come
to that only when the node wants the driver to end, or cannot do without the broker. Once more it
is the delays that decide.

* `Broker.Abandons`: there is something that a driver has left behind;
* `Broker.breaks_with_change`: one way to leave something behind;
* `Broker.deliveries_accounted`.
-/

namespace Rendezvous.Sync.Broker

variable {c : BrokerConfig}

/-- Whether a driver has ended, in whatever way. -/
def hasEnded (b : Broker) : Bool :=
  match b.phase with
  | .finished _ | .crashed _ => true
  | _ => false

/-- A driver has ended, and there are changes that it has neither sent nor dropped. -/
def Abandons (b : Broker) : Prop :=
  b.hasEnded = true ∧ (b.pending.isSome = true ∨ b.queue ≠ [])

/-- A driver that waits for its first attempt, with one change in its queue. -/
def waitingWith (c : BrokerConfig) (url : SocketUrl) (a : Announcement) : Broker :=
  { fresh c url with
    phase := .waiting 0, queue := [⟨0, a.toEvent c.origin, 0⟩], accepted := [a.toEvent c.origin] }

theorem run?_waitingWith (c : BrokerConfig) (url : SocketUrl) (a : Announcement) :
    (fresh c url).run? [.publish a, .start] = some (waitingWith c url a) := by
  have hplace : ¬ c.places ≤ 0 := Nat.not_le.2 (Nat.le_max_right c.queueCapacity 1)
  simp [run?, step?, publish, isOver, fresh, waitingWith, hplace]

/-- A driver whose policy has a delay that does not fit can break with a change in its queue. -/
theorem breaks_with_change (c : BrokerConfig) (url : SocketUrl) (a : Announcement)
    (ho : c.retry.Overflows) :
    ∃ turns, (fresh c url).run? turns =
      some { waitingWith c url a with phase := .crashed .delayOverflow } := by
  obtain ⟨later, hlater⟩ := breaks_of_overflows (b := waitingWith c url a) rfl rfl ho
  refine ⟨[.publish a, .start] ++ later, ?_⟩
  rw [run?_append, run?_waitingWith]
  exact hlater

/-- **Every change is accounted for, and left behind for a reason unless a delay does not fit.**
Take any turns of a driver, its broker and its node. What has become of the changes is as told by
`Accounted`. And the runs in which changes are left behind all end as they should, if and only if
the policy of the driver has no delay that does not fit a word. -/
theorem deliveries_accounted {b₀ : Broker} (hmake : make c = .ok b₀) :
    (∀ turns b, b₀.run? turns = some b → b.Accounted c.retry.attempts) ∧
    ((∀ turns b, b₀.run? turns = some b → b.Abandons → b.EndsDutifully turns) ↔
      ¬ c.retry.Overflows) := by
  obtain ⟨url, rfl⟩ := eq_fresh_of_make hmake
  refine ⟨fun turns b hrun => ((Reached.fresh c url).run hrun).accounted, fun hends ho => ?_,
    fun ho turns b hrun _ => ((Enduring.fresh c url).run hrun).endsDutifully ho⟩
  obtain ⟨turns, hrun⟩ := breaks_with_change c url (.upsert ⟨"", default, [], 0, 0⟩) ho
  exact hends turns _ hrun ⟨rfl, .inr (List.cons_ne_nil _ _)⟩

/-- Of five changes one finds no place, one is sent in no session, one is sent in the next, one is
dropped without a session and one is left when the node asks the driver to stop. -/
def fiveChanges : List BrokerTurn :=
  let tell : BrokerTurn := .publish (.upsert ⟨"chat", default, [], 100, 1⟩)
  [tell, tell, tell, .start, .dial 0, .answer (.ok ()), .take, .deliver false, .dial 0,
    .answer (.ok ()), .deliver false, .dial 0, .answer (.ok ()), .take, .deliver true, tell,
    .arrive .ended, .dial 0, .answer (.error "refused"), .dial 0, .answer (.error "refused"),
    .discard, .resume, tell, .cancel, .learn, .halt]

theorem deliveries_accounted_five :
    ∃ b₀ b, make twice = .ok b₀ ∧ b₀.run? fiveChanges = some b ∧
      b.phase = .finished (.ok ()) ∧ b.refused = 1 ∧
      b.sent.map (·.number) = [1] ∧
      b.dropped.map (fun d => (d.1.number, d.2)) = [(0, .retriesExhausted), (2, .disconnected)] ∧
      b.queue.map (·.number) = [3] ∧ b.Accounted 2 ∧ b.EndsDutifully fiveChanges := by
  have hmake : make twice = .ok (fresh twice brokerUrl) :=
    make_of_server (by decide +kernel) (by decide)
  have hfits : twice.retry.Fits := show 2 + 2 / 10 < Backoff.words by decide
  have hrun : (fresh twice brokerUrl).run? fiveChanges = some _ := rfl
  obtain ⟨haccounted, hends⟩ := deliveries_accounted hmake
  exact ⟨_, _, hmake, hrun, rfl, rfl, rfl, rfl, rfl, haccounted _ _ hrun,
    hends.2 hfits.not_overflows _ _ hrun ⟨rfl, .inr (List.cons_ne_nil _ _)⟩⟩

/-- A driver that the node can do without, and that was neither asked to stop nor closed, leaves
behind the one change that it has accepted, after one attempt has failed. -/
theorem unasked_driver_abandons :
    ∃ b₀ b, make farOff = .ok b₀ ∧ farOff.mandatory = false ∧
      b₀.run? [.publish (.upsert ⟨"chat", default, [], 100, 1⟩), .start, .dial 0,
        .answer (.error "refused"), .dial 1] = some b ∧
      b.Abandons ∧ b.queue.length = 1 ∧ b.cancelled = false ∧ b.closed = false := by
  have hmake : make farOff = .ok (fresh farOff brokerUrl) :=
    make_of_server (by decide +kernel) (by decide)
  exact ⟨_, _, hmake, rfl, rfl, ⟨rfl, .inr (List.cons_ne_nil _ _)⟩, rfl, rfl, rfl⟩

end Rendezvous.Sync.Broker
