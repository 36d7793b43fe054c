import Rendezvous.Retry.Policy

/-!
# Rendezvous.Proofs.Retry.Backoff

Which delays fit a word: all of a policy whose longest delay does, with a tenth more.

* `Backoff.capped_le`: the delay before something is added to it;
* `RetryPolicy.Fits`, `RetryPolicy.Fits.isSome_delay?`;
* `RetryPolicy.Overflows`: whether a policy has a delay that does not fit a word.
-/

namespace Rendezvous

namespace Backoff

theorem capped_le (attempt base most : Nat) : capped attempt base most ≤ most := by
  rw [capped]
  split
  · exact Nat.zero_le most
  · exact Nat.min_le_right _ _

/-- What may be added is at most a tenth. -/
theorem added_le {attempt base most jitter : Nat} (h : allows attempt base most jitter = true) :
    jitter ≤ most / 10 := by
  have hlt : jitter < max 1 (jitterRange attempt base most) := of_decide_eq_true h
  have hrange : jitterRange attempt base most ≤ most / 10 :=
    Nat.div_le_div_right (capped_le attempt base most)
  omega

end Backoff

/-- The longest delay of a policy fits a word with a tenth more. -/
def RetryPolicy.Fits (p : RetryPolicy) : Prop := p.maxDelay + p.maxDelay / 10 < Backoff.words

/-- Then every delay does. -/
theorem RetryPolicy.Fits.isSome_delay? {p : RetryPolicy} (hp : p.Fits) {attempt jitter : Nat}
    (h : p.allows attempt jitter = true) : (p.delay? attempt jitter).isSome = true := by
  have hcapped := Backoff.capped_le attempt p.baseDelay p.maxDelay
  have hadded : jitter ≤ p.maxDelay / 10 := Backoff.added_le h
  have hsum : Backoff.capped attempt p.baseDelay p.maxDelay +
      (if Backoff.jitterRange attempt p.baseDelay p.maxDelay = 0 then 0 else jitter)
      < Backoff.words := by
    refine Nat.lt_of_le_of_lt (Nat.add_le_add hcapped ?_) hp
    split
    · exact Nat.zero_le _
    · exact hadded
  simp only [delay?, Backoff.delay?, if_pos hsum, Option.isSome_some]

/-- A delay before one of the attempts does not fit a word. -/
def RetryPolicy.Overflows (p : RetryPolicy) : Prop :=
  ∃ attempt jitter, attempt < p.attempts ∧ p.allows attempt jitter = true ∧
    p.delay? attempt jitter = none

theorem RetryPolicy.Fits.not_overflows {p : RetryPolicy} (hp : p.Fits) : ¬ p.Overflows := by
  rintro ⟨attempt, jitter, -, hallows, hnone⟩
  have hsome := hp.isSome_delay? hallows
  rw [hnone] at hsome
  cases hsome

/-- There is always the choice to add nothing. -/
theorem RetryPolicy.allows_zero (p : RetryPolicy) (attempt : Nat) :
    p.allows attempt 0 = true :=
  decide_eq_true (Nat.lt_of_lt_of_le Nat.zero_lt_one (Nat.le_max_left ..))

/-- There is always an attempt. -/
theorem RetryPolicy.attempts_pos (p : RetryPolicy) : 0 < p.attempts :=
  Nat.lt_of_lt_of_le Nat.zero_lt_one (Nat.le_max_left ..)

end Rendezvous
