import Rendezvous.Proofs.Retry.Backoff

/-!
# Rendezvous.Proofs.Retry.Attempts

What trying comes to. Attempts are made one after the other, and each of them is cleared first:
the delay before it fits a word, and the token is not seen to have fired. However many attempts
were cleared and failed, there are four ways to end at the next one, and from them everything
else about a run is read off.

A run keeps to its budget whatever happens, but for a delay that does not fit a word. A policy
has such a delay or it has not, and that alone decides whether a run can end in one.

* `RetryPolicy.SeenAt`, `RetryPolicy.Cleared`: what precedes an attempt;
* `RetryPolicy.Ending`: the four ways to end; `RetryPolicy.run_ends`;
* `RetryPolicy.Budgeted`: what is promised of a run;
* `RetryPolicy.run_budgeted`.
-/

namespace Rendezvous.RetryPolicy

variable {ε α : Type} {p : RetryPolicy} {jitter : Nat → Nat} {token : RetryToken}
  {call : Nat → Except ε α} {n : Nat}

/-! ### Before an attempt -/

/-- The token is seen to have fired before an attempt: while it is waited for, if there is a
delay, or right before it is made. -/
def SeenAt (p : RetryPolicy) (jitter : Nat → Nat) (token : RetryToken) (n : Nat) : Prop :=
  (∃ delay, p.delay? n (jitter n) = some delay ∧ delay ≠ 0 ∧ token.whileWaiting n = true) ∨
    token.before n = true

/-- An attempt may be made: there is a delay before it, and the token is not seen to have
fired. -/
def Cleared (p : RetryPolicy) (jitter : Nat → Nat) (token : RetryToken) (n : Nat) : Prop :=
  p.delay? n (jitter n) ≠ none ∧ ¬ p.SeenAt jitter token n

/-- All attempts before this one were made, and failed. -/
def FailedBefore (p : RetryPolicy) (jitter : Nat → Nat) (token : RetryToken)
    (call : Nat → Except ε α) (n : Nat) : Prop :=
  ∀ m < n, p.Cleared jitter token m ∧ ∃ e, call m = .error e

theorem FailedBefore.zero : p.FailedBefore jitter token call 0 :=
  fun _ hm => absurd hm (Nat.not_lt_zero _)

theorem FailedBefore.succ (hfailed : p.FailedBefore jitter token call n)
    (hclear : p.Cleared jitter token n) {e : ε} (hcall : call n = .error e) :
    p.FailedBefore jitter token call (n + 1) := by
  intro m hm
  rcases Nat.lt_succ_iff_lt_or_eq.1 hm with hlt | rfl
  · exact hfailed m hlt
  · exact ⟨hclear, e, hcall⟩

/-! ### Ways to end -/

/-- The four ways to end at an attempt. -/
inductive Ending (p : RetryPolicy) (jitter : Nat → Nat) (token : RetryToken)
    (call : Nat → Except ε α) (n : Nat) : RetryRun ε α → Prop where
  | overflow (hdelay : p.delay? n (jitter n) = none) :
      Ending p jitter token call n ⟨List.range n, .error .delayOverflow⟩
  | cancelled (hseen : p.SeenAt jitter token n) :
      Ending p jitter token call n ⟨List.range n, .error .cancelled⟩
  | succeeded {a : α} (hclear : p.Cleared jitter token n) (hcall : call n = .ok a) :
      Ending p jitter token call n ⟨List.range (n + 1), .ok a⟩
  | exhausted {e : ε} (hclear : p.Cleared jitter token n) (hcall : call n = .error e)
      (hlast : n + 1 = p.attempts) :
      Ending p jitter token call n ⟨List.range (n + 1), .error (.exhausted p.attempts e)⟩

/-- Puts attempts that were made earlier in front. -/
def after (made : Nat) (r : RetryRun ε α) : RetryRun ε α :=
  { r with calls := List.range made ++ r.calls }

theorem after_again (made : Nat) (r : RetryRun ε α) :
    after made { r with calls := made :: r.calls } = after (made + 1) r := by
  simp [after, List.range_succ]

/-- Where attempts begin that others have preceded, all of those failed. The budget counts the
attempts that are left. -/
theorem runFrom_ends {left attempt : Nat} (hbudget : attempt + left = p.attempts)
    (hleft : 0 < left) (hfailed : p.FailedBefore jitter token call attempt) :
    ∃ n < p.attempts, p.FailedBefore jitter token call n ∧
      p.Ending jitter token call n (after attempt (p.runFrom jitter token call left attempt)) := by
  induction left generalizing attempt with
  | zero => omega
  | succ left ih =>
      have hlt : attempt < p.attempts := by omega
      rw [runFrom]
      cases hdelay : p.delay? attempt (jitter attempt) with
      | none =>
          have hend : p.Ending jitter token call attempt _ := .overflow hdelay
          exact ⟨attempt, hlt, hfailed, by simpa [after] using hend⟩
      | some delay =>
          by_cases hwaiting : delay ≠ 0 ∧ token.whileWaiting attempt = true
          · have hend : p.Ending jitter token call attempt _ :=
              .cancelled (.inl ⟨delay, hdelay, hwaiting⟩)
            exact ⟨attempt, hlt, hfailed, by simpa [after, hwaiting] using hend⟩
          by_cases hbefore : token.before attempt = true
          · have hend : p.Ending jitter token call attempt _ := .cancelled (.inr hbefore)
            exact ⟨attempt, hlt, hfailed, by simpa [after, hbefore] using hend⟩
          have hclear : p.Cleared jitter token attempt := by
            refine ⟨by simp [hdelay], ?_⟩
            rintro (⟨_, hdelay', hseen⟩ | hseen)
            · obtain rfl := Option.some.inj (hdelay.symm.trans hdelay')
              exact hwaiting hseen
            · exact hbefore hseen
          simp only [if_neg hwaiting, if_neg hbefore]
          cases hcall : call attempt with
          | ok a =>
              have hend := Ending.succeeded hclear hcall
              exact ⟨attempt, hlt, hfailed, by simpa [after, List.range_succ] using hend⟩
          | error e =>
              dsimp only
              by_cases hlast : left = 0
              · have hend := Ending.exhausted hclear hcall (by omega)
                exact ⟨attempt, hlt, hfailed, by simpa [after, List.range_succ, hlast] using hend⟩
              · rw [if_neg hlast, after_again]
                exact ih (by omega) (by omega) (hfailed.succ hclear hcall)

/-- **Every run ends** at one of its attempts, before which all others failed. -/
theorem run_ends (p : RetryPolicy) (jitter : Nat → Nat) (token : RetryToken)
    (call : Nat → Except ε α) :
    ∃ n < p.attempts, p.FailedBefore jitter token call n ∧
      p.Ending jitter token call n (p.run jitter token call) :=
  runFrom_ends (Nat.zero_add _) p.attempts_pos .zero

/-! ### What is promised of a run -/

/-- What is promised of a run, whether or not it ends in a delay that does not fit. -/
structure Budgeted (p : RetryPolicy) (jitter : Nat → Nat) (token : RetryToken)
    (call : Nat → Except ε α) (r : RetryRun ε α) : Prop where
  /-- Attempts are numbered from 0 without a gap, and there are no more than the budget has. -/
  in_order : ∃ made ≤ p.attempts, r.calls = List.range made
  /-- No attempt is made after one that succeeded. -/
  stops : ∀ n ∈ r.calls, ∀ a, call n = .ok a → r.calls = List.range (n + 1)
  /-- A run succeeds with the first attempt that does. -/
  ok_iff : ∀ a, r.result = .ok a ↔
    ∃ n ∈ r.calls, call n = .ok a ∧ ∀ m < n, ∃ e, call m = .error e
  /-- A run is exhausted when the whole budget was spent on attempts that failed. -/
  exhausted_iff : ∀ count last, r.result = .error (.exhausted count last) ↔
    count = p.attempts ∧ r.calls = List.range count ∧ (∀ m < count, ∃ e, call m = .error e) ∧
      call (count - 1) = .error last
  /-- A run is cancelled only if the token is seen to have fired. -/
  cancelled_seen : r.result = .error .cancelled →
    ∃ n < p.attempts, r.calls = List.range n ∧ p.SeenAt jitter token n
  /-- No attempt is made once the token was seen to have fired. -/
  heeds : ∀ n ∈ r.calls, ∀ m ≤ n, ¬ p.SeenAt jitter token m
  /-- A delay that does not fit ends a run before the attempt that it was to precede. -/
  overflow_delay : r.result = .error .delayOverflow →
    ∃ n < p.attempts, r.calls = List.range n ∧ p.delay? n (jitter n) = none

/-! ### What a run comes to -/

section

variable {r : RetryRun ε α}

theorem FailedBefore.le_of_ok (hfailed : p.FailedBefore jitter token call n) {m : Nat} {a : α}
    (hcall : call m = .ok a) : n ≤ m := by
  refine Nat.le_of_not_lt fun hlt => ?_
  obtain ⟨-, e, he⟩ := hfailed m hlt
  rw [hcall] at he
  cases he

/-- The attempt at which a run ends is made if it is cleared. -/
theorem Ending.calls_eq (hend : p.Ending jitter token call n r) :
    r.calls = List.range n ∨ r.calls = List.range (n + 1) ∧ p.Cleared jitter token n := by
  cases hend with
  | overflow | cancelled => exact .inl rfl
  | succeeded hclear | exhausted hclear => exact .inr ⟨rfl, hclear⟩

theorem Ending.cleared_of_mem (hend : p.Ending jitter token call n r)
    (hfailed : p.FailedBefore jitter token call n) {m : Nat} (hm : m ∈ r.calls) :
    m ≤ n ∧ ∀ k ≤ m, p.Cleared jitter token k := by
  rcases hend.calls_eq with hcalls | ⟨hcalls, hclear⟩ <;> rw [hcalls, List.mem_range] at hm
  · exact ⟨Nat.le_of_lt hm, fun k hk => (hfailed k (Nat.lt_of_le_of_lt hk hm)).1⟩
  · refine ⟨Nat.le_of_lt_succ hm, fun k hk => ?_⟩
    rcases Nat.lt_succ_iff_lt_or_eq.1 (Nat.lt_of_le_of_lt hk hm) with hlt | rfl
    · exact (hfailed k hlt).1
    · exact hclear

/-- A run that made an attempt that succeeded ended there. -/
theorem Ending.of_ok (hend : p.Ending jitter token call n r)
    (hfailed : p.FailedBefore jitter token call n) {m : Nat} (hm : m ∈ r.calls) {a : α}
    (hcall : call m = .ok a) : r = ⟨List.range (m + 1), .ok a⟩ := by
  obtain rfl : m = n := Nat.le_antisymm (hend.cleared_of_mem hfailed hm).1 (hfailed.le_of_ok hcall)
  cases hend with
  | overflow | cancelled => simp at hm
  | succeeded _ hcall' =>
      rw [hcall] at hcall'
      cases hcall'
      rfl
  | exhausted _ hcall' =>
      rw [hcall] at hcall'
      cases hcall'

/-- A run that made all attempts of the budget, and in which the last failed, was exhausted. -/
theorem Ending.of_spent (hend : p.Ending jitter token call n r) (hn : n < p.attempts)
    (hcalls : r.calls = List.range p.attempts) {e : ε} (hcall : call (p.attempts - 1) = .error e) :
    r.result = .error (.exhausted p.attempts e) := by
  have hlength := congrArg List.length hcalls
  cases hend with
  | overflow | cancelled =>
      simp at hlength
      omega
  | succeeded _ hcall' =>
      obtain rfl : p.attempts - 1 = n := by simp at hlength; omega
      rw [hcall] at hcall'
      cases hcall'
  | exhausted _ hcall' hlast =>
      obtain rfl : p.attempts - 1 = n := by omega
      rw [hcall] at hcall'
      cases hcall'
      rfl

theorem Ending.budgeted (hend : p.Ending jitter token call n r) (hn : n < p.attempts)
    (hfailed : p.FailedBefore jitter token call n) : p.Budgeted jitter token call r where
  in_order := by
    rcases hend.calls_eq with hcalls | ⟨hcalls, -⟩
    · exact ⟨n, Nat.le_of_lt hn, hcalls⟩
    · exact ⟨n + 1, hn, hcalls⟩
  stops m hm a hcall := by rw [hend.of_ok hfailed hm hcall]
  ok_iff a := by
    constructor
    · intro hresult
      cases hend with
      | succeeded _ hcall =>
          cases hresult
          exact ⟨n, List.mem_range.2 (Nat.lt_succ_self n), hcall, fun m hm => (hfailed m hm).2⟩
      | _ => cases hresult
    · rintro ⟨m, hm, hcall, -⟩
      rw [hend.of_ok hfailed hm hcall]
  exhausted_iff count last := by
    constructor
    · intro hresult
      cases hend with
      | exhausted hclear hcall hlast =>
          cases hresult
          rw [← hlast]
          exact ⟨rfl, rfl, fun m hm => (hfailed.succ hclear hcall m hm).2, hcall⟩
      | _ => cases hresult
    · rintro ⟨rfl, hcalls, -, hcall⟩
      exact hend.of_spent hn hcalls hcall
  cancelled_seen hresult := by
    cases hend with
    | cancelled hseen => exact ⟨n, hn, rfl, hseen⟩
    | _ => cases hresult
  heeds m hm k hk := ((hend.cleared_of_mem hfailed hm).2 k hk).2
  overflow_delay hresult := by
    cases hend with
    | overflow hdelay => exact ⟨n, hn, rfl, hdelay⟩
    | _ => cases hresult

end

/-! ### A delay that does not fit -/

/-- A token that never fires. -/
def silent : RetryToken := ⟨fun _ => false, fun _ => false⟩

/-- An operation that always fails. -/
def failing : Nat → Except Unit Unit := fun _ => .error ()

/-- If all fail, a run comes to a delay that does not fit, unless it has come to one before. -/
theorem overflow_of_failing {attempt : Nat} (hlt : attempt < p.attempts)
    (hdelay : p.delay? attempt (jitter attempt) = none) :
    (p.run jitter silent failing).result = .error .delayOverflow := by
  obtain ⟨n, hn, hfailed, hend⟩ := p.run_ends jitter silent failing
  generalize p.run jitter silent failing = r at hend
  cases hend with
  | overflow => rfl
  | cancelled hseen => simp [SeenAt, silent] at hseen
  | succeeded _ hcall => cases hcall
  | exhausted hclear _ hlast =>
      rcases Nat.lt_or_eq_of_le (Nat.le_of_lt_succ (hlast ▸ hlt)) with hbefore | rfl
      · exact absurd hdelay (hfailed attempt hbefore).1.1
      · exact absurd hdelay hclear.1

/-- **Trying keeps to its budget.** Attempts are made in order and as many as the budget has at
most; the first that succeeds is the result and the last; a run is exhausted exactly if the whole
budget was spent on attempts that failed, with the failure of the last; it is cancelled only if
the token was seen to have fired, and after that no attempt is made. A run ends in none of these
ways, for some way of adding to the delays, if and only if the policy has a delay that does not
fit a word. -/
theorem run_budgeted (p : RetryPolicy) :
    (∀ (ε α : Type) (jitter : Nat → Nat) (token : RetryToken) (call : Nat → Except ε α),
      p.Budgeted jitter token call (p.run jitter token call)) ∧
    ((∀ (ε α : Type) (jitter : Nat → Nat) (token : RetryToken) (call : Nat → Except ε α),
        (∀ n, p.allows n (jitter n) = true) →
        (p.run jitter token call).result ≠ .error .delayOverflow) ↔
      ¬ p.Overflows) := by
  have hbudgeted (ε α : Type) (jitter : Nat → Nat) (token : RetryToken)
      (call : Nat → Except ε α) : p.Budgeted jitter token call (p.run jitter token call) := by
    obtain ⟨n, hn, hfailed, hend⟩ := p.run_ends jitter token call
    exact hend.budgeted hn hfailed
  refine ⟨hbudgeted, ?_, ?_⟩
  · rintro hends ⟨attempt, added, hlt, hallows, hdelay⟩
    -- Only the delay in question gets something added to it.
    let jitter (n : Nat) : Nat := if n = attempt then added else 0
    have hjitter : jitter attempt = added := if_pos rfl
    have hallowed (n : Nat) : p.allows n (jitter n) = true := by
      by_cases hn : n = attempt
      · simpa [jitter, hn] using hallows
      · simpa [jitter, hn] using p.allows_zero n
    exact hends Unit Unit jitter silent failing hallowed
      (overflow_of_failing hlt (hjitter.symm ▸ hdelay))
  · intro hfits ε α jitter token call hallowed hresult
    obtain ⟨n, hn, -, hdelay⟩ := (hbudgeted ε α jitter token call).overflow_delay hresult
    exact hfits ⟨n, jitter n, hn, hallowed n, hdelay⟩

/-- Two attempts, and a delay between them as long as a word can tell. -/
def farthest : RetryPolicy := ⟨2, Backoff.largest, Backoff.largest⟩

/-- An attempt within the budget would have succeeded and the token never fires, but the run
ends without a result. -/
theorem farthest_run_overflows :
    ∃ call : Nat → Except String String, call 0 = .error "a" ∧ call 1 = .ok "x" ∧
      farthest.attempts = 2 ∧ farthest.allows 1 1 = true ∧
      farthest.run (fun n => n) silent call = ⟨[0], .error .delayOverflow⟩ := by
  refine ⟨fun n => if n = 0 then .error "a" else .ok "x", rfl, rfl, rfl, by decide, ?_⟩
  rfl

end Rendezvous.RetryPolicy
