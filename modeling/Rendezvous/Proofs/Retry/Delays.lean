import Mathlib.Algebra.Ring.Nat
import Rendezvous.Proofs.Retry.Backoff

/-!
# Rendezvous.Proofs.Retry.Delays

How long delays are, told in numbers without bound. A power or a product that stops at the
largest word would have gone on beyond every maximum, so it makes no difference where it stops;
what is left of a word's bound is the last sum, in which something is added to the delay.

* `Backoff.intended`: the delay in numbers without bound;
* `Backoff.capped_eq_intended`: it is what is computed, before anything is added;
* `Backoff.intended_mono`, `Backoff.intended_of_reached`: it grows up to the maximum;
* `Backoff.delay?_eq_none_iff`, `Backoff.overflows_iff`: when the sum does not fit a word;
* `Backoff.delays_within_tenth`: the bounds of every delay.
-/

namespace Rendezvous.Backoff

/-- The delay before an attempt in numbers without bound: the base, doubled with each attempt
after the first that waits, up to a maximum. -/
def intended (attempt base most : Nat) : Nat :=
  if attempt = 0 then 0 else min most (base * 2 ^ (attempt - 1))

section

variable {attempt base most jitter : Nat}

/-! ### What stops at the largest word -/

/-- Up to a maximum that fits a word, it does not matter that a product stops. -/
theorem min_saturatingMul (hmost : most < words) (a b : Nat) :
    min most (saturatingMul a b) = min most (a * b) := by
  have hlargest : most ≤ largest := Nat.le_sub_one_of_lt hmost
  rw [saturatingMul]
  change min most (min largest (a * b)) = _
  rw [← Nat.min_assoc, Nat.min_eq_left hlargest]

/-- Nor does it matter that a power stops. -/
theorem min_mul_saturatingPow2 (hmost : most < words) (base e : Nat) :
    min most (base * saturatingPow2 e) = min most (base * 2 ^ e) := by
  by_cases he : e < 64
  · rw [saturatingPow2, if_pos he]
    rfl
  rw [saturatingPow2, if_neg he]
  cases base with
  | zero => rw [Nat.zero_mul, Nat.zero_mul]
  | succ base =>
      -- Either product is beyond the maximum.
      have hlargest : most ≤ (base + 1) * largest :=
        Nat.le_trans (Nat.le_sub_one_of_lt hmost) (Nat.le_mul_of_pos_left _ base.succ_pos)
      have hpow : most ≤ (base + 1) * 2 ^ e :=
        calc most ≤ 2 ^ 64 := Nat.le_of_lt hmost
          _ ≤ 2 ^ e := Nat.pow_le_pow_right (by decide) (Nat.not_lt.1 he)
          _ ≤ (base + 1) * 2 ^ e := Nat.le_mul_of_pos_left _ base.succ_pos
      rw [Nat.min_eq_left hlargest, Nat.min_eq_left hpow]

/-- **The delay before something is added to it is exact.** -/
theorem capped_eq_intended (hmost : most < words) (attempt base : Nat) :
    capped attempt base most = intended attempt base most := by
  unfold capped intended
  split
  · rfl
  · change min (saturatingMul base (saturatingPow2 (attempt - 1))) most = _
    rw [Nat.min_comm, min_saturatingMul hmost, min_mul_saturatingPow2 hmost]

/-! ### From attempt to attempt -/

theorem intended_le (attempt base most : Nat) : intended attempt base most ≤ most := by
  rw [intended]
  split
  · exact Nat.zero_le most
  · exact Nat.min_le_left _ _

theorem intended_mono (base most : Nat) {attempt later : Nat} (h : attempt ≤ later) :
    intended attempt base most ≤ intended later base most := by
  cases attempt with
  | zero => exact Nat.zero_le _
  | succ e =>
      have hlater : later ≠ 0 := by omega
      have hexponent : e + 1 - 1 ≤ later - 1 := Nat.sub_le_sub_right h 1
      have hproduct : base * 2 ^ (e + 1 - 1) ≤ base * 2 ^ (later - 1) :=
        Nat.mul_le_mul_left base (Nat.pow_le_pow_right (by decide) hexponent)
      rw [intended, intended, if_neg e.succ_ne_zero, if_neg hlater]
      exact Nat.le_min.2 ⟨Nat.min_le_left .., Nat.le_trans (Nat.min_le_right ..) hproduct⟩

/-- A delay that has reached the maximum stays there. -/
theorem intended_of_reached {later : Nat} (h : attempt ≤ later)
    (hreached : intended attempt base most = most) : intended later base most = most := by
  have hge := intended_mono base most h
  rw [hreached] at hge
  exact Nat.le_antisymm (intended_le ..) hge

/-! ### What is added -/

/-- What is added to a delay: nothing, where there is no room for it. -/
def added (attempt base most jitter : Nat) : Nat :=
  if jitterRange attempt base most = 0 then 0 else jitter

theorem delay?_eq (attempt base most jitter : Nat) :
    delay? attempt base most jitter =
      if capped attempt base most + added attempt base most jitter < words then
        some (capped attempt base most + added attempt base most jitter)
      else none := rfl

/-- There is no delay before the first attempt. -/
theorem delay?_first (base most jitter : Nat) : delay? 0 base most jitter = some 0 := by
  have hcapped : capped 0 base most = 0 := rfl
  have hrange : jitterRange 0 base most = 0 := by rw [jitterRange, hcapped]
  have hadded : added 0 base most jitter = 0 := if_pos hrange
  rw [delay?_eq, hcapped, hadded]
  exact if_pos (by decide)

/-- Less than a tenth is added, or nothing. -/
theorem added_cases (hallows : allows attempt base most jitter = true) :
    added attempt base most jitter < capped attempt base most / 10 ∨
      added attempt base most jitter = 0 := by
  have hlt : jitter < max 1 (jitterRange attempt base most) := of_decide_eq_true hallows
  rw [added]
  split
  · exact .inr rfl
  · rename_i hrange
    rw [Nat.max_eq_right (Nat.pos_of_ne_zero hrange)] at hlt
    exact .inl hlt

/-- A delay that fits a word is at least what is intended, and at most a tenth more. -/
theorem delay?_bounds (hmost : most < words) (hallows : allows attempt base most jitter = true)
    {d : Nat} (hdelay : delay? attempt base most jitter = some d) :
    intended attempt base most ≤ d ∧
      d ≤ intended attempt base most + intended attempt base most / 10 := by
  have hadded := added_cases hallows
  rw [delay?_eq] at hdelay
  rw [← capped_eq_intended hmost]
  split at hdelay
  · cases hdelay
    omega
  · cases hdelay

/-- A delay that does not fit a word would have been too long in numbers without bound. -/
theorem le_of_delay?_eq_none (hmost : most < words)
    (hdelay : delay? attempt base most jitter = none) :
    words ≤ intended attempt base most + jitter := by
  have hadded : added attempt base most jitter ≤ jitter := by
    rw [added]
    split
    · exact Nat.zero_le _
    · exact Nat.le_refl _
  rw [delay?_eq] at hdelay
  rw [← capped_eq_intended hmost]
  split at hdelay
  · cases hdelay
  · omega

/-- With nothing added, a delay is what is intended. -/
theorem delay?_zero (hmost : most < words) (attempt base : Nat) :
    delay? attempt base most 0 = some (intended attempt base most) := by
  have hnone : added attempt base most 0 = 0 := by
    rw [added, ite_self]
  have hfits : intended attempt base most + 0 < words :=
    Nat.lt_of_le_of_lt (intended_le attempt base most) hmost
  rw [delay?_eq, hnone, capped_eq_intended hmost, if_pos hfits, Nat.add_zero]

/-- Something that may be added makes a delay that does not fit a word if and only if what is
intended, with a whole tenth, is more than the number of words. -/
theorem overflows_iff (hmost : most < words) (attempt base : Nat) :
    (∃ jitter, allows attempt base most jitter = true ∧
        delay? attempt base most jitter = none) ↔
      words < intended attempt base most + intended attempt base most / 10 := by
  have hle : intended attempt base most ≤ most := intended_le attempt base most
  rw [← capped_eq_intended hmost] at hle ⊢
  constructor
  · rintro ⟨jitter, hallows, hnone⟩
    have hadded := added_cases hallows
    rw [delay?_eq] at hnone
    split at hnone
    · cases hnone
    · omega
  · intro hlarge
    have hrange : jitterRange attempt base most ≠ 0 := by
      intro hzero
      rw [jitterRange] at hzero
      omega
    -- The most that may be added is one less than a tenth.
    refine ⟨jitterRange attempt base most - 1, decide_eq_true ?_, ?_⟩
    · exact Nat.lt_of_lt_of_le (Nat.sub_one_lt hrange) (Nat.le_max_right ..)
    · rw [delay?_eq, added, if_neg hrange, jitterRange, if_neg (by omega)]

end

/-- **Delays keep to what is intended, and fail only beyond the last word.** There is no delay
before the first attempt. The delay before any other, if the sum fits a word, is at least the
doubled base cut to the maximum, all in numbers without bound, and at most a tenth more; the sum
fits a word, whatever is added, if and only if that and a whole tenth are no more than the number
of words. With nothing added there is always a delay; it grows from attempt to attempt, and stays
at the maximum once it has come there. -/
theorem delays_within_tenth {most : Nat} (hmost : most < words) (base : Nat) :
    (∀ jitter, allows 0 base most jitter = true → delay? 0 base most jitter = some 0) ∧
    (∀ attempt jitter, allows attempt base most jitter = true →
      match delay? attempt base most jitter with
      | some d => intended attempt base most ≤ d ∧
          d ≤ intended attempt base most + intended attempt base most / 10
      | none => words ≤ intended attempt base most + jitter) ∧
    (∀ attempt,
      (∀ jitter, allows attempt base most jitter = true →
        (delay? attempt base most jitter).isSome = true) ↔
      intended attempt base most + intended attempt base most / 10 ≤ words) ∧
    (∀ attempt, delay? attempt base most 0 = some (intended attempt base most)) ∧
    (∀ attempt later, attempt ≤ later →
      intended attempt base most ≤ intended later base most ∧
      (intended attempt base most = most → intended later base most = most)) := by
  refine ⟨fun jitter hallows => ?_, fun attempt jitter hallows => ?_, fun attempt => ?_,
    fun attempt => delay?_zero hmost attempt base,
    fun attempt later h => ⟨intended_mono base most h, intended_of_reached h⟩⟩
  · exact delay?_first base most jitter
  · cases hdelay : delay? attempt base most jitter with
    | some d => exact delay?_bounds hmost hallows hdelay
    | none => exact le_of_delay?_eq_none hmost hdelay
  · have hoverflows := overflows_iff hmost attempt base
    constructor
    · intro hfits
      refine Nat.not_lt.1 fun hlarge => ?_
      obtain ⟨jitter, hallows, hnone⟩ := hoverflows.2 hlarge
      have hsome := hfits jitter hallows
      rw [hnone] at hsome
      cases hsome
    · intro hsmall jitter hallows
      refine Option.isSome_iff_ne_none.2 fun hnone => ?_
      exact Nat.not_lt.2 hsmall (hoverflows.1 ⟨jitter, hallows, hnone⟩)

/-- The largest base, cut to a maximum of five seconds before the hundredth attempt. -/
theorem delays_within_tenth_reached :
    5000 < words ∧
    ∃ d, delay? 100 largest 5000 499 = some d ∧ 5000 ≤ d ∧ d ≤ 5500 := by
  have hmost : 5000 < words := by decide
  obtain ⟨-, hbounds, hfits, -, -⟩ := delays_within_tenth hmost largest
  have hallows : allows 100 largest 5000 499 = true := by decide
  have hintended : intended 100 largest 5000 = 5000 := by decide
  have hsome := (hfits 100).2 (by rw [hintended]; decide) 499 hallows
  obtain ⟨d, hd⟩ := Option.isSome_iff_exists.1 hsome
  have hwithin := hbounds 100 499 hallows
  rw [hd, hintended] at hwithin
  exact ⟨hmost, d, hd, hwithin⟩

/-- A delay as long as a word can tell has no room for the least that may be added to it. -/
theorem farthest_delay_overflows :
    allows 1 largest largest 1 = true ∧ delay? 1 largest largest 1 = none ∧
      intended 1 largest largest = largest := by
  decide

end Rendezvous.Backoff
