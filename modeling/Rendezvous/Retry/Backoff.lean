import Rendezvous.Time.Duration

/-!
# Rendezvous.Retry.Backoff

How long to wait before another attempt: twice as long each time, up to a maximum, and up to
a tenth more so that many callers do not come back at once. All quantities are words of 64
bits; products stop at the largest word.

* `Backoff.capped`: the delay without what is added to it;
* `Backoff.allows`: what may be added;
* `Backoff.delay?`: the whole delay, unless the sum does not fit a word.
-/

namespace Rendezvous.Backoff

/-- The number of words. -/
def words : Nat := Nat.pow 2 64

/-- The largest word. -/
def largest : Nat := words - 1

/-- A product that stops at the largest word. -/
def saturatingMul (a b : Nat) : Nat := Nat.min largest (a * b)

/-- A power of two that stops at the largest word. Powers of which the exponent alone tells
that they are too large are not computed. -/
def saturatingPow2 (e : Nat) : Nat := if e < 64 then Nat.pow 2 e else largest

/-- The delay before an attempt, the first of which is number 0 and waits for nothing. -/
def capped (attempt base most : Nat) : Nat :=
  if attempt = 0 then 0
  else Nat.min (saturatingMul base (saturatingPow2 (attempt - 1))) most

/-- What may be added is less than this, unless it is zero. -/
def jitterRange (attempt base most : Nat) : Nat := capped attempt base most / 10

/-- Whether this much may be added. -/
def allows (attempt base most jitter : Nat) : Bool :=
  jitter < Nat.max 1 (jitterRange attempt base most)

/-- The delay with `jitter` added, if there is room for jitter. Without a value the sum would
not fit a word. -/
def delay? (attempt base most jitter : Nat) : Option Nat :=
  let added := if jitterRange attempt base most = 0 then 0 else jitter
  let sum := capped attempt base most + added
  if sum < words then some sum else none

end Rendezvous.Backoff
