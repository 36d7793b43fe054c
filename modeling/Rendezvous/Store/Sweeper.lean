import Rendezvous.Store.Basic

/-!
# Rendezvous.Store.Sweeper

The sweeper drops expired records at regular intervals, the first time after one interval.
A closed store ends it.
-/

namespace Rendezvous.Sweeper

/-- What a sweep came to: the store, and whether it was found closed. -/
structure Sweep where
  store : Store
  ended : Bool

/-- Sweeps `ticks` times at one time of day, or until the store is found closed. -/
def sweeps (s : Store) (now : Instant) : (ticks : Nat) → Sweep
  | 0 => ⟨s, false⟩
  | ticks + 1 =>
    match s.reclaim now with
    | (s, .ok _) => sweeps s now ticks
    | (s, .error .closed) => ⟨s, true⟩

/-- How often a sweeper sweeps within a time. Without an interval there is no sweeper. -/
def ticks? (interval lasting : Nat) : Option Nat :=
  if interval = 0 then none else some (lasting / interval)

end Rendezvous.Sweeper
