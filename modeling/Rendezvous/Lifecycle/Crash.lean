/-!
# Rendezvous.Lifecycle.Crash

What must hold of the numbers that parts are made with. Where it does not, the program does
not report an error but stops.

* `Crash`: which demand was not met;
* `Stop`: an error or a crash;
* `Places.most`: how many free places can be counted.
-/

namespace Rendezvous

/-- A demand that was not met. -/
inductive Crash where
  /-- More places were asked for than can be counted. -/
  | tooManyPlaces (count : Nat)
  /-- A task was to be done again and again without a pause. -/
  | noInterval
  /-- A delay did not fit the clock. -/
  | delayOverflow
  /-- A text was to be cut within a character. -/
  | cutCharacter
deriving Repr, DecidableEq, Inhabited

/-- Why something came to nothing. -/
inductive Stop (ε : Type) where
  | error (e : ε)
  | crash (c : Crash)
deriving Repr, DecidableEq

/-- An error, if the other way to stop is not taken. -/
def orStop {ε α : Type} : Except ε α → Except (Stop ε) α
  | .ok a => .ok a
  | .error e => .error (.error e)

namespace Places

/-- The largest count of free places; three bits of a word serve other purposes. -/
def most : Nat := Nat.pow 2 61 - 1

/-- Demands that so many places can be counted. -/
def demand {ε : Type} (count : Nat) : Except (Stop ε) Unit :=
  if count ≤ most then .ok () else .error (.crash (.tooManyPlaces count))

end Places

end Rendezvous
