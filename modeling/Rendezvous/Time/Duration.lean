/-!
# Rendezvous.Time.Duration

Lengths of time, exact to the nanosecond, and times of day in milliseconds of a 64-bit
clock.

* `Duration.describe`: the shortest exact text in the largest unit that fits;
* `Instant.add`: a time of day that stops at the end of the clock.
-/

namespace Rendezvous

/-- A length of time. -/
structure Duration where
  nanos : Nat
deriving Repr, DecidableEq, Inhabited

namespace Duration

/-- So many nanoseconds. -/
def ofNanos (n : Nat) : Duration := ⟨n⟩

/-- So many milliseconds. -/
def ofMillis (n : Nat) : Duration := ⟨n * 1000000⟩

/-- So many seconds. -/
def ofSecs (n : Nat) : Duration := ⟨n * 1000000000⟩

/-- The whole milliseconds in a length of time. -/
def millis (d : Duration) : Nat := d.nanos / 1000000

/-- The whole seconds in a length of time. -/
def secs (d : Duration) : Nat := d.nanos / 1000000000

/-- The shorter of two. -/
def min (a b : Duration) : Duration := if a.nanos ≤ b.nanos then a else b

@[simp] theorem nanos_min (a b : Duration) : (min a b).nanos = Nat.min a.nanos b.nanos := by
  unfold min
  simp only [Nat.min_def]
  split <;> rfl

/-- A number of `width` places behind the point, without the zeros at its end. -/
def fractionDigits (width n : Nat) : List Char :=
  let digits := (Nat.toDigits 10 n)
  let padded := List.replicate (width - digits.length) '0' ++ digits
  (padded.reverse.dropWhile (· == '0')).reverse

/-- A count of units of `10 ^ width` parts each, given the parts. -/
def inUnit (width parts : Nat) (unit : String) : String :=
  let whole := toString (parts / Nat.pow 10 width)
  match fractionDigits width (parts % Nat.pow 10 width) with
  | [] => whole ++ unit
  | digits => whole ++ "." ++ String.ofList digits ++ unit

/-- The text of a length of time, in the largest of s, ms, µs and ns of which it holds at
least one. -/
def describe (d : Duration) : String :=
  if 1000000000 ≤ d.nanos then inUnit 9 d.nanos "s"
  else if 1000000 ≤ d.nanos then inUnit 6 d.nanos "ms"
  else if 1000 ≤ d.nanos then inUnit 3 d.nanos "µs"
  else inUnit 0 d.nanos "ns"

end Duration

/-- A time of day: milliseconds on a clock of 64 bits. -/
abbrev Instant : Type := Nat

namespace Instant

/-- The last time the clock can show. -/
def last : Instant := Nat.pow 2 64 - 1

/-- The time so many milliseconds later, or the last one of the clock. -/
def add (t : Instant) (ms : Nat) : Instant := Nat.min last (t + ms)

theorem add_le_last (t : Instant) (ms : Nat) : t.add ms ≤ last := Nat.min_le_left _ _

end Instant

end Rendezvous
