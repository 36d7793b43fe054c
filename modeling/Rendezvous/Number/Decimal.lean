/-!
# Rendezvous.Number.Decimal

Whole numbers in decimal, read strictly: digits only, perhaps after a plus sign, and within
a bound. Of two faults the one further left counts, so a number that is already too large is
not blamed for what follows.
-/

namespace Rendezvous.Decimal

/-- Why a text is no number within a bound. -/
inductive ParseError where
  | empty
  | invalidDigit
  | tooLarge
deriving Repr, DecidableEq

/-- The wording of an error. -/
def ParseError.message : ParseError → String
  | .empty => "cannot parse integer from empty string"
  | .invalidDigit => "invalid digit found in string"
  | .tooLarge => "number too large to fit in target type"

/-- The value of a digit. -/
def digit? (c : Char) : Option Nat :=
  if '0' ≤ c ∧ c ≤ '9' then some (c.toNat - '0'.toNat) else none

/-- Reads digits on top of what has been read, while the number stays below the bound. -/
def digitsBelow (bound : Nat) : (acc : Nat) → List Char → Except ParseError Nat
  | acc, [] => .ok acc
  | acc, c :: rest =>
    match digit? c with
    | none => .error .invalidDigit
    | some d =>
      let next := acc * 10 + d
      if next < bound then digitsBelow bound next rest else .error .tooLarge

/-- Reads a number below a bound. -/
def parseBelow (bound : Nat) (s : String) : Except ParseError Nat :=
  match s.toList with
  | [] => .error .empty
  | ['+'] | ['-'] => .error .invalidDigit
  | '+' :: rest => digitsBelow bound 0 rest
  | cs => digitsBelow bound 0 cs

end Rendezvous.Decimal
