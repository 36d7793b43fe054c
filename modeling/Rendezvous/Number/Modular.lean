/-!
# Rendezvous.Number.Modular

Arithmetic with remainders: powers by repeated squaring, and inverses, for a prime
modulus by Fermat's theorem and for any modulus by Euclid's algorithm.
-/

namespace Rendezvous.Modular

/-- The remainder of `b ^ e` by `m`. -/
def pow (m b e : Nat) : Nat :=
  if h : e = 0 then 1 % m
  else
    let half := pow m (b * b % m) (e / 2)
    if e % 2 = 0 then half else half * b % m
termination_by e
decreasing_by omega

/-- The difference of two remainders. -/
def sub (m a b : Nat) : Nat := (a + (m - b % m)) % m

/-- The inverse of `a` modulo a prime; zero has itself. -/
def inversePrime (p a : Nat) : Nat := pow p (a % p) (p - 2)

/-- Euclid's algorithm, which also expresses the divisor it finds as a multiple of the
second starting number: given `r = s · b` and `r' = s' · b` modulo `a`. -/
def euclid (r r' : Nat) (s s' : Int) : Nat × Int :=
  if _h : r' = 0 then (r, s)
  else euclid r' (r % r') s' (s - (r / r' : Nat) * s')
termination_by r'
decreasing_by exact Nat.mod_lt _ (Nat.pos_of_ne_zero _h)

/-- The inverse of `a` modulo `m`, if they share no divisor. -/
def inverse? (m a : Nat) : Option Nat :=
  let (g, s) := euclid m (a % m) 0 1
  if g = 1 then some (s.emod m).toNat else none

end Rendezvous.Modular
