import Rendezvous.Number.Modular
import Rendezvous.Bytes.Basic

/-!
# Rendezvous.Curve.Edwards

The twisted Edwards curve `-x² + y² = 1 + d x² y²` over the field of `2^255 - 19`
elements, as far as deriving public keys needs it. Points are in extended coordinates
`(X : Y : Z : T)` with `x = X / Z`, `y = Y / Z` and `x y = T / Z`, for which one addition
formula serves all pairs of points.
-/

namespace Rendezvous.Edwards

/-- The size of the field. -/
def p : Nat := Nat.pow 2 255 - 19

/-- The curve's constant, `-121665 / 121666`. -/
def d : Nat := (p - 121665) * Modular.inversePrime p 121666 % p

/-- A point in extended coordinates. -/
structure Point where
  x : Nat
  y : Nat
  z : Nat
  t : Nat
deriving Repr, DecidableEq

/-- The neutral point. -/
def Point.zero : Point := ⟨0, 1, 1, 0⟩

/-- The sum of two points. -/
def Point.add (u v : Point) : Point :=
  let a := Modular.sub p u.y u.x * Modular.sub p v.y v.x % p
  let b := (u.y + u.x) * (v.y + v.x) % p
  let c := u.t * 2 % p * d % p * v.t % p
  let e := u.z * 2 * v.z % p
  let f := Modular.sub p b a
  let g := Modular.sub p e c
  let h := (e + c) % p
  let i := (b + a) % p
  ⟨f * g % p, h * i % p, g * h % p, f * i % p⟩

/-- The `n`-fold sum of a point. -/
def Point.mul (n : Nat) (u : Point) : Point :=
  if h : n = 0 then .zero
  else
    let twice := Point.mul (n / 2) u
    let even := twice.add twice
    if n % 2 = 0 then even else even.add u
termination_by n
decreasing_by omega

/-- The base point: `y = 4/5`, and of the two `x` the even one. -/
def base : Point :=
  let x := 15112221349535400772501151409588531511454012693041857206046113283949847762202
  let y := 4 * Modular.inversePrime p 5 % p
  ⟨x, y, 1, x * y % p⟩

/-- The 32-byte form of a point: `y`, with the lowest bit of `x` on top. -/
def Point.compress (u : Point) : Bytes :=
  let zi := Modular.inversePrime p u.z
  let x := u.x * zi % p
  let y := u.y * zi % p
  Bytes.ofNatLE 32 (y + (x % 2) * Nat.pow 2 255)

end Rendezvous.Edwards
