import Rendezvous.Number.Modular
import Rendezvous.Bytes.Basic

/-!
# Rendezvous.Curve.Weierstrass

Curves `y² = x³ + a x + b` over a prime field, as far as deriving public keys needs them.
Points are in Jacobian coordinates, `x = X / Z²` and `y = Y / Z³`; `Z = 0` is the point at
infinity.

* `Curve.publicPoint`: the multiple of the base point that a private scalar names;
* `Affine.compressed`, `Affine.uncompressed`: the two byte forms of a point.
-/

namespace Rendezvous.Weierstrass

/-- A curve with a base point of prime order. -/
structure Curve where
  /-- The size of the field. -/
  p : Nat
  a : Nat
  /-- The order of the base point. -/
  order : Nat
  baseX : Nat
  baseY : Nat

/-- A point in Jacobian coordinates. -/
structure Point where
  x : Nat
  y : Nat
  z : Nat
deriving Repr, DecidableEq

/-- The point at infinity. -/
def Point.infinity : Point := ⟨1, 1, 0⟩

/-- Twice a point. -/
def Curve.double (c : Curve) (u : Point) : Point :=
  if u.z = 0 ∨ u.y = 0 then .infinity
  else
    let yy := u.y * u.y % c.p
    let s := 4 * u.x * yy % c.p
    let zz := u.z * u.z % c.p
    let m := (3 * u.x * u.x + c.a * (zz * zz % c.p)) % c.p
    let x := Modular.sub c.p (m * m % c.p) (2 * s)
    let y := Modular.sub c.p (m * Modular.sub c.p s x) (8 * (yy * yy % c.p))
    ⟨x, y, 2 * u.y * u.z % c.p⟩

/-- The sum of two points. -/
def Curve.add (c : Curve) (u v : Point) : Point :=
  if u.z = 0 then v
  else if v.z = 0 then u
  else
    let uz := u.z * u.z % c.p
    let vz := v.z * v.z % c.p
    let ux := u.x * vz % c.p
    let vx := v.x * uz % c.p
    let uy := u.y * (vz * v.z % c.p) % c.p
    let vy := v.y * (uz * u.z % c.p) % c.p
    if ux = vx then
      if uy = vy then c.double u else .infinity
    else
      let h := Modular.sub c.p vx ux
      let r := Modular.sub c.p vy uy
      let hh := h * h % c.p
      let hhh := hh * h % c.p
      let w := ux * hh % c.p
      let x := Modular.sub c.p (Modular.sub c.p (r * r % c.p) hhh) (2 * w)
      let y := Modular.sub c.p (r * Modular.sub c.p w x) (uy * hhh)
      ⟨x, y, u.z * v.z % c.p * h % c.p⟩

/-- The `n`-fold sum of a point. -/
def Curve.mul (c : Curve) (n : Nat) (u : Point) : Point :=
  if h : n = 0 then .infinity
  else
    let twice := c.double (c.mul (n / 2) u)
    if n % 2 = 0 then twice else c.add twice u
termination_by n
decreasing_by omega

/-- A point by its two coordinates, each below the size of the field. -/
structure Affine where
  x : Nat
  y : Nat
deriving Repr, DecidableEq

/-- The plain coordinates of a point. -/
def Curve.affine (c : Curve) (u : Point) : Affine :=
  let zi := Modular.inversePrime c.p u.z
  let zz := zi * zi % c.p
  ⟨u.x * zz % c.p, u.y * (zz * zi % c.p) % c.p⟩

/-- A number that may be a private key: neither zero nor beyond the order. -/
def Curve.isScalar (c : Curve) (k : Nat) : Bool := 0 < k && k < c.order

/-- The public point of a private scalar. -/
def Curve.publicPoint (c : Curve) (k : Nat) : Affine :=
  c.affine (c.mul k ⟨c.baseX, c.baseY, 1⟩)

/-- The 33-byte form: the parity of `y`, and `x`. -/
def Affine.compressed (u : Affine) : Bytes :=
  (if u.y % 2 = 0 then 2 else 3) :: Bytes.ofNat 32 u.x

/-- The 65-byte form: both coordinates. -/
def Affine.uncompressed (u : Affine) : Bytes :=
  4 :: Bytes.ofNat 32 u.x ++ Bytes.ofNat 32 u.y

/-- The curve secp256k1. -/
def secp256k1 : Curve where
  p := Nat.pow 2 256 - Nat.pow 2 32 - 977
  a := 0
  order := 0xFFFFFFFFFFFFFFFFFFFFFFFFFFFFFFFEBAAEDCE6AF48A03BBFD25E8CD0364141
  baseX := 0x79BE667EF9DCBBAC55A06295CE870B07029BFCDB2DCE28D959F2815B16F81798
  baseY := 0x483ADA7726A3C4655DA4FBFC0E1108A8FD17B448A68554199C47D08FFB10D4B8

/-- The curve P-256. -/
def p256 : Curve where
  p := Nat.pow 2 256 - Nat.pow 2 224 + Nat.pow 2 192 + Nat.pow 2 96 - 1
  a := Nat.pow 2 256 - Nat.pow 2 224 + Nat.pow 2 192 + Nat.pow 2 96 - 4
  order := 0xFFFFFFFF00000000FFFFFFFFFFFFFFFFBCE6FAADA7179E84F3B9CAC2FC632551
  baseX := 0x6B17D1F2E12C4247F8BCE6E563A440F277037D812DEB33A0F4A13945D898C296
  baseY := 0x4FE342E2FE1A7F9B8EE7EB4A7C0F9E162BCE33576B315ECECBB6406837BF51F5

end Rendezvous.Weierstrass
