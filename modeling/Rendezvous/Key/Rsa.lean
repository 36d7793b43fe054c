import Rendezvous.Bytes.Der
import Rendezvous.Number.Modular

/-!
# Rendezvous.Key.Rsa

RSA private keys: their byte form, the checks that tie modulus, exponents and primes
together, the byte form of the public half, and the making of a key from random bytes.

* `RsaKey.ofBytes`: reads and checks a key;
* `RsaKey.toBytes`: writes it, with the remainders that speed up its use recomputed;
* `RsaKey.generate`: the two primes found from a stream of random numbers.
-/

namespace Rendezvous

/-- An RSA private key. -/
structure RsaKey where
  modulus : Nat
  publicExponent : Nat
  privateExponent : Nat
  primeP : Nat
  primeQ : Nat
deriving Repr, DecidableEq

namespace RsaKey

/-- The smallest accepted modulus, in bits. -/
def minBits : Nat := 2048

/-- The largest accepted modulus, in bits. -/
def maxBits : Nat := 8192

/-- How many bits a number has. -/
def bitLength (n : Nat) : Nat := if n = 0 then 0 else n.log2 + 1

/-- The length of the modulus in whole bytes, counted in bits. -/
def bits (k : RsaKey) : Nat := (bitLength k.modulus + 7) / 8 * 8

/-- Why bytes are not an acceptable key. -/
inductive Rejection where
  /-- Not the byte form of a key, or numbers that do not belong together. -/
  | malformed
  /-- A prime is one, and the check divides by its predecessor. -/
  | divisionByZero
  /-- The modulus is too short or too long. -/
  | unsupportedLength (bits : Nat)
deriving Repr, DecidableEq

/-- Takes nine numbers off the front of the content of a key. -/
def readNumbers (bs : Bytes) : Option (RsaKey × Bytes) := do
  let (version, bs) ← Der.unsignedElement bs
  let (n, bs) ← Der.unsignedElement bs
  let (e, bs) ← Der.unsignedElement bs
  let (d, bs) ← Der.unsignedElement bs
  let (p, bs) ← Der.unsignedElement bs
  let (q, bs) ← Der.unsignedElement bs
  let (_, bs) ← Der.unsignedElement bs
  let (_, bs) ← Der.unsignedElement bs
  let (_, bs) ← Der.unsignedElement bs
  if version = 0 then some (⟨n, e, d, p, q⟩, bs) else none

/-- Whether modulus and public exponent are fit for use: an odd modulus above an odd
exponent between 2 and 2^33 - 1. -/
def publicOk (k : RsaKey) : Bool :=
  k.publicExponent < k.modulus && k.modulus % 2 == 1 && k.publicExponent % 2 == 1
    && 2 ≤ k.publicExponent && k.publicExponent ≤ Nat.pow 2 33 - 1

/-- Whether the exponents undo each other modulo a prime, by way of its predecessor. -/
def checkPrime (k : RsaKey) (prime : Nat) : Except Rejection Unit :=
  if prime = 1 then .error .divisionByZero
  else if k.publicExponent * k.privateExponent % (prime - 1) = 1 then .ok ()
  else .error .malformed

/-- The checks of a whole key. -/
def check (k : RsaKey) : Except Rejection Unit := do
  if !k.publicOk then .error .malformed
  if k.primeP = 0 ∨ k.primeQ = 0 ∨ k.primeP * k.primeQ ≠ k.modulus then .error .malformed
  k.checkPrime k.primeP
  k.checkPrime k.primeQ
  if k.bits < minBits ∨ maxBits < k.bits then .error (.unsupportedLength k.bits)

/-- Reads and checks the byte form of a key. -/
def ofBytes (bs : Bytes) : Except Rejection RsaKey := do
  match Der.document? 0x30 bs >>= Der.inside readNumbers with
  | none => .error .malformed
  | some k =>
    k.check
    return k

/-- The byte form of a key, unless the second prime has no inverse modulo the first. -/
def toBytes (k : RsaKey) : Option Bytes := do
  let coefficient ← Modular.inverse? k.primeP k.primeQ
  return Der.encodeSequence <|
    [0, k.modulus, k.publicExponent, k.privateExponent, k.primeP, k.primeQ,
      k.privateExponent % (k.primeP - 1), k.privateExponent % (k.primeQ - 1),
      coefficient].map Der.encodeUnsigned

/-- The algorithm's identifier, with a null for its parameters. -/
def algorithm : Bytes :=
  Der.encodeSequence
    [Der.encode 0x06 [0x2A, 0x86, 0x48, 0x86, 0xF7, 0x0D, 0x01, 0x01, 0x01], [0x05, 0x00]]

/-- The byte form of a key inside the form that private keys of all algorithms share: version 0,
the algorithm's identifier, and the bytes. -/
def wrap (bs : Bytes) : Bytes :=
  Der.encodeSequence [Der.encodeUnsigned 0, algorithm, Der.encode 0x04 bs]

/-- The byte form of the public half: the algorithm's identifier, then modulus and public
exponent in a bit string. -/
def publicBytes (k : RsaKey) : Bytes :=
  let numbers := Der.encodeSequence
    [Der.encodeUnsigned k.modulus, Der.encodeUnsigned k.publicExponent]
  Der.encodeSequence [algorithm, Der.encodeBits numbers]

/-! ### Making a key -/

/-- Whether `n` passes the strong test of compositeness to the base `a`, given
`n - 1 = odd · 2 ^ twos`. -/
def passesBase (n odd : Nat) : (twos a : Nat) → Bool
  | twos, a =>
    let x := Modular.pow n a odd
    x == 1 || go x twos
where
  /-- Squares until the predecessor of `n` shows up. -/
  go (x : Nat) : Nat → Bool
    | 0 => false
    | r + 1 => x == n - 1 || go (x * x % n) r

/-- The odd part of a number, and how often two divides it. -/
def oddPart (n : Nat) : Nat × Nat :=
  if _h : n = 0 ∨ n % 2 = 1 then (n, 0)
  else
    let (odd, twos) := oddPart (n / 2)
    (odd, twos + 1)
termination_by n
decreasing_by omega

/-- The primes used to sieve candidates and as bases of the test. -/
def smallPrimes : List Nat :=
  (List.range 400).filter fun p => 2 ≤ p && (List.range p).all fun d => d < 2 || p % d != 0

/-- Whether a number above the small primes is prime, but for a negligible chance. -/
def isProbablePrime (n : Nat) : Bool :=
  smallPrimes.all (fun p => n % p != 0)
    && let (odd, twos) := oddPart (n - 1)
       (smallPrimes.take 20).all fun a => passesBase n odd twos a

/-- The first of at most `fuel` odd numbers from `n` on that is prime and whose predecessor
shares no divisor with the public exponent. -/
def nextPrime (e : Nat) : (fuel n : Nat) → Option Nat
  | 0, _ => none
  | fuel + 1, n =>
    if (n - 1) % e != 0 && isProbablePrime n then some n else nextPrime e fuel (n + 2)

/-- The public exponent of every key made here. -/
def standardExponent : Nat := 65537

/-- A key of exactly `bits` bits, the primes searched upwards from two random numbers of
half the length with their two highest bits set; nothing if the search or the fit fails. -/
def generate (bits seedP seedQ : Nat) : Option RsaKey := do
  let e := standardExponent
  let half := bits / 2
  let other := bits - half
  let start (b seed : Nat) : Nat := 3 * Nat.pow 2 (b - 2) + seed % Nat.pow 2 (b - 3) * 2 + 1
  let p ← nextPrime e 20000 (start half seedP)
  let q ← nextPrime e 20000 (start other seedQ)
  let n := p * q
  let d ← Modular.inverse? ((p - 1) * (q - 1)) e
  if p ≠ q ∧ bitLength n = bits then some ⟨n, e, d, p, q⟩ else none

end RsaKey

end Rendezvous
