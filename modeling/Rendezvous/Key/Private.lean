import Rendezvous.Bytes.Base64
import Rendezvous.Curve.Edwards
import Rendezvous.Curve.Weierstrass
import Rendezvous.Digest.Sha2
import Rendezvous.Key.Envelope
import Rendezvous.Key.Rsa
import Rendezvous.Text.Blank

/-!
# Rendezvous.Key.Private

Private keys of the four kinds, with their byte forms and those of their public halves.

* `PrivateKey.ofBytes`: reads and checks the byte form of a kind;
* `PrivateKey.toBytes`, `PrivateKey.publicBytes`: the two byte forms;
* `PrivateKey.parse`, `PrivateKey.exportText`: the base-64 text of the envelope around it;
* `PrivateKey.generate`: a fresh key from random bytes.
-/

namespace Rendezvous

/-- Why key material is refused, or none can be made. -/
inductive KeyError where
  /-- The name of no kind. -/
  | unknownKind (name : String)
  /-- A length that no RSA key may have. -/
  | rsaLengthOutOfRange (bits : Nat)
  /-- An RSA key whose second prime has no inverse modulo the first. -/
  | noCoefficient
  /-- An RSA key whose private exponent is too long to be written. -/
  | tooLong
  /-- A search for random primes that came to nothing. -/
  | noPrimes
  /-- The text is not base 64. -/
  | notBase64
  /-- The bytes are no envelope. -/
  | envelope (cause : Envelope.DecodeError)
  /-- An Ed25519 key of a wrong length. -/
  | ed25519Length (length : Nat)
  /-- Bytes that are no key of the kind that their envelope names. -/
  | rejected (kind : KeyKind)
  /-- An RSA key that is too short or too long. -/
  | rsaUnsupportedLength (bits : Nat)
  /-- An RSA key with a prime of one, on which the check divides by zero. -/
  | divisionByZero
deriving Repr, DecidableEq

/-- The wording of a refusal. Where it depends on the fault inside the bytes of a key, it
ends with the kind. -/
def KeyError.message : KeyError → String
  | .unknownKind name =>
    "unknown key type '" ++ name ++ "': only Ed25519, ECDSA, Secp256k1, RSA supported"
  | .rsaLengthOutOfRange bits =>
    "key generation failed: RSA key length must be between " ++ toString RsaKey.minBits
      ++ " and " ++ toString RsaKey.maxBits ++ " bits, got " ++ toString bits
  | .noCoefficient =>
    "key generation failed: rsa: PKCS#8 cryptographic key data malformed"
  | .tooLong => "key generation failed: rsa: PKCS#8 ASN.1 error: integer overflow"
  | .noPrimes => "key generation failed: rsa: no primes found"
  | .notBase64 => "key is not valid base64"
  | .envelope .malformed => "unmarshal private key: private key envelope"
  | .envelope (.unknownTag tag) =>
    "unmarshal private key: unknown key type tag " ++ toString tag
  | .envelope .noData => "unmarshal private key: empty key data"
  | .ed25519Length n =>
    "unmarshal private key: ed25519 key must be 64 bytes, got " ++ toString n
  | .rejected kind => "unmarshal private key: " ++ kind.name.toLower
  | .rsaUnsupportedLength bits =>
    "unmarshal private key: rsa: unsupported key length " ++ toString bits
  | .divisionByZero => "attempt to divide by zero"

/-- A private key. -/
inductive PrivateKey where
  /-- The 32 bytes that the scalar is hashed from. -/
  | ed25519 (seed : Bytes)
  | ecdsa (scalar : Nat)
  | secp256k1 (scalar : Nat)
  | rsa (key : RsaKey)
deriving Repr, DecidableEq

namespace PrivateKey

/-- The kind of a key. -/
def kind : PrivateKey → KeyKind
  | .ed25519 _ => .ed25519
  | .ecdsa _ => .ecdsa
  | .secp256k1 _ => .secp256k1
  | .rsa _ => .rsa

/-! ### Ed25519 -/

/-- The public half of a seed: the multiple of the base point by the lower half of the
seed's digest, with its highest and three lowest bits cleared and the next highest set. -/
def ed25519Public (seed : Bytes) : Bytes :=
  let low := Bytes.toNatLE ((sha512 seed).take 32)
  let scalar := Nat.pow 2 254 + low % Nat.pow 2 254 / 8 * 8
  (Edwards.base.mul scalar).compress

/-- Reads a seed and its public half; a second copy of the public half may follow. -/
def ed25519OfBytes (bs : Bytes) : Except KeyError PrivateKey :=
  let bs := if bs.length = 96 then bs.take 64 else bs
  if bs.length ≠ 64 then .error (.ed25519Length bs.length)
  else if ed25519Public (bs.take 32) = bs.drop 32 then .ok (.ed25519 (bs.take 32))
  else .error (.rejected .ed25519)

/-! ### Scalars -/

/-- The private scalar that 24 to 32 bytes spell. -/
def scalar? (curve : Weierstrass.Curve) (bs : Bytes) : Option Nat :=
  let n := Bytes.toNat bs
  if 24 ≤ bs.length ∧ bs.length ≤ 32 ∧ curve.isScalar n then some n else none

/-- The object identifier of the algorithm "public key on a curve". -/
def ecPublicKeyId : Bytes := [0x2A, 0x86, 0x48, 0xCE, 0x3D, 0x02, 0x01]

/-- The object identifier of the curve P-256. -/
def p256Id : Bytes := [0x2A, 0x86, 0x48, 0xCE, 0x3D, 0x03, 0x01, 0x07]

/-- Whether the bytes of a point are one of the two forms of the point given. -/
def isPointForm (point : Weierstrass.Affine) (bs : Bytes) : Bool :=
  bs = point.compressed || bs = point.uncompressed

/-- Whether the content of a field names a curve; which one does not count. -/
def namesCurve (content : Bytes) : Bool :=
  (Der.inside (Der.element 0x06) content).any Der.isObjectId

/-- Whether the content of a field is the public point of a scalar. -/
def holdsPoint (scalar : Nat) (content : Bytes) : Bool :=
  (Der.inside (Der.element 0x03) content >>= Der.wholeBits?).any
    (isPointForm (Weierstrass.p256.publicPoint scalar))

/-- Takes the fields of an elliptic key off the front: version 1, the scalar, the curve if
given, and the public point if given, which must belong to the scalar. -/
def readEcdsa (bs : Bytes) : Option (Nat × Bytes) := do
  let (version, bs) ← Der.element 0x02 bs
  let (secret, bs) ← Der.element 0x04 bs
  let (parameters, bs) ← Der.contextField? (bs.length + 1) 0 bs
  let (given, bs) ← Der.contextField? (bs.length + 1) 1 bs
  let scalar ← scalar? Weierstrass.p256 secret
  if version = [1] ∧ parameters.all namesCurve ∧ given.all (holdsPoint scalar) then
    some (scalar, bs)
  else none

/-- Reads the byte form of an elliptic key. -/
def ecdsaOfBytes (bs : Bytes) : Except KeyError PrivateKey :=
  match Der.document? 0x30 bs >>= Der.inside readEcdsa with
  | some n => .ok (.ecdsa n)
  | none => .error (.rejected .ecdsa)

/-! ### All kinds -/

/-- Reads and checks the byte form of a key of the given kind. -/
def ofBytes (kind : KeyKind) (bs : Bytes) : Except KeyError PrivateKey :=
  match kind with
  | .ed25519 => ed25519OfBytes bs
  | .ecdsa => ecdsaOfBytes bs
  | .secp256k1 =>
    match scalar? Weierstrass.secp256k1 bs with
    | some n => .ok (.secp256k1 n)
    | none => .error (.rejected .secp256k1)
  | .rsa =>
    match RsaKey.ofBytes bs with
    | .ok k => .ok (.rsa k)
    | .error .malformed => .error (.rejected .rsa)
    | .error .divisionByZero => .error .divisionByZero
    | .error (.unsupportedLength bits) => .error (.rsaUnsupportedLength bits)

/-- The byte form of the public half. -/
def publicBytes : PrivateKey → Bytes
  | .ed25519 seed => ed25519Public seed
  | .ecdsa k =>
    let algorithm := Der.encodeSequence [Der.encode 0x06 ecPublicKeyId, Der.encode 0x06 p256Id]
    let point := (Weierstrass.p256.publicPoint k).uncompressed
    Der.encodeSequence [algorithm, Der.encodeBits point]
  | .secp256k1 k => (Weierstrass.secp256k1.publicPoint k).compressed
  | .rsa k => k.publicBytes

/-- The byte form of a key. That of an RSA key is made by way of the form that private keys of
all algorithms share, whose length has to fit as well. -/
def toBytes : PrivateKey → Except KeyError Bytes
  | .ed25519 seed => .ok (seed ++ ed25519Public seed)
  | .ecdsa k =>
    let point := (Weierstrass.p256.publicPoint k).uncompressed
    .ok <| Der.encodeSequence
      [Der.encodeUnsigned 1, Der.encode 0x04 (Bytes.ofNat 32 k),
        Der.encode 0xA1 (Der.encodeBits point)]
  | .secp256k1 k => .ok (Bytes.ofNat 32 k)
  | .rsa k =>
    match k.toBytes with
    | some bs => if (RsaKey.wrap bs).length < Der.lengthBound then .ok bs else .error .tooLong
    | none => .error .noCoefficient

/-- Reads the base-64 text of a key's envelope; blanks around it do not count. -/
def parse (s : String) : Except KeyError PrivateKey :=
  match Base64.decode? (Text.trim s) with
  | none => .error .notBase64
  | some bs =>
    match Envelope.decode bs with
    | .error e => .error (.envelope e)
    | .ok env => ofBytes env.kind env.data

/-- The base-64 text of a key's envelope. -/
def exportText (k : PrivateKey) : Except KeyError String := do
  let data ← k.toBytes
  return Base64.encode (Envelope.encode ⟨k.kind, data⟩)

/-- A fresh key made from random bytes. Only RSA keys come in lengths of choice. -/
def generate (kind : KeyKind) (bits : Nat) (random : Bytes) : Except KeyError PrivateKey :=
  match kind with
  | .ed25519 => .ok (.ed25519 (sha256 random))
  | .ecdsa => .ok (.ecdsa (scalarOf Weierstrass.p256 random))
  | .secp256k1 => .ok (.secp256k1 (scalarOf Weierstrass.secp256k1 random))
  | .rsa =>
    if bits < RsaKey.minBits ∨ RsaKey.maxBits < bits then .error (.rsaLengthOutOfRange bits)
    else
      match (List.range 8).findSome? fun round =>
          RsaKey.generate bits (stream random (2 * round)) (stream random (2 * round + 1)) with
      | some k => .ok (.rsa k)
      | none => .error .noPrimes
where
  /-- A scalar of the curve, all but evenly spread. -/
  scalarOf (curve : Weierstrass.Curve) (random : Bytes) : Nat :=
    Bytes.toNat (sha512 random) % (curve.order - 1) + 1
  /-- The number spelled by 512 bytes of digests of the random bytes and a counter. -/
  stream (random : Bytes) (counter : Nat) : Nat :=
    Bytes.toNat ((List.range 8).flatMap fun i =>
      sha512 (random ++ Bytes.ofNat 4 counter ++ Bytes.ofNat 4 i))

end PrivateKey

end Rendezvous
