import Rendezvous.Key.Private
import Rendezvous.Proofs.Bytes.Der

/-!
# Rendezvous.Proofs.Key.Private

A key that can be used is read back from the byte form in which it is written, whatever form it
was once read from.

* `PrivateKey.Usable`: what the reader of each kind makes sure of;
* `PrivateKey.usable_of_ofBytes`: every key that is read is usable, and of the kind asked for;
* `PrivateKey.ofBytes_toBytes`.
-/

namespace Rendezvous

/-! ### RSA -/

namespace RsaKey

/-- The nine numbers that the byte form of a key consists of, the last three being those that
its reader skips. -/
def numbers (k : RsaKey) (exponentP exponentQ coefficient : Nat) : List Nat :=
  [0, k.modulus, k.publicExponent, k.privateExponent, k.primeP, k.primeQ, exponentP, exponentQ,
    coefficient]

theorem eq_of_toBytes {k : RsaKey} {bs : Bytes} (h : k.toBytes = some bs) :
    ∃ exponentP exponentQ coefficient, bs = Der.encode 0x30
      ((numbers k exponentP exponentQ coefficient).map Der.encodeUnsigned).flatten := by
  rw [toBytes] at h
  cases hc : Modular.inverse? k.primeP k.primeQ with
  | none =>
      rw [hc] at h
      cases h
  | some coefficient =>
      rw [hc] at h
      exact ⟨_, _, coefficient, (Option.some.inj h).symm⟩

/-- The numbers are read back, in front of nothing else. -/
theorem readNumbers_encode (k : RsaKey) (exponentP exponentQ coefficient : Nat)
    (h : ∀ n ∈ numbers k exponentP exponentQ coefficient,
      (Der.encodeUnsigned n).length < Der.lengthBound) :
    readNumbers ((numbers k exponentP exponentQ coefficient).map Der.encodeUnsigned).flatten =
      some (k, []) := by
  simp only [numbers, List.forall_mem_cons] at h
  obtain ⟨hversion, hn, he, hd, hp, hq, hep, heq, hc, -⟩ := h
  simp only [numbers, List.map_cons, List.map_nil, List.flatten_cons, List.flatten_nil]
  rw [readNumbers]
  simp only [Der.unsignedElement_encodeUnsigned hversion, Der.unsignedElement_encodeUnsigned hn,
    Der.unsignedElement_encodeUnsigned he, Der.unsignedElement_encodeUnsigned hd,
    Der.unsignedElement_encodeUnsigned hp, Der.unsignedElement_encodeUnsigned hq,
    Der.unsignedElement_encodeUnsigned hep, Der.unsignedElement_encodeUnsigned heq,
    Der.unsignedElement_encodeUnsigned hc, Option.bind_eq_bind, Option.bind_some, if_true]

theorem length_lt_length_wrap (bs : Bytes) : bs.length < (wrap bs).length := by
  have hinner := Der.length_lt_length_encode 0x04 bs
  have houter := Der.length_lt_length_encode 0x30
    [Der.encodeUnsigned 0, algorithm, Der.encode 0x04 bs].flatten
  have hlength : (Der.encode 0x04 bs).length ≤
      [Der.encodeUnsigned 0, algorithm, Der.encode 0x04 bs].flatten.length :=
    (List.sublist_flatten_of_mem (by simp)).length_le
  exact Nat.lt_trans (Nat.lt_of_lt_of_le hinner hlength) houter

/-- A key that passes its checks is read back. -/
theorem ofBytes_toBytes {k : RsaKey} {bs : Bytes} (hcheck : k.check = .ok ())
    (h : k.toBytes = some bs) (hlength : bs.length < Der.lengthBound) : ofBytes bs = .ok k := by
  obtain ⟨exponentP, exponentQ, coefficient, rfl⟩ := eq_of_toBytes h
  have hread := readNumbers_encode k exponentP exponentQ coefficient fun n hn =>
    calc (Der.encodeUnsigned n).length
        ≤ ((numbers k exponentP exponentQ coefficient).map Der.encodeUnsigned).flatten.length :=
          (List.sublist_flatten_of_mem (List.mem_map_of_mem hn)).length_le
      _ < _ := Der.length_lt_length_encode 0x30 _
      _ < Der.lengthBound := hlength
  rw [ofBytes, Der.document?_encode (by decide) hlength]
  simp only [Option.bind_eq_bind, Option.bind_some, Der.inside_of_read hread, hcheck]
  rfl

theorem check_of_ofBytes {bs : Bytes} {k : RsaKey} (h : ofBytes bs = .ok k) :
    k.check = .ok () := by
  rw [ofBytes] at h
  split at h
  · cases h
  · rename_i key hkey
    cases hcheck : key.check with
    | error e =>
        rw [hcheck] at h
        cases h
    | ok =>
        rw [hcheck] at h
        cases h
        exact hcheck

end RsaKey

namespace PrivateKey

/-! ### Scalars -/

theorem p256_order_lt : Weierstrass.p256.order < 256 ^ 32 := by decide

theorem secp256k1_order_lt : Weierstrass.secp256k1.order < 256 ^ 32 := by decide

/-- A scalar is read back from 32 bytes. -/
theorem scalar?_ofNat {curve : Weierstrass.Curve} (hcurve : curve.order < 256 ^ 32) {n : Nat}
    (hn : curve.isScalar n = true) : scalar? curve (Bytes.ofNat 32 n) = some n := by
  have hlt : n < curve.order := by
    rw [Weierstrass.Curve.isScalar, Bool.and_eq_true, decide_eq_true_iff, decide_eq_true_iff] at hn
    exact hn.2
  rw [scalar?, Bytes.length_ofNat, Bytes.toNat_ofNat (Nat.lt_trans hlt hcurve)]
  exact if_pos ⟨by decide, by decide, hn⟩

theorem isScalar_of_scalar? {curve : Weierstrass.Curve} {bs : Bytes} {n : Nat}
    (h : scalar? curve bs = some n) : curve.isScalar n = true := by
  rw [scalar?] at h
  split at h
  · rename_i hbs
    obtain rfl := Option.some.inj h
    exact hbs.2.2
  · cases h

/-! ### Elliptic keys -/

theorem length_uncompressed (point : Weierstrass.Affine) : point.uncompressed.length = 65 := by
  rw [Weierstrass.Affine.uncompressed, List.length_append, List.length_cons, Bytes.length_ofNat,
    Bytes.length_ofNat]

theorem length_encode_of_short {t : UInt8} {content : Bytes} (h : content.length < 128) :
    (Der.encode t content).length = content.length + 2 := by
  rw [Der.encode, Der.lengthBytes, if_pos h]
  rfl

theorem length_encodeBits_uncompressed (point : Weierstrass.Affine) :
    (Der.encodeBits point.uncompressed).length = 68 := by
  have hpoint := length_uncompressed point
  rw [Der.encodeBits, length_encode_of_short] <;> rw [List.length_cons, hpoint]
  decide

/-- The field that an elliptic key is written with holds its public point. -/
theorem holdsPoint_encodeBits (n : Nat) :
    holdsPoint n (Der.encodeBits (Weierstrass.p256.publicPoint n).uncompressed) = true := by
  have hpoint := length_uncompressed (Weierstrass.p256.publicPoint n)
  have hlength : (0 :: (Weierstrass.p256.publicPoint n).uncompressed).length < Der.lengthBound := by
    rw [List.length_cons, hpoint]
    decide
  have hread := Der.element_encode (t := 0x03) (by decide) hlength []
  rw [List.append_nil] at hread
  rw [holdsPoint, Der.encodeBits, Der.inside_of_read hread]
  simp [Der.wholeBits?, isPointForm]

/-- The fields that the byte form of an elliptic key consists of: a version, the key, and its
public point. -/
def ecdsaFields (n : Nat) : List Bytes :=
  [Der.encodeUnsigned 1, Der.encode 0x04 (Bytes.ofNat 32 n),
    Der.encode 0xA1 (Der.encodeBits (Weierstrass.p256.publicPoint n).uncompressed)]

theorem toBytes_ecdsa (n : Nat) :
    toBytes (.ecdsa n) = .ok (Der.encodeSequence (ecdsaFields n)) := rfl

/-- The fields of an elliptic key that was written are read back. -/
theorem readEcdsa_fields {n : Nat} (hn : Weierstrass.p256.isScalar n = true) :
    readEcdsa (ecdsaFields n).flatten = some (n, []) := by
  rw [ecdsaFields]
  have hpoint := length_encodeBits_uncompressed (Weierstrass.p256.publicPoint n)
  have hholds := holdsPoint_encodeBits n
  generalize Der.encodeBits (Weierstrass.p256.publicPoint n).uncompressed = field at hpoint hholds ⊢
  have hversion (rest : Bytes) :
      Der.element 0x02 (Der.encodeUnsigned 1 ++ rest) = some ([1], rest) := by
    have hone : Der.encodeUnsigned 1 = Der.encode 0x02 [1] := by decide
    rw [hone, Der.element_encode (by decide) (by decide)]
  have hsecret (rest : Bytes) :
      Der.element 0x04 (Der.encode 0x04 (Bytes.ofNat 32 n) ++ rest) =
        some (Bytes.ofNat 32 n, rest) :=
    Der.element_encode (by decide) (by rw [Bytes.length_ofNat]; decide) rest
  -- The name of the curve is left out, and the point is not.
  have habsent (fuel : Nat) (rest : Bytes) :
      Der.contextField? (fuel + 1) 0 (Der.encode 0xA1 field ++ rest) =
        some (none, Der.encode 0xA1 field ++ rest) :=
    Der.contextField?_of_lt (by decide) (by decide) fuel field rest
  have hgiven (fuel : Nat) (rest : Bytes) :
      Der.contextField? (fuel + 1) 1 (Der.encode 0xA1 field ++ rest) = some (some field, rest) :=
    Der.contextField?_encode (by decide) (by decide) (by decide) (by decide)
      (by rw [hpoint]; decide) fuel rest
  simp only [List.flatten_cons, List.flatten_nil]
  rw [readEcdsa]
  simp only [hversion, hsecret, habsent, hgiven, scalar?_ofNat p256_order_lt hn,
    Option.bind_eq_bind, Option.bind_some]
  exact if_pos ⟨trivial, rfl, hholds⟩

theorem isScalar_of_readEcdsa {bs rest : Bytes} {n : Nat} (h : readEcdsa bs = some (n, rest)) :
    Weierstrass.p256.isScalar n = true := by
  rw [readEcdsa] at h
  simp only [Option.bind_eq_bind, Option.bind_eq_some_iff] at h
  obtain ⟨⟨version, bs⟩, -, ⟨secret, bs⟩, -, ⟨parameters, bs⟩, -, ⟨given, bs⟩, -, scalar, hscalar,
    h⟩ := h
  split at h
  · cases h
    exact isScalar_of_scalar? hscalar
  · cases h

/-- The fields of an elliptic key are of one length. -/
theorem length_ecdsaFields (n : Nat) : (ecdsaFields n).flatten.length = 107 := by
  have hbits := length_encodeBits_uncompressed (Weierstrass.p256.publicPoint n)
  have hone : (Der.encodeUnsigned 1).length = 3 := by decide
  simp only [ecdsaFields, List.flatten_cons, List.flatten_nil, List.length_append,
    List.length_nil, hone]
  rw [length_encode_of_short (by rw [Bytes.length_ofNat]; decide), Bytes.length_ofNat,
    length_encode_of_short (by rw [hbits]; decide), hbits]

theorem ecdsaOfBytes_encode {n : Nat} (hn : Weierstrass.p256.isScalar n = true) :
    ecdsaOfBytes (Der.encodeSequence (ecdsaFields n)) = .ok (.ecdsa n) := by
  have hlength := length_ecdsaFields n
  rw [ecdsaOfBytes, Der.encodeSequence, Der.document?_encode (by decide)
    (by rw [length_encode_of_short (by omega), hlength]; decide)]
  simp only [Option.bind_eq_bind, Option.bind_some, Der.inside_of_read (readEcdsa_fields hn)]

/-! ### All kinds -/

/-- What the reader of each kind makes sure of. -/
def Usable : PrivateKey → Prop
  | .ed25519 seed => seed.length = 32
  | .ecdsa n => Weierstrass.p256.isScalar n = true
  | .secp256k1 n => Weierstrass.secp256k1.isScalar n = true
  | .rsa k => k.check = .ok ()

theorem length_ed25519Public (seed : Bytes) : (ed25519Public seed).length = 32 := by
  rw [ed25519Public, Edwards.Point.compress, Bytes.ofNatLE, List.length_reverse, Bytes.length_ofNat]

/-- **Every key that is read is usable**, and of the kind asked for. -/
theorem usable_of_ofBytes {kind : KeyKind} {bs : Bytes} {k : PrivateKey}
    (h : ofBytes kind bs = .ok k) : k.kind = kind ∧ k.Usable := by
  cases kind with
  | ed25519 =>
      change ed25519OfBytes bs = .ok k at h
      simp only [ed25519OfBytes] at h
      generalize (if bs.length = 96 then bs.take 64 else bs) = halves at h
      split at h
      · cases h
      · rename_i hlength
        split at h
        · cases h
          refine ⟨rfl, ?_⟩
          rw [Usable, List.length_take]
          omega
        · cases h
  | ecdsa =>
      change ecdsaOfBytes bs = .ok k at h
      unfold ecdsaOfBytes at h
      split at h
      · rename_i n hn
        cases h
        obtain ⟨content, -, hn⟩ := Option.bind_eq_some_iff.1 hn
        exact ⟨rfl, isScalar_of_readEcdsa (Der.read_of_inside hn)⟩
      · cases h
  | secp256k1 =>
      rw [ofBytes] at h
      split at h
      · rename_i n hn
        cases h
        exact ⟨rfl, isScalar_of_scalar? hn⟩
      · cases h
  | rsa =>
      rw [ofBytes] at h
      split at h
      · rename_i key hkey
        cases h
        exact ⟨rfl, RsaKey.check_of_ofBytes hkey⟩
      all_goals cases h

theorem of_toBytes_rsa {key : RsaKey} {bs : Bytes} (h : toBytes (.rsa key) = .ok bs) :
    key.toBytes = some bs ∧ bs.length < Der.lengthBound := by
  rw [toBytes] at h
  split at h
  · rename_i bytes hbytes
    split at h
    · rename_i hlength
      obtain rfl := Except.ok.inj h
      exact ⟨hbytes, Nat.lt_trans (RsaKey.length_lt_length_wrap bytes) hlength⟩
    · cases h
  · cases h

/-- **A usable key is read back from the form in which it is written.** -/
theorem ofBytes_toBytes {k : PrivateKey} {bs : Bytes} (hk : k.Usable) (h : k.toBytes = .ok bs) :
    ofBytes k.kind bs = .ok k := by
  cases k with
  | ed25519 seed =>
      obtain rfl := Except.ok.inj h
      have hpublic := length_ed25519Public seed
      have hseed : seed.length = 32 := hk
      have hlength : (seed ++ ed25519Public seed).length = 64 := by
        rw [List.length_append, hseed, hpublic]
      change ed25519OfBytes (seed ++ ed25519Public seed) = _
      rw [ed25519OfBytes, hlength]
      simp only [if_neg (by decide : ¬ (64 = 96)), hlength, ne_eq, not_true_eq_false, if_false,
        List.take_left' hseed, List.drop_left' hseed, if_true]
  | ecdsa n =>
      rw [toBytes_ecdsa] at h
      obtain rfl := Except.ok.inj h
      rw [Usable] at hk
      rw [kind, ofBytes, ecdsaOfBytes_encode hk]
  | secp256k1 n =>
      obtain rfl := Except.ok.inj h
      rw [Usable] at hk
      rw [kind, ofBytes, scalar?_ofNat secp256k1_order_lt hk]
  | rsa key =>
      obtain ⟨hbytes, hlength⟩ := of_toBytes_rsa h
      rw [kind, ofBytes, RsaKey.ofBytes_toBytes hk hbytes hlength]

/-- What is written is neither empty nor beyond what can be counted. -/
theorem length_of_toBytes {k : PrivateKey} {bs : Bytes} (hk : k.Usable) (h : k.toBytes = .ok bs) :
    0 < bs.length ∧ bs.length < Der.lengthBound := by
  cases k with
  | ed25519 seed =>
      obtain rfl := Except.ok.inj h
      rw [Usable] at hk
      rw [List.length_append, hk, length_ed25519Public]
      decide
  | ecdsa n =>
      rw [toBytes_ecdsa] at h
      obtain rfl := Except.ok.inj h
      have hfields := length_ecdsaFields n
      rw [Der.encodeSequence, length_encode_of_short (by omega), hfields]
      decide
  | secp256k1 n =>
      obtain rfl := Except.ok.inj h
      rw [Bytes.length_ofNat]
      decide
  | rsa key =>
      obtain ⟨hbytes, hlength⟩ := of_toBytes_rsa h
      obtain ⟨exponentP, exponentQ, coefficient, rfl⟩ := RsaKey.eq_of_toBytes hbytes
      exact ⟨Nat.lt_of_le_of_lt (Nat.zero_le _) (Der.length_lt_length_encode 0x30 _), hlength⟩

end PrivateKey

end Rendezvous
