import Rendezvous.Peer.Id
import Rendezvous.Proofs.Bytes.Base58

/-!
# Rendezvous.Proofs.Peer.Id

A peer's name and its text determine each other, and names are read from their own bytes and
texts only.

* `PeerId.IsName`: the byte strings that are names, by what they hold;
* `PeerId.ofBytes_eq_ok_iff`, `PeerId.ofBytes_bytesOfPublicKey`: names and bytes;
* `PeerId.parse_eq_ok_iff`, `PeerId.toText_injective`: names and texts;
* `PeerId.nul_not_mem_toText`: a name's text has no NUL.
-/

namespace Rendezvous.PeerId

/-! ### Bytes -/

/-- The byte strings that are names: a key of at most 42 bytes, or a digest of 32, each behind
its code and its length. -/
inductive IsName : Bytes → Prop where
  | inline (key : Bytes) (h : key.length ≤ 42) : IsName (0x00 :: UInt8.ofNat key.length :: key)
  | digest (d : Bytes) (h : d.length = 32) : IsName (0x12 :: 0x20 :: d)

theorem isMultihash_iff {bs : Bytes} : isMultihash bs = true ↔ IsName bs := by
  constructor
  · intro h
    match bs, h with
    | code :: len :: rest, h =>
        rw [isMultihash, Bool.and_eq_true, Bool.or_eq_true, Bool.and_eq_true, Bool.and_eq_true,
          beq_iff_eq, beq_iff_eq, beq_iff_eq, beq_iff_eq, decide_eq_true_iff] at h
        obtain ⟨hlen, ⟨rfl, hrest⟩ | ⟨rfl, hrest⟩⟩ := h
        · have hbyte : len = UInt8.ofNat rest.length := by rw [← hlen, UInt8.ofNat_toNat]
          exact hbyte ▸ .inline rest hrest
        · have hbyte : len = 0x20 := UInt8.toNat_inj.1 (hlen.trans hrest)
          exact hbyte ▸ .digest rest hrest
  · rintro (⟨key, h⟩ | ⟨d, h⟩)
    · have hlen : (UInt8.ofNat key.length).toNat = key.length :=
        UInt8.toNat_ofNat_of_lt' (Nat.lt_of_le_of_lt h (by decide))
      simp [isMultihash, hlen, h]
    · simp [isMultihash, h]

theorem isName_bytes (p : PeerId) : IsName p.bytes := isMultihash_iff.1 p.valid

theorem ofBytes_bytes (p : PeerId) : ofBytes p.bytes = .ok p := by
  unfold ofBytes
  rw [dif_pos p.valid]

/-- A name is read from its own bytes only. -/
theorem bytes_of_ofBytes {bs : Bytes} {p : PeerId} (h : ofBytes bs = .ok p) : p.bytes = bs := by
  unfold ofBytes at h
  by_cases hbs : isMultihash bs = true
  · rw [dif_pos hbs] at h
    cases h
    rfl
  · -- Whichever way it is refused, nothing is read.
    rw [dif_neg hbs] at h
    repeat' split at h
    all_goals cases h

theorem ofBytes_eq_ok_iff {bs : Bytes} {p : PeerId} : ofBytes bs = .ok p ↔ p.bytes = bs :=
  ⟨bytes_of_ofBytes, fun h => h ▸ ofBytes_bytes p⟩

/-- Nothing is refused that is a name, and nothing else is taken. -/
theorem exists_ofBytes_iff {bs : Bytes} : (∃ p, ofBytes bs = .ok p) ↔ IsName bs := by
  constructor
  · rintro ⟨p, hp⟩
    exact bytes_of_ofBytes hp ▸ isName_bytes p
  · intro h
    exact ⟨⟨bs, isMultihash_iff.2 h⟩, ofBytes_bytes ⟨bs, isMultihash_iff.2 h⟩⟩

/-- What names a public key is taken as it stands. -/
theorem ofBytes_bytesOfPublicKey (key : Bytes) :
    ofBytes (bytesOfPublicKey key) = .ok (ofPublicKey key) :=
  ofBytes_bytes (ofPublicKey key)

/-! ### Texts -/

/-- **A name is read back from its text.** -/
theorem parse_toText (p : PeerId) : parse p.toText = .ok p := by
  unfold parse toText
  rw [Base58.decode_encode]
  exact ofBytes_bytes p

/-- A text that is read to a name is the name's own. -/
theorem toText_of_parse {s : String} {p : PeerId} (h : parse s = .ok p) : p.toText = s := by
  unfold parse at h
  split at h
  · cases h
  · rename_i bs hbs
    rw [toText, bytes_of_ofBytes h, Base58.encode_of_decode hbs]

theorem parse_eq_ok_iff {s : String} {p : PeerId} : parse s = .ok p ↔ p.toText = s :=
  ⟨toText_of_parse, fun h => h ▸ parse_toText p⟩

theorem toText_injective {p q : PeerId} (h : p.toText = q.toText) : p = q := by
  have hp := parse_toText p
  rw [h, parse_toText q] at hp
  exact (Except.ok.inj hp).symm

/-- **Names, their bytes and their texts are one and the same.** What names a public key is a
name as it stands; the names are the byte strings of either form and no others; and a text is
read to a name exactly if it is the text of that name, which no other name has. -/
theorem names_bytes_texts :
    (∀ key, ofBytes (bytesOfPublicKey key) = .ok (ofPublicKey key) ∧
      (ofPublicKey key).bytes = bytesOfPublicKey key) ∧
    (∀ bs, (∃ p, ofBytes bs = .ok p) ↔ IsName bs) ∧
    (∀ bs p, ofBytes bs = .ok p ↔ p.bytes = bs) ∧
    (∀ s p, parse s = .ok p ↔ p.toText = s) ∧
    (∀ p q : PeerId, p.toText = q.toText ↔ p = q) :=
  ⟨fun key => ⟨ofBytes_bytesOfPublicKey key, rfl⟩,
    fun _ => exists_ofBytes_iff,
    fun _ _ => ofBytes_eq_ok_iff,
    fun _ _ => parse_eq_ok_iff,
    fun _ _ => ⟨toText_injective, fun h => h ▸ rfl⟩⟩

theorem nul_not_mem_toText (p : PeerId) : '\x00' ∉ p.toText.toList :=
  Base58.nul_not_mem_encode p.bytes

end Rendezvous.PeerId
