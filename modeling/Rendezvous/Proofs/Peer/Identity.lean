import Rendezvous.Peer.Identity
import Rendezvous.Proofs.Bytes.Base64
import Rendezvous.Proofs.Data.Outcome
import Rendezvous.Proofs.Key.Envelope
import Rendezvous.Proofs.Key.Private
import Rendezvous.Proofs.Text.Blank

/-!
# Rendezvous.Proofs.Peer.Identity

The text that exports an identity is the one by which it is known from then on: whichever text an
identity was loaded from, its own export loads as the same identity, blanks around it or not.

* `Identity.of_load`: what is known of an identity that was loaded;
* `Identity.exported_canonical`.
-/

namespace Rendezvous

namespace Base64

theorem isBlank_digit : ∀ d < 64, Text.isBlank (digit d) = false := by decide

/-- A base-64 text has no blanks. -/
theorem isBlank_of_mem_encode {bs : Bytes} {c : Char} (hc : c ∈ (encode bs).toList) :
    Text.isBlank c = false := by
  rw [encode, String.toList_ofList] at hc
  exact forall_mem_encodeChars (motive := (Text.isBlank · = false)) isBlank_digit (by decide) bs c hc

end Base64

namespace PrivateKey

/-- A key is found again in the text of its envelope. -/
theorem parse_exportText {k : PrivateKey} (hk : k.Usable) {text : String}
    (h : k.exportText = .ok text) {before after : String} (hbefore : Text.allBlank before = true)
    (hafter : Text.allBlank after = true) : parse (before ++ text ++ after) = .ok k := by
  obtain ⟨bs, hbs, htext⟩ := bind_eq_ok_iff.1 h
  obtain rfl := Except.ok.inj htext
  obtain ⟨hpos, hlt⟩ := length_of_toBytes hk hbs
  have hfilled : (Base64.encode (Envelope.encode ⟨k.kind, bs⟩)).toList ≠ [] := by
    rw [Base64.encode, String.toList_ofList]
    exact Base64.encodeChars_ne_nil (List.cons_ne_nil _ _)
  have henvelope : Envelope.decode (Envelope.encode ⟨k.kind, bs⟩) = .ok ⟨k.kind, bs⟩ :=
    Envelope.decode_encode_eq_ok_iff.2
      ⟨List.ne_nil_of_length_pos hpos, Nat.lt_trans hlt (by decide)⟩
  rw [parse, Text.trim_of_blanks hbefore hafter hfilled fun c => Base64.isBlank_of_mem_encode,
    Base64.decode?_encode]
  simp only [henvelope, ofBytes_toBytes hk hbs]

theorem usable_of_parse {text : String} {k : PrivateKey} (h : parse text = .ok k) : k.Usable := by
  rw [parse] at h
  split at h
  · cases h
  · split at h
    · cases h
    · exact (usable_of_ofBytes h).2

end PrivateKey

namespace Identity

theorem of_ofKey {key : PrivateKey} {id : Identity} (h : ofKey key = .ok id) :
    id.key = key ∧ key.exportText = .ok id.exported ∧ id.publicKey = publicEnvelope key ∧
      id.peerId = PeerId.ofPublicKey id.publicKey := by
  obtain ⟨text, htext, hid⟩ := bind_eq_ok_iff.1 h
  obtain rfl := Except.ok.inj hid
  exact ⟨rfl, htext, rfl, rfl⟩

/-- An identity that was loaded is that of a usable key. -/
theorem of_load {t : String} {id : Identity} (h : load t = .ok id) :
    id.key.Usable ∧ ofKey id.key = .ok id := by
  obtain ⟨key, hkey, hof⟩ := bind_eq_ok_iff.1 h
  rw [(of_ofKey hof).1]
  exact ⟨PrivateKey.usable_of_parse hkey, hof⟩

/-- An identity is loaded from its own export. -/
theorem load_exported {id : Identity} (hkey : id.key.Usable) (hof : ofKey id.key = .ok id)
    {before after : String} (hbefore : Text.allBlank before = true)
    (hafter : Text.allBlank after = true) : load (before ++ id.exported ++ after) = .ok id := by
  rw [load, PrivateKey.parse_exportText hkey (of_ofKey hof).2.1 hbefore hafter, ok_bind, hof]

/-- **Exports are canonical.** Whatever text an identity was loaded from, its own export loads as
the same identity in every part, whatever blanks stand around it; its name is that of the envelope
of its public half; and an envelope of any kind is read back from its bytes exactly if it has data
that 64 bits can count. -/
theorem exported_canonical :
    (∀ t id, load t = .ok id →
      (∀ before after, Text.allBlank before = true → Text.allBlank after = true →
        load (before ++ id.exported ++ after) = .ok id) ∧
      id.publicKey = publicEnvelope id.key ∧ id.peerId = PeerId.ofPublicKey id.publicKey) ∧
    (∀ e : Envelope, Envelope.decode e.encode = .ok e ↔ e.data ≠ [] ∧ e.data.length < 2 ^ 64) := by
  refine ⟨fun t id h => ?_, fun e => Envelope.decode_encode_eq_ok_iff⟩
  obtain ⟨hkey, hof⟩ := of_load h
  obtain ⟨-, -, hpublic, hpeer⟩ := of_ofKey hof
  exact ⟨fun before after hbefore hafter => load_exported hkey hof hbefore hafter, hpublic, hpeer⟩

/-- A scalar that was written in 24 bytes is exported in 32. -/
theorem exported_canonical_short :
    ∃ id, load "CAISGAAAAAAAAAAAAAAAAAAAAAAAAAAAAAAAAQ==" = .ok id ∧
      id.exported = "CAISIAAAAAAAAAAAAAAAAAAAAAAAAAAAAAAAAAAAAAAAAAAB" ∧
      load (" " ++ id.exported ++ "\n") = .ok id ∧
      id.peerId = PeerId.ofPublicKey (publicEnvelope id.key) := by
  have hparse : PrivateKey.parse "CAISGAAAAAAAAAAAAAAAAAAAAAAAAAAAAAAAAQ==" =
      .ok (.secp256k1 1) := by
    decide +kernel
  have htext : PrivateKey.exportText (.secp256k1 1) =
      .ok "CAISIAAAAAAAAAAAAAAAAAAAAAAAAAAAAAAAAAAAAAAAAAAB" := by
    decide +kernel
  have hload : load "CAISGAAAAAAAAAAAAAAAAAAAAAAAAAAAAAAAAQ==" =
      .ok ⟨.secp256k1 1, publicEnvelope (.secp256k1 1),
        PeerId.ofPublicKey (publicEnvelope (.secp256k1 1)),
        "CAISIAAAAAAAAAAAAAAAAAAAAAAAAAAAAAAAAAAAAAAAAAAB"⟩ := by
    rw [load, hparse, ok_bind, ofKey, htext]
    rfl
  obtain ⟨hagain, hpublic, hpeer⟩ := exported_canonical.1 _ _ hload
  exact ⟨_, hload, rfl, hagain " " "\n" (by decide) (by decide), hpeer⟩

end Identity

end Rendezvous
