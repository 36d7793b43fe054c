import Rendezvous.Key.Private
import Rendezvous.Peer.Id

/-!
# Rendezvous.Peer.Identity

A node's identity: its private key, the text that exports it, and the name derived from
the envelope of the public half. An identity exists only whole: every way to make one
computes all parts, or fails.
-/

namespace Rendezvous

/-- A key with everything that is derived from it. -/
structure Identity where
  key : PrivateKey
  /-- The envelope of the public half. -/
  publicKey : Bytes
  peerId : PeerId
  /-- The text that `Identity.load` reads back. -/
  exported : String

namespace Identity

/-- The envelope of the public half of a key. -/
def publicEnvelope (key : PrivateKey) : Bytes := Envelope.encode ⟨key.kind, key.publicBytes⟩

/-- The identity of a key. -/
def ofKey (key : PrivateKey) : Except KeyError Identity := do
  let publicKey := publicEnvelope key
  let exported ← key.exportText
  return ⟨key, publicKey, PeerId.ofPublicKey publicKey, exported⟩

/-- The identity whose exported text is given. -/
def load (s : String) : Except KeyError Identity := PrivateKey.parse s >>= ofKey

/-- A fresh identity made from random bytes. -/
def generate (kind : KeyKind) (bits : Nat) (random : Bytes) : Except KeyError Identity :=
  PrivateKey.generate kind bits random >>= ofKey

/-- An identity as diagnostics show it, without its key. -/
def debug (i : Identity) : String :=
  "Identity \x7b key_type: " ++ i.key.kind.debug ++ ", peer_id: " ++ i.peerId.debug ++ ", .. \x7d"

end Identity

end Rendezvous
