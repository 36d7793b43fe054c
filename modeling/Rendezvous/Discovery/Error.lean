import Rendezvous.Discovery.Message
import Rendezvous.Store.Basic

/-!
# Rendezvous.Discovery.Error

Why a request to register, to unregister or to discover fails.

* `Discovery.Error`, with the status and the text that are reported;
* `Discovery.checkNamespace`: which namespaces are accepted.
-/

namespace Rendezvous.Discovery

/-- The most bytes a namespace may have. -/
def maxNamespaceLength : Nat := 255

/-- Why a request fails. -/
inductive Error where
  /-- A namespace of so many bytes. -/
  | badNamespace (bytes : Nat)
  | badPeer (text : String) (cause : PeerId.ParseError)
  | badAddress (text : String) (cause : MultiaddrError)
  | badTtl (ttl : Duration)
  | store (cause : Store.Error)
deriving Repr, DecidableEq

namespace Error

/-- The wording of an error. -/
def message : Error → String
  | .badNamespace bytes =>
    "namespace must be 1 to " ++ toString maxNamespaceLength ++ " bytes, got " ++ toString bytes
  | .badPeer text cause => "invalid peer id " ++ text ++ ": " ++ cause.message
  | .badAddress text cause => "invalid address " ++ text ++ ": " ++ cause.message
  | .badTtl ttl => "ttl " ++ ttl.describe ++ " outside the accepted range"
  | .store cause => cause.message

/-- The status that is reported. -/
def status : Error → Status
  | .badNamespace _ => .invalidNamespace
  | .badPeer _ _ => .invalidPeer
  | .badAddress _ _ => .invalidAddress
  | .badTtl _ => .invalidTtl
  | .store .closed => .unavailable

end Error

/-- Accepts namespaces of 1 to 255 bytes. -/
def checkNamespace (s : String) : Except Error Unit :=
  if 1 ≤ s.utf8ByteSize ∧ s.utf8ByteSize ≤ maxNamespaceLength then .ok ()
  else .error (.badNamespace s.utf8ByteSize)

end Rendezvous.Discovery
