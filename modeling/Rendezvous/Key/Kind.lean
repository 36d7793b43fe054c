/-!
# Rendezvous.Key.Kind

The four kinds of key pair, the number by which an envelope tags each, and their names.
-/

namespace Rendezvous

/-- A kind of key pair. -/
inductive KeyKind where
  | rsa
  | ed25519
  | secp256k1
  | ecdsa
deriving Repr, DecidableEq, Inhabited

namespace KeyKind

/-- The number that tags the kind in an envelope. -/
def tag : KeyKind → Nat
  | .rsa => 0
  | .ed25519 => 1
  | .secp256k1 => 2
  | .ecdsa => 3

/-- The kind that a number tags. -/
def ofTag? : Nat → Option KeyKind
  | 0 => some .rsa
  | 1 => some .ed25519
  | 2 => some .secp256k1
  | 3 => some .ecdsa
  | _ => none

@[simp] theorem ofTag?_tag (k : KeyKind) : ofTag? k.tag = some k := by cases k <;> rfl

/-- The name shown to users. -/
def name : KeyKind → String
  | .rsa => "RSA"
  | .ed25519 => "Ed25519"
  | .secp256k1 => "Secp256k1"
  | .ecdsa => "ECDSA"

/-- The name shown in diagnostics. -/
def debug : KeyKind → String
  | .rsa => "Rsa"
  | .ed25519 => "Ed25519"
  | .secp256k1 => "Secp256k1"
  | .ecdsa => "Ecdsa"

/-- Reads a kind's name in any mixture of ASCII cases. -/
def parse? (s : String) : Option KeyKind :=
  match s.toLower with
  | "rsa" => some .rsa
  | "ed25519" => some .ed25519
  | "secp256k1" => some .secp256k1
  | "ecdsa" => some .ecdsa
  | _ => none

end KeyKind

end Rendezvous
