import Rendezvous.Bytes.Base58
import Rendezvous.Digest.Sha2
import Rendezvous.Text.Quoted

/-!
# Rendezvous.Peer.Id

Peer identifiers. A peer is named by a self-describing hash of its public key: a short
key stands in the name itself, a longer one is named by its SHA-256 digest.

* `PeerId.ofPublicKey`: the name of a public key;
* `PeerId.ofBytes`, `PeerId.parse`: the readers of the byte form and of its base-58 text;
* `PeerId.toText`: the text, from which `PeerId.parse` reads the same name back.
-/

namespace Rendezvous

/-- Whether bytes are a peer's name: the code of a way of hashing, a length, and that many
bytes, where code 0 holds at most 42 bytes of key and code 0x12 a digest of 32. -/
def isMultihash : Bytes → Bool
  | code :: len :: rest =>
    len.toNat == rest.length
      && ((code == 0 && rest.length ≤ 42) || (code == 0x12 && rest.length == 32))
  | _ => false

/-- A peer's name. -/
structure PeerId where
  bytes : Bytes
  valid : isMultihash bytes = true
deriving DecidableEq

namespace PeerId

/-- Keys up to this length are named by themselves. -/
def maxInline : Nat := 42

/-- Why bytes or a text are no peer's name. -/
inductive ParseError where
  /-- The text is not base 58. -/
  | base58 (cause : Base58.DecodeError)
  /-- Not even a code and a length. -/
  | tooShort
  /-- The length does not count the bytes that follow. -/
  | lengthMismatch
  /-- A key that is too long to stand in the name. -/
  | inlineTooLong
  /-- A digest of the wrong length. -/
  | badDigestLength
  /-- A code other than the two in use. -/
  | unsupportedCode
deriving Repr, DecidableEq

/-- The wording of a failure to read base 58. -/
def base58Message : Base58.DecodeError → String
  | .nonAscii place =>
    "provided string contained non-ascii character starting at byte " ++ toString place
  | .invalid c place =>
    "provided string contained invalid character " ++ Text.quotedChar c ++ " at byte "
      ++ toString place

/-- The wording of a failure to read a name. -/
def ParseError.message : ParseError → String
  | .base58 cause => "invalid base58: " ++ base58Message cause
  | .tooShort => "invalid multihash: too short"
  | .lengthMismatch => "invalid multihash: length mismatch"
  | .inlineTooLong => "invalid multihash: inline key too long"
  | .badDigestLength => "invalid multihash: bad sha2-256 length"
  | .unsupportedCode => "invalid multihash: unsupported hash code"

/-- Reads the byte form of a name. -/
def ofBytes (bs : Bytes) : Except ParseError PeerId :=
  if h : isMultihash bs = true then .ok ⟨bs, h⟩
  else match bs with
    | code :: len :: rest =>
      if len.toNat ≠ rest.length then .error .lengthMismatch
      else if code = 0 then .error .inlineTooLong
      else if code = 0x12 then .error .badDigestLength
      else .error .unsupportedCode
    | _ => .error .tooShort

/-- The bytes that name a public key. -/
def bytesOfPublicKey (key : Bytes) : Bytes :=
  if key.length ≤ maxInline then 0 :: UInt8.ofNat key.length :: key
  else
    let digest := sha256 key
    0x12 :: UInt8.ofNat digest.length :: digest

/-- What names a public key is a name. -/
theorem isMultihash_bytesOfPublicKey (key : Bytes) :
    isMultihash (bytesOfPublicKey key) = true := by
  unfold bytesOfPublicKey
  split
  · rename_i h
    have : key.length ≤ 42 := h
    simp [isMultihash, Nat.mod_eq_of_lt (show key.length < 256 by omega), this]
  · simp [isMultihash]

/-- The name of a public key. -/
def ofPublicKey (key : Bytes) : PeerId :=
  ⟨bytesOfPublicKey key, isMultihash_bytesOfPublicKey key⟩

/-- The text of a name. -/
def toText (p : PeerId) : String := Base58.encode p.bytes

/-- Reads the text of a name. -/
def parse (s : String) : Except ParseError PeerId :=
  match Base58.decode s with
  | .error e => .error (.base58 e)
  | .ok bs => ofBytes bs

/-- A name as diagnostics show it. -/
def debug (p : PeerId) : String := "PeerId(" ++ Text.quoted p.toText ++ ")"

instance : ToString PeerId := ⟨toText⟩

instance : Repr PeerId := ⟨fun p _ => p.debug⟩

instance : Inhabited PeerId := ⟨ofPublicKey []⟩

/-- The order of byte strings: by the first byte that differs, and a shorter string before
its extensions. -/
def bytesLt : Bytes → Bytes → Bool
  | _, [] => false
  | [], _ :: _ => true
  | a :: as, b :: bs => a < b || (a == b && bytesLt as bs)

/-- Names in the order of their byte forms, each once. -/
def sortUnique (ps : List PeerId) : List PeerId :=
  (ps.mergeSort fun a b => !bytesLt b.bytes a.bytes).eraseReps

end PeerId

end Rendezvous
