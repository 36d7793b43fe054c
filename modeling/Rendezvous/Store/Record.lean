import Rendezvous.Peer.Id
import Rendezvous.Address.Multiaddr
import Rendezvous.Json.Decode
import Rendezvous.Time.Duration

/-!
# Rendezvous.Store.Record

What the store holds: a peer's addresses under a namespace, until a time.

* `Record`, `Record.Key`: a registration and the pair that names it;
* `Record.isExpired`, `Record.remaining`: its life on the clock;
* `Record.toJson`, `Record.decoder`: its JSON form.
-/

namespace Rendezvous

namespace PeerId

/-- The JSON form of a peer's name. -/
def toJson (p : PeerId) : Json.Value := .text p.toText

/-- Reads a peer's name. -/
def decoder : Json.Decoder PeerId :=
  Json.textThen fun s => (PeerId.parse s).mapError ParseError.message

end PeerId

namespace Multiaddr

/-- The JSON form of an address. -/
def toJson (a : Multiaddr) : Json.Value := .text a.toText

/-- Reads an address. -/
def decoder : Json.Decoder Multiaddr :=
  Json.parsedText "multiaddress" fun s => (Multiaddr.parse s).mapError MultiaddrError.message

end Multiaddr

/-- A peer registered under a namespace. -/
structure Record where
  namespaceName : String
  peer : PeerId
  addrs : List Multiaddr
  /-- The first moment at which the record no longer counts. -/
  expiresAt : Instant
  /-- The place in the order of insertion; it stays when the record is refreshed. -/
  seq : Nat
deriving DecidableEq

namespace Record

/-- What names a record. -/
abbrev Key : Type := String × PeerId

/-- The name of a record. -/
def key (r : Record) : Key := (r.namespaceName, r.peer)

/-- Whether a record no longer counts. -/
def isExpired (r : Record) (now : Instant) : Bool := r.expiresAt ≤ now

/-- The milliseconds a record has left. -/
def remaining (r : Record) (now : Instant) : Nat := r.expiresAt - now

theorem isExpired_iff (r : Record) (now : Instant) :
    r.isExpired now = true ↔ r.expiresAt ≤ now := by
  simp [isExpired]

/-- Time only runs towards the end of a record. -/
theorem isExpired_mono {r : Record} {t u : Instant} (h : t ≤ u) (he : r.isExpired t = true) :
    r.isExpired u = true :=
  (r.isExpired_iff u).2 (Nat.le_trans ((r.isExpired_iff t).1 he) h)

/-- The JSON form of a record. -/
def toJson (r : Record) : Json.Value :=
  .object [("namespace", .text r.namespaceName), ("peer", r.peer.toJson),
    ("addrs", .array (r.addrs.map Multiaddr.toJson)), ("expires_at", .nat r.expiresAt),
    ("seq", .nat r.seq)]

/-- Reads a record; without a place in the order it has place 0. -/
def decoder : Json.Decoder Record :=
  Json.record "struct RendezvousRecord"
    (Record.mk <$> .required "namespace" Json.text <*> .required "peer" PeerId.decoder
      <*> .required "addrs" (Json.list Multiaddr.decoder)
      <*> .required "expires_at" Json.word64 <*> .optional "seq" Json.word64 0)

end Record

/-- A wish to be registered, or registered anew. -/
structure Registration where
  namespaceName : String
  peer : PeerId
  addrs : List Multiaddr
  ttl : Duration
deriving DecidableEq

namespace Registration

/-- The name of the record wished for. -/
def key (r : Registration) : Record.Key := (r.namespaceName, r.peer)

/-- The lifetime of a registration that names none: two hours. -/
def defaultTtl : Duration := .ofSecs 7200

/-- The longest lifetime a store grants unless told otherwise: three days. -/
def maxTtl : Duration := .ofSecs 259200

end Registration

end Rendezvous
