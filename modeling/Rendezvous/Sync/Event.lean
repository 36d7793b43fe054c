import Rendezvous.Store.Record

/-!
# Rendezvous.Sync.Event

What nodes tell each other about their registrations, and who tells what.

* `Sync.Event`: a registration or a removal, and the node it comes from;
* `Sync.Capability`, `Sync.Endpoint`: what a driver does and where its backend is.
-/

namespace Rendezvous.Sync

/-- A change made on some node. -/
inductive Event where
  /-- A registration. -/
  | upsert (origin : String) (record : Record)
  /-- A removal. The record holds the name of what was removed and the expiry by which the
  removal is ordered. -/
  | remove (origin : String) (record : Record)
deriving DecidableEq

namespace Event

/-- The node that made the change. -/
def origin : Event → String
  | .upsert origin _ | .remove origin _ => origin

/-- The record that was changed. -/
def record : Event → Record
  | .upsert _ record | .remove _ record => record

/-- The word for the kind of change. -/
def kind : Event → String
  | .upsert _ _ => "upsert"
  | .remove _ _ => "remove"

/-- The JSON form of an event. -/
def toJson (e : Event) : Json.Value :=
  .object [("kind", .text e.kind), ("origin", .text e.origin), ("record", e.record.toJson)]

/-- What a message carries of an event: its JSON form, all members in the order of their
keys. -/
def payload (e : Event) : Json.Value := e.toJson.canonical

/-- Reads an event. -/
def decoder : Json.Decoder Event :=
  Json.tagged "SyncEvent" "kind"
    [Json.variant "upsert" "struct variant SyncEvent::Upsert"
      (upsert <$> .required "origin" Json.text <*> .required "record" Record.decoder),
     Json.variant "remove" "struct variant SyncEvent::Remove"
      (remove <$> .required "origin" Json.text <*> .required "record" Record.decoder)]

end Event

/-- Which directions a driver handles. -/
inductive Capability where
  | publish
  | subscribe
  | both
deriving Repr, DecidableEq, Inhabited

namespace Capability

/-- Whether a driver tells other nodes. -/
def canPublish : Capability → Bool
  | .publish | .both => true
  | .subscribe => false

/-- Whether a driver hears from other nodes. -/
def canSubscribe : Capability → Bool
  | .subscribe | .both => true
  | .publish => false

/-- The word for a capability on the wire. -/
def wireName : Capability → String
  | .publish => "publish"
  | .subscribe => "subscribe"
  | .both => "both"

/-- Reads a capability. -/
def decoder : Json.Decoder Capability :=
  Json.choice ([publish, subscribe, both].map fun c => (c.wireName, c))

end Capability

/-- Where clients reach the backend of a driver. -/
structure Endpoint where
  driver : String
  url : String
deriving Repr, DecidableEq, Inhabited

namespace Endpoint

/-- The JSON form of an endpoint. -/
def toJson (e : Endpoint) : Json.Value :=
  .object [("driver", .text e.driver), ("url", .text e.url)]

/-- Reads an endpoint. -/
def decoder : Json.Decoder Endpoint :=
  Json.record "struct SyncEndpoint"
    (Endpoint.mk <$> .required "driver" Json.text <*> .required "url" Json.text)

end Endpoint

end Rendezvous.Sync
