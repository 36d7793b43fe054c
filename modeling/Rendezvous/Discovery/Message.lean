import Rendezvous.Sync.Event

/-!
# Rendezvous.Discovery.Message

What is said on a discovery stream: one JSON request a frame, and one response to each.
Peers and addresses come as texts, so that a bad one gets an answer of its own.

* `Discovery.Request`, `Discovery.Response`, `Discovery.Status`, with their JSON forms.
-/

namespace Rendezvous.Discovery

/-- The name under which discovery is asked for. -/
def protocol : String := "/rdvp/rendezvous/1.0.0"

/-- What a peer asks. -/
inductive Request where
  /-- To be registered, for some seconds. -/
  | register (namespaceName peer : String) (addrs : List String) (ttl : Option Nat)
  | unregister (namespaceName peer : String)
  /-- Who is registered in a namespace, or in all if it is empty. -/
  | discover (namespaceName : String) (limit : Option Nat) (cursor : Nat)
  /-- Where the backends of the drivers are. -/
  | syncInfo
deriving Repr, DecidableEq, Inhabited

/-- Why a request is refused. -/
inductive Status where
  | invalidNamespace
  | invalidPeer
  | invalidAddress
  | invalidTtl
  | malformed
  | internal
  | unavailable
deriving Repr, DecidableEq, Inhabited

/-- What is answered. -/
inductive Response where
  /-- Registered, for so many seconds. -/
  | registered (ttl : Nat)
  | unregistered
  | discovered (records : List Record) (cursor : Nat)
  | syncInfo (endpoints : List Sync.Endpoint)
  | error (status : Status) (message : String)
deriving DecidableEq

namespace Status

/-- The word for a status on the wire. -/
def wireName : Status → String
  | .invalidNamespace => "invalid_namespace"
  | .invalidPeer => "invalid_peer"
  | .invalidAddress => "invalid_address"
  | .invalidTtl => "invalid_ttl"
  | .malformed => "malformed"
  | .internal => "internal"
  | .unavailable => "unavailable"

/-- All statuses. -/
def all : List Status :=
  [.invalidNamespace, .invalidPeer, .invalidAddress, .invalidTtl, .malformed, .internal,
    .unavailable]

/-- Reads a status. -/
def decoder : Json.Decoder Status := Json.choice (all.map fun s => (s.wireName, s))

end Status

namespace Request

/-- The word for what is asked. -/
def operation : Request → String
  | .register _ _ _ _ => "register"
  | .unregister _ _ => "unregister"
  | .discover _ _ _ => "discover"
  | .syncInfo => "sync_info"

/-- The JSON form of a request. -/
def toJson (r : Request) : Json.Value :=
  .object (("type", .text r.operation) ::
    match r with
    | .register ns peer addrs ttl =>
      [("namespace", .text ns), ("peer", .text peer), ("addrs", .array (addrs.map .text)),
        ("ttl", .optionNat ttl)]
    | .unregister ns peer => [("namespace", .text ns), ("peer", .text peer)]
    | .discover ns limit cursor =>
      [("namespace", .text ns), ("limit", .optionNat limit), ("cursor", .nat cursor)]
    | .syncInfo => [])

/-- Reads a request. -/
def decoder : Json.Decoder Request :=
  Json.tagged "RendezvousRequest" "type"
    [Json.variant "register" "struct variant RendezvousRequest::Register"
      (register <$> .required "namespace" Json.text <*> .required "peer" Json.text
        <*> .optional "addrs" (Json.list Json.text) []
        <*> .optional "ttl" (Json.option Json.word64) none),
     Json.variant "unregister" "struct variant RendezvousRequest::Unregister"
      (unregister <$> .required "namespace" Json.text <*> .required "peer" Json.text),
     Json.variant "discover" "struct variant RendezvousRequest::Discover"
      (discover <$> .optional "namespace" Json.text ""
        <*> .optional "limit" (Json.option Json.size64) none
        <*> .optional "cursor" Json.word64 0),
     Json.variant "sync_info" "unit variant" (.pure .syncInfo)]

end Request

namespace Response

/-- The JSON form of a response. -/
def toJson : Response → Json.Value
  | .registered ttl => .object [("type", .text "registered"), ("ttl", .nat ttl)]
  | .unregistered => .object [("type", .text "unregistered")]
  | .discovered records cursor =>
    .object [("type", .text "discovered"), ("records", .array (records.map Record.toJson)),
      ("cursor", .nat cursor)]
  | .syncInfo endpoints =>
    .object [("type", .text "sync_info"),
      ("endpoints", .array (endpoints.map Sync.Endpoint.toJson))]
  | .error status message =>
    .object [("type", .text "error"), ("status", .text status.wireName),
      ("message", .text message)]

/-- Reads a response. -/
def decoder : Json.Decoder Response :=
  Json.tagged "RendezvousResponse" "type"
    [Json.variant "registered" "struct variant RendezvousResponse::Registered"
      (registered <$> .required "ttl" Json.word64),
     Json.variant "unregistered" "unit variant" (.pure .unregistered),
     Json.variant "discovered" "struct variant RendezvousResponse::Discovered"
      (discovered <$> .required "records" (Json.list Record.decoder)
        <*> .required "cursor" Json.word64),
     Json.variant "sync_info" "struct variant RendezvousResponse::SyncInfo"
      (syncInfo <$> .required "endpoints" (Json.list Sync.Endpoint.decoder)),
     Json.variant "error" "struct variant RendezvousResponse::Error"
      (error <$> .required "status" Status.decoder <*> .required "message" Json.text)]

end Response

end Rendezvous.Discovery
