import Rendezvous.Retry.Policy
import Rendezvous.Store.Record
import Rendezvous.Text.Quoted
import Rendezvous.Text.Blank

/-!
# Rendezvous.Config.Basic

The settings of a node. Everything has a usual value, so that nothing need be given.

* `NodeConfig` and its sections;
* `NodeConfig.decoder`, `NodeConfig.toJson`: the JSON form. Secrets are read from it but not
  written to it.
-/

namespace Rendezvous

/-- Where a node listens, and what it says of where it is. -/
structure NetworkConfig where
  /-- Addresses to listen on, with commas between them. -/
  listen : String
  /-- Addresses to announce in place of those. -/
  announce : String
  /-- Connections at one time, for each listener. -/
  maxConnections : Nat
deriving Repr, DecidableEq, Inhabited

/-- The key of a node; a new one is made if there is none. -/
structure IdentityConfig where
  privateKey : Option String
deriving Repr, DecidableEq, Inhabited

/-- The record store. -/
structure StoreConfig where
  location : String
  maxTtlSecs : Nat
  sweepIntervalSecs : Nat
deriving Repr, DecidableEq, Inhabited

/-- The broker. -/
structure EmitterConfig where
  server : Option String
  adminKey : Option String
  /-- What clients are told in place of the server. -/
  publicAddr : Option String
  /-- Whether the node is to end when the broker cannot be reached. -/
  mandatory : Bool
  connectTimeoutSecs : Nat
  /-- Events kept while the broker is slow or away. -/
  queueCapacity : Nat
  retry : RetryPolicy
deriving Repr, DecidableEq, Inhabited

/-- The limits of the relay; none where nothing is given. -/
structure RelayConfig where
  maxCircuits : Option Nat
  /-- Bytes for each circuit, both directions together. -/
  maxDataBytes : Option Nat
  maxDurationSecs : Option Nat
deriving Repr, DecidableEq, Inhabited

/-- Where the metrics are served, if at all. -/
structure MetricsConfig where
  listen : Option String
deriving Repr, DecidableEq, Inhabited

/-- All settings of a node. -/
structure NodeConfig where
  network : NetworkConfig
  identity : IdentityConfig
  store : StoreConfig
  emitter : EmitterConfig
  relay : RelayConfig
  metrics : MetricsConfig
deriving Repr, DecidableEq, Inhabited

/-- The text of an optional text in messages. -/
def optionDebug : Option String → String
  | none => "None"
  | some s => "Some(" ++ Text.quoted s ++ ")"

/-- The same for a secret, which is not shown. -/
def secretDebug (s : Option String) : String := optionDebug (s.map fun _ => "<redacted>")

namespace NetworkConfig

/-- The addresses to listen on when none are given. -/
def usualListen : String := "/ip4/0.0.0.0/tcp/4040,/ip4/0.0.0.0/udp/4141/quic"

/-- The usual settings. -/
def usual : NetworkConfig := ⟨usualListen, "", 10000⟩

/-- Reads the section. -/
def decoder : Json.Decoder NetworkConfig :=
  Json.record "struct NetworkConfig"
    (NetworkConfig.mk <$> .optional "listen" Json.text usual.listen
      <*> .optional "announce" Json.text usual.announce
      <*> .optional "max_connections" Json.size64 usual.maxConnections)

/-- The JSON form. -/
def toJson (c : NetworkConfig) : Json.Value :=
  .object [("listen", .text c.listen), ("announce", .text c.announce),
    ("max_connections", .nat c.maxConnections)]

end NetworkConfig

namespace IdentityConfig

/-- The usual settings. -/
def usual : IdentityConfig := ⟨none⟩

/-- Reads the section. -/
def decoder : Json.Decoder IdentityConfig :=
  Json.record "struct IdentityConfig"
    (IdentityConfig.mk <$> .optional "private_key" (Json.option Json.text) none)

/-- The JSON form, without the key. -/
def toJson (_c : IdentityConfig) : Json.Value := .object []

/-- The text in messages, without the key. -/
def debug (c : IdentityConfig) : String :=
  "IdentityConfig \x7b private_key: " ++ secretDebug c.privateKey ++ " \x7d"

end IdentityConfig

namespace StoreConfig

/-- The usual settings: in memory, registrations of up to three days, a sweep every half
minute. -/
def usual : StoreConfig := ⟨":memory:", 259200, 30⟩

/-- Reads the section. -/
def decoder : Json.Decoder StoreConfig :=
  Json.record "struct StoreConfig"
    (StoreConfig.mk <$> .optional "location" Json.text usual.location
      <*> .optional "max_ttl_secs" Json.word64 usual.maxTtlSecs
      <*> .optional "sweep_interval_secs" Json.word64 usual.sweepIntervalSecs)

/-- The JSON form. -/
def toJson (c : StoreConfig) : Json.Value :=
  .object [("location", .text c.location), ("max_ttl_secs", .nat c.maxTtlSecs),
    ("sweep_interval_secs", .nat c.sweepIntervalSecs)]

/-- The longest registration. -/
def maxTtl (c : StoreConfig) : Duration := .ofSecs c.maxTtlSecs

end StoreConfig

namespace EmitterConfig

/-- The usual settings: no broker. -/
def usual : EmitterConfig :=
  { server := none, adminKey := none, publicAddr := none, mandatory := false,
    connectTimeoutSecs := 10, queueCapacity := 1024, retry := ⟨5, 500, 10000⟩ }

/-- Whether there is a broker: both the server and the key are given. -/
def isEnabled (c : EmitterConfig) : Bool :=
  (c.server.any fun s => !s.isEmpty) && (c.adminKey.any fun k => !k.isEmpty)

/-- Reads the section. -/
def decoder : Json.Decoder EmitterConfig :=
  Json.record "struct EmitterConfig"
    (EmitterConfig.mk <$> .optional "server" (Json.option Json.text) usual.server
      <*> .optional "admin_key" (Json.option Json.text) usual.adminKey
      <*> .optional "public_addr" (Json.option Json.text) usual.publicAddr
      <*> .optional "mandatory" Json.flag usual.mandatory
      <*> .optional "connect_timeout_secs" Json.word64 usual.connectTimeoutSecs
      <*> .optional "queue_capacity" Json.size64 usual.queueCapacity
      <*> .optional "retry" RetryPolicy.decoder usual.retry)

/-- The JSON form, without the key. -/
def toJson (c : EmitterConfig) : Json.Value :=
  .object [("server", .optionText c.server), ("public_addr", .optionText c.publicAddr),
    ("mandatory", .bool c.mandatory), ("connect_timeout_secs", .nat c.connectTimeoutSecs),
    ("queue_capacity", .nat c.queueCapacity), ("retry", c.retry.toJson)]

/-- The text in messages, without the key. -/
def debug (c : EmitterConfig) : String :=
  "EmitterConfig \x7b server: " ++ optionDebug c.server
    ++ ", admin_key: " ++ secretDebug c.adminKey
    ++ ", public_addr: " ++ optionDebug c.publicAddr
    ++ ", mandatory: " ++ toString c.mandatory
    ++ ", connect_timeout_secs: " ++ toString c.connectTimeoutSecs
    ++ ", queue_capacity: " ++ toString c.queueCapacity
    ++ ", retry: " ++ c.retry.debug ++ " \x7d"

end EmitterConfig

namespace RelayConfig

/-- The usual settings: no limits. -/
def usual : RelayConfig := ⟨none, none, none⟩

/-- Reads the section. -/
def decoder : Json.Decoder RelayConfig :=
  Json.record "struct RelayConfig"
    (RelayConfig.mk <$> .optional "max_circuits" (Json.option Json.size64) none
      <*> .optional "max_data_bytes" (Json.option Json.word64) none
      <*> .optional "max_duration_secs" (Json.option Json.word64) none)

/-- The JSON form. -/
def toJson (c : RelayConfig) : Json.Value :=
  .object [("max_circuits", .optionNat c.maxCircuits),
    ("max_data_bytes", .optionNat c.maxDataBytes),
    ("max_duration_secs", .optionNat c.maxDurationSecs)]

end RelayConfig

namespace MetricsConfig

/-- The usual settings: not served. -/
def usual : MetricsConfig := ⟨none⟩

/-- Reads the section. -/
def decoder : Json.Decoder MetricsConfig :=
  Json.record "struct MetricsConfig"
    (MetricsConfig.mk <$> .optional "listen" (Json.option Json.text) none)

/-- The JSON form. -/
def toJson (c : MetricsConfig) : Json.Value := .object [("listen", .optionText c.listen)]

end MetricsConfig

namespace NodeConfig

/-- The usual settings. -/
def usual : NodeConfig := ⟨.usual, .usual, .usual, .usual, .usual, .usual⟩

/-- Reads the section that holds the broker. -/
def syncDecoder : Json.Decoder EmitterConfig :=
  Json.record "struct SyncConfig"
    (id <$> .optional "emitter" EmitterConfig.decoder EmitterConfig.usual)

/-- Reads all settings; what is missing is as usual. -/
def decoder : Json.Decoder NodeConfig :=
  Json.record "struct NodeConfig"
    (NodeConfig.mk <$> .optional "network" NetworkConfig.decoder .usual
      <*> .optional "identity" IdentityConfig.decoder .usual
      <*> .optional "store" StoreConfig.decoder .usual
      <*> .optional "sync" syncDecoder .usual
      <*> .optional "relay" RelayConfig.decoder .usual
      <*> .optional "metrics" MetricsConfig.decoder .usual)

/-- The JSON form. -/
def toJson (c : NodeConfig) : Json.Value :=
  .object [("network", c.network.toJson), ("identity", c.identity.toJson),
    ("store", c.store.toJson), ("sync", .object [("emitter", c.emitter.toJson)]),
    ("relay", c.relay.toJson), ("metrics", c.metrics.toJson)]

end NodeConfig

end Rendezvous
