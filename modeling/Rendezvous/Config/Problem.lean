import Rendezvous.Config.Basic
import Rendezvous.Address.List
import Rendezvous.Url.Socket

/-!
# Rendezvous.Config.Problem

What can be wrong with the settings of a node.

* `ConfigProblem`: a setting and what is wrong with it;
* `NodeConfig.problems`: all that is wrong, in a fixed order.
-/

namespace Rendezvous

/-- The settings that are checked. -/
inductive Setting where
  | listen
  | announce
  | maxConnections
  | location
  | maxTtl
  | sweepInterval
  | emitterServer
  | emitterQueue
  | emitterMandatory
  | relayMaxCircuits
  | relayMaxData
  | relayMaxDuration
  | metrics
deriving Repr, DecidableEq

/-- The flag that gives a setting. -/
def Setting.flag : Setting → String
  | .listen => "listen"
  | .announce => "announce"
  | .maxConnections => "max-connections"
  | .location => "db"
  | .maxTtl => "max-ttl"
  | .sweepInterval => "sweep-interval"
  | .emitterServer => "emitter-server"
  | .emitterQueue => "emitter-queue"
  | .emitterMandatory => "emitter-mandatory"
  | .relayMaxCircuits => "relay-max-circuits"
  | .relayMaxData => "relay-max-data"
  | .relayMaxDuration => "relay-max-duration"
  | .metrics => "metrics"

/-- What is wrong with a setting. -/
inductive SettingFault where
  | noAddress
  | badAddress (cause : AddressListError)
  | zero
  | blank
  | badServer (cause : SocketUrl.ServerError)
  /-- A broker is demanded, but none is given. -/
  | noBroker
  | notHostPort (text : String)
deriving Repr, DecidableEq

/-- The wording of a fault. -/
def SettingFault.message : SettingFault → String
  | .noAddress => "at least one address is required"
  | .badAddress cause => cause.message
  | .zero => "must be greater than 0"
  | .blank => "must not be empty"
  | .badServer cause => cause.message
  | .noBroker => "requires emitter-server and emitter-admin-key"
  | .notHostPort text => "'" ++ text ++ "' is not host:port"

/-- A setting and what is wrong with it. -/
structure ConfigProblem where
  setting : Setting
  fault : SettingFault
deriving Repr, DecidableEq

/-- The wording of a problem. -/
def ConfigProblem.message (p : ConfigProblem) : String :=
  p.setting.flag ++ ": " ++ p.fault.message

/-- The wording of all problems together. -/
def ConfigProblem.summary (ps : List ConfigProblem) : String :=
  "invalid configuration: " ++ String.intercalate ", " (ps.map ConfigProblem.message)

/-- A problem, if a condition holds. -/
def problemIf (bad : Bool) (setting : Setting) (fault : SettingFault) : List ConfigProblem :=
  if bad then [⟨setting, fault⟩] else []

namespace NetworkConfig

/-- What is wrong with the addresses and the number of connections. -/
def problems (c : NetworkConfig) : List ConfigProblem :=
  (match Multiaddr.parseList c.listen with
    | .ok addrs => problemIf addrs.isEmpty .listen .noAddress
    | .error e => [⟨.listen, .badAddress e⟩])
  ++ (match Multiaddr.parseList c.announce with
    | .ok _ => []
    | .error e => [⟨.announce, .badAddress e⟩])
  ++ problemIf (c.maxConnections == 0) .maxConnections .zero

end NetworkConfig

namespace StoreConfig

/-- What is wrong with the store. -/
def problems (c : StoreConfig) : List ConfigProblem :=
  problemIf (Text.allBlank c.location) .location .blank
  ++ problemIf (c.maxTtlSecs == 0) .maxTtl .zero
  ++ problemIf (c.sweepIntervalSecs == 0) .sweepInterval .zero

end StoreConfig

namespace EmitterConfig

/-- What is wrong with the broker. -/
def problems (c : EmitterConfig) : List ConfigProblem :=
  if c.isEnabled then
    (match c.server.map SocketUrl.ofServer with
      | some (.error e) => [⟨.emitterServer, .badServer e⟩]
      | _ => [])
    ++ problemIf (c.queueCapacity == 0) .emitterQueue .zero
  else problemIf c.mandatory .emitterMandatory .noBroker

end EmitterConfig

namespace RelayConfig

/-- What is wrong with the limits. -/
def problems (c : RelayConfig) : List ConfigProblem :=
  problemIf (c.maxCircuits == some 0) .relayMaxCircuits .zero
  ++ problemIf (c.maxDataBytes == some 0) .relayMaxData .zero
  ++ problemIf (c.maxDurationSecs == some 0) .relayMaxDuration .zero

end RelayConfig

namespace MetricsConfig

/-- What is wrong with the place where metrics are served. -/
def problems (c : MetricsConfig) : List ConfigProblem :=
  match c.listen with
  | none => []
  | some text =>
    problemIf (Text.allBlank text || !text.toList.contains ':') .metrics (.notHostPort text)

end MetricsConfig

namespace NodeConfig

/-- All that is wrong with the settings. -/
def problems (c : NodeConfig) : List ConfigProblem :=
  c.network.problems ++ c.store.problems ++ c.emitter.problems ++ c.relay.problems
    ++ c.metrics.problems

end NodeConfig

end Rendezvous
