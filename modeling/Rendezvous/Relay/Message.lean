import Rendezvous.Peer.Id
import Rendezvous.Relay.CircuitId
import Rendezvous.Store.Record

/-!
# Rendezvous.Relay.Message

What is said on a relay stream before bytes are carried. A target reserves and keeps its
stream open; an initiator asks to be connected to a target; the target hears of it on its
stream and accepts on a new one; both are told that they are connected.

* `Relay.Request`, `Relay.Response`, `Relay.ErrorCode`, with their JSON forms.
-/

namespace Rendezvous.Relay

/-- The name under which the relay is asked for. -/
def protocol : String := "/rdvp/relay/1.0.0"

/-- What a peer asks of the relay. -/
inductive Request where
  /-- To be reachable through the relay. -/
  | reserve (peer : PeerId)
  /-- To be connected to a peer that has reserved. -/
  | connect (peer target : PeerId)
  /-- To take part in a circuit that was announced. -/
  | accept (circuit : CircuitId)
deriving DecidableEq

/-- Why the relay refuses. -/
inductive ErrorCode where
  | noReservation
  | resourceLimitExceeded
  | unknownCircuit
  | timeout
  | malformed
  | unavailable
deriving Repr, DecidableEq, Inhabited

/-- What the relay answers. -/
inductive Response where
  | reserved
  /-- Someone wants to be connected to the peer that reserved. -/
  | incoming (circuit : CircuitId) (peer : PeerId)
  | connected (circuit : CircuitId)
  | error (code : ErrorCode) (message : String)
deriving DecidableEq

namespace ErrorCode

/-- The word for a code on the wire. -/
def wireName : ErrorCode → String
  | .noReservation => "no_reservation"
  | .resourceLimitExceeded => "resource_limit_exceeded"
  | .unknownCircuit => "unknown_circuit"
  | .timeout => "timeout"
  | .malformed => "malformed"
  | .unavailable => "unavailable"

/-- The word for a code in messages. -/
def debug : ErrorCode → String
  | .noReservation => "NoReservation"
  | .resourceLimitExceeded => "ResourceLimitExceeded"
  | .unknownCircuit => "UnknownCircuit"
  | .timeout => "Timeout"
  | .malformed => "Malformed"
  | .unavailable => "Unavailable"

/-- All codes. -/
def all : List ErrorCode :=
  [.noReservation, .resourceLimitExceeded, .unknownCircuit, .timeout, .malformed, .unavailable]

/-- Reads a code. -/
def decoder : Json.Decoder ErrorCode := Json.choice (all.map fun c => (c.wireName, c))

end ErrorCode

namespace Request

/-- The JSON form of a request. -/
def toJson : Request → Json.Value
  | .reserve peer => .object [("type", .text "reserve"), ("peer", peer.toJson)]
  | .connect peer target =>
    .object [("type", .text "connect"), ("peer", peer.toJson), ("target", target.toJson)]
  | .accept circuit => .object [("type", .text "accept"), ("circuit", circuit.toJson)]

/-- Reads a request. -/
def decoder : Json.Decoder Request :=
  Json.tagged "RelayRequest" "type"
    [Json.variant "reserve" "struct variant RelayRequest::Reserve"
      (reserve <$> .required "peer" PeerId.decoder),
     Json.variant "connect" "struct variant RelayRequest::Connect"
      (connect <$> .required "peer" PeerId.decoder <*> .required "target" PeerId.decoder),
     Json.variant "accept" "struct variant RelayRequest::Accept"
      (accept <$> .required "circuit" CircuitId.decoder)]

end Request

namespace Response

/-- The JSON form of a response. -/
def toJson : Response → Json.Value
  | .reserved => .object [("type", .text "reserved")]
  | .incoming circuit peer =>
    .object [("type", .text "incoming"), ("circuit", circuit.toJson), ("from", peer.toJson)]
  | .connected circuit => .object [("type", .text "connected"), ("circuit", circuit.toJson)]
  | .error code message =>
    .object [("type", .text "error"), ("code", .text code.wireName), ("message", .text message)]

/-- Reads a response. -/
def decoder : Json.Decoder Response :=
  Json.tagged "RelayResponse" "type"
    [Json.variant "reserved" "unit variant" (.pure .reserved),
     Json.variant "incoming" "struct variant RelayResponse::Incoming"
      (incoming <$> .required "circuit" CircuitId.decoder <*> .required "from" PeerId.decoder),
     Json.variant "connected" "struct variant RelayResponse::Connected"
      (connected <$> .required "circuit" CircuitId.decoder),
     Json.variant "error" "struct variant RelayResponse::Error"
      (error <$> .required "code" ErrorCode.decoder <*> .required "message" Json.text)]

end Response

end Rendezvous.Relay
