import Rendezvous.Proofs.Relay.CircuitId
import Rendezvous.Proofs.Store.Record
import Rendezvous.Relay.Message

/-!
# Rendezvous.Proofs.Relay.Message

What is said on a relay stream is read back from its text, if the names of circuits in it have
128 bits.

* `Relay.Request.Fits`, `Relay.Request.decode_render`;
* `Relay.Response.Fits`, `Relay.Response.decode_render`.
-/

namespace Rendezvous

open Json (Reads Fields)

/-- The name of a circuit has 128 bits. -/
def CircuitId.Fits (c : CircuitId) : Prop := c.value < 2 ^ 128

theorem CircuitId.reads_decoder {c : CircuitId} (h : c.Fits) (levels : Nat) :
    Reads levels CircuitId.decoder c.toJson c := by
  refine Json.reads_parsedText ?_
  rw [CircuitId.parse_toText h]
  rfl

namespace Relay

theorem ErrorCode.reads_decoder (c : ErrorCode) (levels : Nat) :
    Reads levels ErrorCode.decoder (.text c.wireName) c := by
  refine Json.reads_choice ?_
  cases c <;> rfl

namespace Request

/-- The name of the circuit fits. -/
def Fits : Request → Prop
  | .reserve _ => True
  | .connect _ _ => True
  | .accept circuit => circuit.Fits

theorem reads_decoder {r : Request} (h : r.Fits) : Reads 1 decoder r.toJson r := by
  cases r with
  | reserve peer =>
    exact Json.reads_tagged "RelayRequest" rfl (by simp [Json.Asides, PeerId.toJson])
      (Fields.reads_map reserve (Fields.reads_required "peer" (peer.reads_decoder 0)))
      (by decide) (.refl _)
  | connect peer target =>
    have hpeer := Fields.reads_map connect (Fields.reads_required "peer" (peer.reads_decoder 0))
    exact Json.reads_tagged "RelayRequest" rfl (by simp [Json.Asides, PeerId.toJson])
      (Fields.reads_seq hpeer (Fields.reads_required "target" (target.reads_decoder 0))
        (by decide)) (by decide) (.refl _)
  | accept circuit =>
    exact Json.reads_tagged "RelayRequest" rfl (by simp [Json.Asides, CircuitId.toJson])
      (Fields.reads_map accept
        (Fields.reads_required "circuit" (CircuitId.reads_decoder h 0)))
      (by decide) (.refl _)

theorem plain_toJson (r : Request) : r.toJson.Plain := by
  cases r with
  | reserve peer => exact ⟨trivial, trivial, trivial⟩
  | connect peer target => exact ⟨trivial, trivial, trivial, trivial⟩
  | accept circuit => exact ⟨trivial, trivial, trivial⟩

/-- **A request is read back from its text.** -/
theorem decode_render {r : Request} (h : r.Fits) :
    Json.decode decoder (Bytes.ofString r.toJson.render) = .ok r :=
  Json.decode_render r.plain_toJson (reads_decoder h) (by decide)

end Request

namespace Response

/-- The name of the circuit fits. -/
def Fits : Response → Prop
  | .reserved => True
  | .incoming circuit _ => circuit.Fits
  | .connected circuit => circuit.Fits
  | .error _ _ => True

theorem reads_decoder {r : Response} (h : r.Fits) : Reads 1 decoder r.toJson r := by
  cases r with
  | reserved =>
    exact Json.reads_tagged "RelayResponse" rfl (by simp [Json.Asides])
      (Fields.reads_pure reserved) (by decide) (.refl _)
  | incoming circuit peer =>
    have hcircuit := Fields.reads_map incoming
      (Fields.reads_required "circuit" (CircuitId.reads_decoder h 0))
    exact Json.reads_tagged "RelayResponse" rfl
      (by simp [Json.Asides, CircuitId.toJson, PeerId.toJson])
      (Fields.reads_seq hcircuit (Fields.reads_required "from" (peer.reads_decoder 0))
        (by decide)) (by decide) (.refl _)
  | connected circuit =>
    exact Json.reads_tagged "RelayResponse" rfl (by simp [Json.Asides, CircuitId.toJson])
      (Fields.reads_map connected
        (Fields.reads_required "circuit" (CircuitId.reads_decoder h 0)))
      (by decide) (.refl _)
  | error code message =>
    have hcode := Fields.reads_map error (Fields.reads_required "code" (code.reads_decoder 0))
    exact Json.reads_tagged "RelayResponse" rfl (by simp [Json.Asides])
      (Fields.reads_seq hcode (Fields.reads_required "message" (Json.reads_text 0 message))
        (by decide)) (by decide) (.refl _)

theorem plain_toJson (r : Response) : r.toJson.Plain := by
  cases r with
  | reserved => exact ⟨trivial, trivial⟩
  | incoming circuit peer => exact ⟨trivial, trivial, trivial, trivial⟩
  | connected circuit => exact ⟨trivial, trivial, trivial⟩
  | error code message => exact ⟨trivial, trivial, trivial, trivial⟩

/-- **A response is read back from its text.** -/
theorem decode_render {r : Response} (h : r.Fits) :
    Json.decode decoder (Bytes.ofString r.toJson.render) = .ok r :=
  Json.decode_render r.plain_toJson (reads_decoder h) (by decide)

end Response

end Relay

end Rendezvous
