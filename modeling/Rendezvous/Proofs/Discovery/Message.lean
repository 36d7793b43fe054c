import Rendezvous.Discovery.Message
import Rendezvous.Proofs.Sync.Message

/-!
# Rendezvous.Proofs.Discovery.Message

What is said on a discovery stream is read back from its text, if its numbers fit 64 bits and
the addresses in it are read back from their texts.

* `Discovery.Request.Fits`, `Discovery.Request.decode_render`;
* `Discovery.Response.Fits`, `Discovery.Response.decode_render`.
-/

namespace Rendezvous.Discovery

open Json (Reads Fields)

theorem Status.reads_decoder (s : Status) (levels : Nat) :
    Reads levels Status.decoder (.text s.wireName) s := by
  refine Json.reads_choice ?_
  cases s <;> rfl

namespace Request

/-- The numbers of a request fit. -/
def Fits : Request → Prop
  | .register _ _ _ ttl => ∀ n ∈ ttl, n < 2 ^ 64
  | .unregister _ _ => True
  | .discover _ limit cursor => (∀ n ∈ limit, n < 2 ^ 64) ∧ cursor < 2 ^ 64
  | .syncInfo => True

theorem reads_decoder {r : Request} (h : r.Fits) : Reads 2 decoder r.toJson r := by
  cases r with
  | register ns peer addrs ttl =>
    have haddrs : Reads 1 (Json.list Json.text) (.array (addrs.map .text)) addrs :=
      Json.reads_list fun a _ => Json.reads_text 0 a
    have hdeep : (Json.Value.array (addrs.map .text)).nesting ≤ 1 :=
      Json.Value.nesting_array_le_iff.2 (List.forall_mem_map.2 fun _ _ => Nat.le_refl 0)
    have hns := Fields.reads_map register (Fields.reads_required "namespace" (Json.reads_text 1 ns))
    have hpeer := Fields.reads_seq hns (Fields.reads_required "peer" (Json.reads_text 1 peer))
      (by decide)
    have haddrs' := Fields.reads_seq hpeer (Fields.reads_optional "addrs" [] haddrs) (by decide)
    have hfields := Fields.reads_seq haddrs'
      (Fields.reads_optional "ttl" none (Json.reads_optionNat "u64" h)) (by decide)
    exact Json.reads_tagged "RendezvousRequest" rfl (by simp [Json.Asides, hdeep]) hfields
      (by decide) (.refl _)
  | unregister ns peer =>
    have hns := Fields.reads_map unregister
      (Fields.reads_required "namespace" (Json.reads_text 1 ns))
    exact Json.reads_tagged "RendezvousRequest" rfl (by simp [Json.Asides])
      (Fields.reads_seq hns (Fields.reads_required "peer" (Json.reads_text 1 peer)) (by decide))
      (by decide) (.refl _)
  | discover ns limit cursor =>
    have hns := Fields.reads_map discover
      (Fields.reads_optional "namespace" "" (Json.reads_text 1 ns))
    have hlimit := Fields.reads_seq hns
      (Fields.reads_optional "limit" none (Json.reads_optionNat "usize" h.1)) (by decide)
    exact Json.reads_tagged "RendezvousRequest" rfl (by simp [Json.Asides])
      (Fields.reads_seq hlimit (Fields.reads_optional "cursor" 0 (Json.reads_word64 1 h.2))
        (by decide)) (by decide) (.refl _)
  | syncInfo =>
    exact Json.reads_tagged "RendezvousRequest" rfl (by simp [Json.Asides])
      (Fields.reads_pure syncInfo) (by decide) (.refl _)

theorem plain_toJson {r : Request} (h : r.Fits) : r.toJson.Plain := by
  cases r with
  | register ns peer addrs ttl =>
    have haddrs : Json.PlainItems (addrs.map .text) :=
      Json.plainItems_iff.2 (List.forall_mem_map.2 fun _ _ => trivial)
    exact ⟨trivial, trivial, trivial, haddrs, Json.Value.plain_optionNat h, trivial⟩
  | unregister ns peer => exact ⟨trivial, trivial, trivial, trivial⟩
  | discover ns limit cursor =>
    exact ⟨trivial, trivial, Json.Value.plain_optionNat h.1, h.2, trivial⟩
  | syncInfo => exact ⟨trivial, trivial⟩

/-- **A request is read back from its text.** -/
theorem decode_render {r : Request} (h : r.Fits) :
    Json.decode decoder (Bytes.ofString r.toJson.render) = .ok r :=
  Json.decode_render (plain_toJson h) (reads_decoder h) (by decide)

end Request

namespace Response

/-- The numbers and addresses of a response are told in full. -/
def Fits : Response → Prop
  | .registered ttl => ttl < 2 ^ 64
  | .unregistered => True
  | .discovered records cursor => (∀ r ∈ records, r.Storable) ∧ cursor < 2 ^ 64
  | .syncInfo _ => True
  | .error _ _ => True

theorem reads_decoder {r : Response} (h : r.Fits) : Reads 4 decoder r.toJson r := by
  cases r with
  | registered ttl =>
    exact Json.reads_tagged "RendezvousResponse" rfl (by simp [Json.Asides])
      (Fields.reads_map registered (Fields.reads_required "ttl" (Json.reads_word64 3 h)))
      (by decide) (.refl _)
  | unregistered =>
    exact Json.reads_tagged "RendezvousResponse" rfl (by simp [Json.Asides])
      (Fields.reads_pure unregistered) (by decide) (.refl _)
  | discovered records cursor =>
    have hrecords :
        Reads 3 (Json.list Record.decoder) (.array (records.map Record.toJson)) records :=
      Json.reads_list fun r hr => Record.reads_decoder (h.1 r hr)
    have hdeep : (Json.Value.array (records.map Record.toJson)).nesting ≤ 3 :=
      Json.Value.nesting_array_le_iff.2 (List.forall_mem_map.2 fun r _ => r.nesting_toJson_le)
    have hfirst := Fields.reads_map discovered (Fields.reads_required "records" hrecords)
    exact Json.reads_tagged "RendezvousResponse" rfl (by simp [Json.Asides, hdeep])
      (Fields.reads_seq hfirst (Fields.reads_required "cursor" (Json.reads_word64 3 h.2))
        (by decide)) (by decide) (.refl _)
  | syncInfo endpoints =>
    have hendpoints : Reads 3 (Json.list Sync.Endpoint.decoder)
        (.array (endpoints.map Sync.Endpoint.toJson)) endpoints :=
      Json.reads_list fun e _ => e.reads_decoder.mono (by decide)
    have hdeep : (Json.Value.array (endpoints.map Sync.Endpoint.toJson)).nesting ≤ 3 :=
      Json.Value.nesting_array_le_iff.2
        (List.forall_mem_map.2 fun e _ => e.nesting_toJson.trans_le (by decide))
    exact Json.reads_tagged "RendezvousResponse" rfl (by simp [Json.Asides, hdeep])
      (Fields.reads_map syncInfo (Fields.reads_required "endpoints" hendpoints))
      (by decide) (.refl _)
  | error status message =>
    have hstatus := Fields.reads_map error
      (Fields.reads_required "status" (status.reads_decoder 3))
    exact Json.reads_tagged "RendezvousResponse" rfl (by simp [Json.Asides])
      (Fields.reads_seq hstatus (Fields.reads_required "message" (Json.reads_text 3 message))
        (by decide)) (by decide) (.refl _)

theorem plain_toJson {r : Response} (h : r.Fits) : r.toJson.Plain := by
  cases r with
  | registered ttl => exact ⟨trivial, h, trivial⟩
  | unregistered => exact ⟨trivial, trivial⟩
  | discovered records cursor =>
    have hrecords : Json.PlainItems (records.map Record.toJson) :=
      Json.plainItems_iff.2 (List.forall_mem_map.2 fun r hr => Record.plain_toJson (h.1 r hr))
    exact ⟨trivial, hrecords, h.2, trivial⟩
  | syncInfo endpoints =>
    have hendpoints : Json.PlainItems (endpoints.map Sync.Endpoint.toJson) :=
      Json.plainItems_iff.2 (List.forall_mem_map.2 fun e _ => e.plain_toJson)
    exact ⟨trivial, hendpoints, trivial⟩
  | error status message => exact ⟨trivial, trivial, trivial, trivial⟩

/-- **A response is read back from its text.** -/
theorem decode_render {r : Response} (h : r.Fits) :
    Json.decode decoder (Bytes.ofString r.toJson.render) = .ok r :=
  Json.decode_render (plain_toJson h) (reads_decoder h) (by decide)

end Response

end Rendezvous.Discovery
