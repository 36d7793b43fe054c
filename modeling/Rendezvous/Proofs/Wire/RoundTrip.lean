import Rendezvous.Proofs.Address.List
import Rendezvous.Proofs.Discovery.Message
import Rendezvous.Proofs.Relay.Message
import Rendezvous.Proofs.Sync.Delivery

/-!
# Rendezvous.Proofs.Wire.RoundTrip

Whatever nodes say to peers, to each other and to their broker comes back from its text, and
what one node tells of a change reaches the others as that change, and never the node itself.

* `Wire.RoundTrips`: a message that comes back from its text;
* `Wire.messages_round_trip`.
-/

namespace Rendezvous.Wire

/-- A value comes back from the text of its JSON form. -/
def RoundTrips {α : Type} (toJson : α → Json.Value) (decoder : Json.Decoder α) (a : α) : Prop :=
  Json.decode decoder (Bytes.ofString (toJson a).render) = .ok a

theorem roundTrips_event {e : Sync.Event} (h : e.record.Storable) :
    RoundTrips Sync.Event.toJson Sync.Event.decoder e :=
  Json.decode_render (Sync.Event.plain_toJson h) (Sync.Event.reads_decoder h) (by decide)

/-- **Messages come back from their texts.** Numbers have to fit 64 bits and the names of
circuits 128, addresses must come back from their own texts, and what a broker's message
carries is a tree of tables without fractions, nested less than 100 deep. Such a message comes
back just if no table in what it carries begins with the key of a kept text. A driver that hands
on what it hears hands on an event just once, as it was told, and one that told it never. -/
theorem messages_round_trip :
    (∀ r : Discovery.Request, r.Fits →
      RoundTrips Discovery.Request.toJson Discovery.Request.decoder r) ∧
    (∀ r : Discovery.Response, r.Fits →
      RoundTrips Discovery.Response.toJson Discovery.Response.decoder r) ∧
    (∀ r : Relay.Request, r.Fits → RoundTrips Relay.Request.toJson Relay.Request.decoder r) ∧
    (∀ r : Relay.Response, r.Fits → RoundTrips Relay.Response.toJson Relay.Response.decoder r) ∧
    (∀ e : Sync.Event, e.record.Storable →
      RoundTrips Sync.Event.toJson Sync.Event.decoder e) ∧
    (∀ r : Record, r.Storable → RoundTrips Record.toJson Record.decoder r) ∧
    (∀ f : Sync.Frame, f.Fits → (Sync.Frame.read f.render = .ok f ↔ f.Literal)) ∧
    ∀ (b : Sync.Broker) (e : Sync.Event), e.record.Storable →
      (e.origin = b.config.origin → b.hear e.message.render = b) ∧
      (e.origin ≠ b.config.origin → b.subscribed = true →
        b.hear e.message.render = { b with handled := b.handled ++ [e] }) := by
  refine ⟨fun _ => Discovery.Request.decode_render, fun _ => Discovery.Response.decode_render,
    fun _ => Relay.Request.decode_render, fun _ => Relay.Response.decode_render,
    fun _ => roundTrips_event, fun _ => Record.decode_render,
    fun _ => Sync.Frame.read_render_iff, fun b e h => ?_⟩
  rw [b.hear_message h]
  exact ⟨fun horigin => if_neg fun hother => hother.1 horigin,
    fun horigin hsubscribed => if_pos ⟨horigin, hsubscribed⟩⟩

/-- A registration with an address, in a namespace whose name has to be escaped. -/
def quotedRecord : Record :=
  ⟨"say \"hi\\\n\x01é", default, [[.ip4 ⟨0x0A000001⟩, .port .tcp 4001]], 2 ^ 64 - 1, 7⟩

theorem quotedRecord_storable : quotedRecord.Storable where
  addrs a ha := by
    obtain rfl := List.mem_singleton.1 ha
    rw [Multiaddr.Readable, Multiaddr.parse_eq]
    decide +kernel
  expiresAt := by decide
  seq := by decide

/-- A driver that hands on what it hears. -/
def listening (origin : String) : Sync.Broker :=
  { Sync.Broker.fresh (.usual "broker" "key" origin) default with subscribed := true }

theorem messages_round_trip_quoted :
    RoundTrips Discovery.Request.toJson Discovery.Request.decoder
      (.discover "say \"hi\\\n\x01é" none (2 ^ 64 - 1)) ∧
    RoundTrips Discovery.Response.toJson Discovery.Response.decoder
      (.discovered [quotedRecord, quotedRecord] 7) ∧
    RoundTrips Relay.Request.toJson Relay.Request.decoder (.accept ⟨2 ^ 128 - 1⟩) ∧
    RoundTrips Relay.Response.toJson Relay.Response.decoder (.incoming ⟨0⟩ default) ∧
    RoundTrips Sync.Event.toJson Sync.Event.decoder (.remove "here" quotedRecord) ∧
    RoundTrips Record.toJson Record.decoder quotedRecord ∧
    Sync.Frame.read (Sync.Frame.publish "c" (.object [("a", .array []), ("b", .null)])).render
      = .ok (.publish "c" (.object [("a", .array []), ("b", .null)])) ∧
    (listening "here").hear (Sync.Event.upsert "here" quotedRecord).message.render
      = listening "here" ∧
    ((listening "there").hear (Sync.Event.upsert "here" quotedRecord).message.render).handled
      = [.upsert "here" quotedRecord] := by
  obtain ⟨hrequest, hresponse, hask, hanswer, hevent, hrecord, hframe, hhear⟩ :=
    messages_round_trip
  have hown := (hhear (listening "here") (.upsert "here" quotedRecord) quotedRecord_storable).1 rfl
  have hother := (hhear (listening "there") (.upsert "here" quotedRecord)
    quotedRecord_storable).2 (by decide) rfl
  have hmost : CircuitId.Fits ⟨2 ^ 128 - 1⟩ := show 2 ^ 128 - 1 < 2 ^ 128 by decide
  have hleast : CircuitId.Fits ⟨0⟩ := show 0 < 2 ^ 128 by decide
  refine ⟨hrequest _ ⟨nofun, by decide⟩, hresponse _ ⟨?_, by decide⟩, hask _ hmost,
    hanswer _ hleast, hevent _ quotedRecord_storable, hrecord _ quotedRecord_storable,
    (hframe _ ?_).2 ?_, hown, ?_⟩
  · intro r hr
    obtain rfl : r = quotedRecord := by simpa using hr
    exact quotedRecord_storable
  · rintro _ ⟨⟩
    have hkeys : Json.Ascending [("a", .array []), ("b", .null)] := by
      simpa [Json.Ascending] using (by decide : "a" < "b")
    exact ⟨⟨trivial, trivial, trivial⟩, ⟨hkeys, trivial, trivial, trivial⟩, by decide⟩
  · rintro _ ⟨⟩
    refine ⟨?_, trivial, trivial, trivial⟩
    rintro _ ⟨⟩
    decide
  · rw [hother]
    rfl

/-- A message that carries a table whose only key is that of a kept text. -/
def keptMessage : Sync.Frame := .message "c" (.object [(Json.keptKey, .text "1")])

/-- It comes back with the number in the text in place of the table. -/
theorem messages_round_trip_kept :
    keptMessage.Fits ∧ Sync.Frame.read keptMessage.render = .ok (.message "c" (.nat 1)) ∧
    Sync.Frame.read keptMessage.render ≠ .ok keptMessage := by
  have hone : Json.decode Json.anything (Bytes.ofString "1") = .ok (.nat 1) :=
    Json.decode_render (show (Json.Value.nat 1).Plain from show 1 < 2 ^ 64 by decide)
      (Json.reads_anything trivial (Nat.le_refl 0)) (by decide)
  have hread : Sync.Frame.read keptMessage.render = .ok (.message "c" (.nat 1)) :=
    Sync.Frame.read_render_kept "c" hone
  refine ⟨?_, hread, ?_⟩
  · rintro _ ⟨⟩
    exact ⟨⟨trivial, trivial⟩, ⟨List.pairwise_singleton _ _, trivial, trivial⟩, by decide⟩
  · rw [hread]
    nofun

end Rendezvous.Wire
