import Rendezvous.Proofs.Json.Kept
import Rendezvous.Proofs.Json.Tells
import Rendezvous.Proofs.Store.Record
import Rendezvous.Sync.Broker

/-!
# Rendezvous.Proofs.Sync.Message

What nodes and their broker say to each other is read back from its text. An event that is
carried by a message has its members in the order of their keys, and is heard as it was told.

* `Sync.Endpoint.reads_decoder`, `Sync.Event.reads_members`, `Sync.Frame.reads_decoder`;
* `Sync.Frame.Fits`, `Sync.Frame.read_render_iff`: messages, and which of them their text tells;
* `Sync.Broker.hear_message`: what a driver makes of the message that carries an event.
-/

namespace Rendezvous.Sync

open Json (Reads Fields)

theorem Endpoint.reads_decoder (e : Endpoint) : Reads 1 Endpoint.decoder e.toJson e := by
  refine Json.reads_record _ ?_
  have hdriver := Fields.reads_map Endpoint.mk
    (Fields.reads_required "driver" (Json.reads_text 0 e.driver))
  exact Fields.reads_seq hdriver (Fields.reads_required "url" (Json.reads_text 0 e.url))
    (by decide)

theorem Endpoint.plain_toJson (e : Endpoint) : e.toJson.Plain := ⟨trivial, trivial, trivial⟩

theorem Endpoint.nesting_toJson (e : Endpoint) : e.toJson.nesting = 1 := rfl

/-! ### Events -/

namespace Event

/-- An event is read from its members in whatever order they stand, its record in any form that
is read as it. -/
theorem reads_members {e : Event} {record : Json.Value}
    (hrecord : Reads 2 Record.decoder record e.record) (hdeep : record.nesting ≤ 2)
    {members : List (String × Json.Value)}
    (hperm : members.Perm [("kind", .text e.kind), ("origin", .text e.origin),
      ("record", record)]) : Reads 3 decoder (.object members) e := by
  have hasides : Json.Asides 2 "kind" [("origin", .text e.origin), ("record", record)] := by
    simp [Json.Asides, hdeep]
  have horigin := Fields.reads_required "origin" (Json.reads_text 2 e.origin)
  have hfield := Fields.reads_required "record" hrecord
  cases e with
  | upsert origin r =>
    exact Json.reads_tagged "SyncEvent" rfl hasides
      (Fields.reads_seq (Fields.reads_map upsert horigin) hfield (by decide)) (by decide) hperm
  | remove origin r =>
    exact Json.reads_tagged "SyncEvent" rfl hasides
      (Fields.reads_seq (Fields.reads_map remove horigin) hfield (by decide)) (by decide) hperm

variable {e : Event}

theorem reads_decoder (h : e.record.Storable) : Reads 3 decoder e.toJson e :=
  reads_members (Record.reads_decoder h) e.record.nesting_toJson_le (.refl _)

theorem plain_toJson (h : e.record.Storable) : e.toJson.Plain :=
  ⟨trivial, trivial, Record.plain_toJson h, trivial⟩

/-- What a message carries of an event is read as the event. -/
theorem reads_payload (h : e.record.Storable) : Reads 3 decoder e.payload e := by
  -- The keys are put in order, but members are read wherever they stand.
  refine reads_members (Record.reads_canonical h)
    ((Json.Value.nesting_canonical_le _).trans e.record.nesting_toJson_le) ?_
  show (Json.sortMembers [("kind", .text e.kind), ("origin", .text e.origin),
    ("record", e.record.toJson.canonical)]).Perm _
  refine Json.sortMembers_perm ?_
  show ["kind", "origin", "record"].Nodup
  decide

/-- What a message carries of an event stands for nothing else. -/
theorem literal_payload (e : Event) : e.payload.Literal := by
  have haddrs : Json.LiteralItems (Json.canonicalItems (e.record.addrs.map Multiaddr.toJson)) := by
    have hordered : Json.OrderedItems (e.record.addrs.map Multiaddr.toJson) :=
      Json.orderedItems_iff.2 (List.forall_mem_map.2 fun _ _ => trivial)
    rw [Json.canonicalItems_eq hordered]
    exact Json.literalItems_iff.2 (List.forall_mem_map.2 fun _ _ => trivial)
  have hrecord : e.record.toJson.canonical.Literal :=
    Json.literal_canonical_object (show _ ∉ ["namespace", "peer", "addrs", "expires_at", "seq"]
      by decide) ⟨trivial, trivial, haddrs, trivial, trivial, trivial⟩
  exact Json.literal_canonical_object (show _ ∉ ["kind", "origin", "record"] by decide)
    ⟨trivial, trivial, hrecord, trivial⟩

end Event

/-! ### Messages -/

namespace Frame

/-- What a message carries. -/
def payload? : Frame → Option Json.Value
  | .publish _ payload | .message _ payload => some payload
  | .auth _ _ | .ack | .error _ | .subscribe _ => none

/-- What a message carries is a tree of tables without fractions, and not too deep. -/
def Fits (f : Frame) : Prop :=
  ∀ payload ∈ f.payload?, payload.Plain ∧ payload.Ordered ∧ payload.nesting < 100

/-- What a message carries stands for nothing else. -/
def Literal (f : Frame) : Prop := ∀ payload ∈ f.payload?, payload.Literal

section Carried

variable {payload : Json.Value} (channel : String)

theorem reads_payload (hordered : payload.Ordered) (hdeep : payload.nesting < 100)
    (hliteral : payload.Literal) : Reads 99 Json.anything payload payload := by
  have hread := Json.reads_anything hliteral (Nat.le_of_lt_succ hdeep)
  rwa [hordered.canonical_eq] at hread

theorem asides_carried (hdeep : payload.nesting < 100) :
    Json.Asides 99 "op" [("channel", .text channel), ("payload", payload)] := by
  simpa [Json.Asides] using Nat.le_of_lt_succ hdeep

/-- What is carried is kept as it is read. -/
theorem reads_carried {read : Json.Value} (h : Reads 99 Json.anything payload read)
    (combine : String → Json.Value → Frame) :
    (Fields.seq (Fields.map combine (Fields.required "channel" Json.text))
      (Fields.required "payload" Json.anything)).Reads 99
        [("channel", .text channel), ("payload", payload)] (combine channel read) := by
  have hchannel := Fields.reads_map combine
    (Fields.reads_required "channel" (Json.reads_text 99 channel))
  exact Fields.reads_seq hchannel (Fields.reads_required "payload" h)
    (show ∀ k ∈ ["payload"], k ∉ ["channel"] by decide)

theorem reads_message {read : Json.Value} (hdeep : payload.nesting < 100)
    (h : Reads 99 Json.anything payload read) :
    Reads 100 decoder (message channel payload).toJson (message channel read) :=
  Json.reads_tagged "Frame" rfl (asides_carried channel hdeep) (reads_carried channel h message)
    (by decide) (.refl _)

/-- If what is carried was kept as it is, it stands for nothing else. -/
theorem tells_carried (hordered : payload.Ordered) (combine : String → Json.Value → Frame) :
    (Fields.seq (Fields.map combine (Fields.required "channel" Json.text))
      (Fields.required "payload" Json.anything)).Tells 99
        [("channel", .text channel), ("payload", payload)]
        fun f => ∃ read, f = combine channel read ∧ (read = payload → payload.Literal) := by
  have hchannel := Fields.tells_map combine
    (Fields.tells_required "channel" (Json.reads_text 99 channel))
  have hpayload : (Fields.required "payload" Json.anything).Tells 99 [("payload", payload)]
      fun read => read = payload → payload.Literal :=
    Fields.tells_field fun _ _ _ _ hs h hsame => Json.literal_of_anything hs hordered (hsame ▸ h)
  have hfields := Fields.tells_seq hchannel hpayload
    (show ∀ k ∈ ["payload"], k ∉ ["channel"] by decide)
  refine ⟨hfields.names, fun m s f hm hrun hfinish => ?_⟩
  obtain ⟨_, read, ⟨_, rfl, rfl⟩, hread, rfl⟩ := hfields.told m s f hm hrun hfinish
  exact ⟨read, rfl, hread⟩

end Carried

theorem reads_decoder {f : Frame} (h : f.Fits) (hliteral : f.Literal) :
    Reads 100 decoder f.toJson f := by
  have one {name s : String} (hname : name ≠ "op") :
      Json.Asides 99 "op" [(name, .text s)] := by simp [Json.Asides, hname]
  cases f with
  | auth key origin =>
    have hkey := Fields.reads_map auth (Fields.reads_required "key" (Json.reads_text 99 key))
    exact Json.reads_tagged "Frame" rfl (by simp [Json.Asides])
      (Fields.reads_seq hkey (Fields.reads_required "origin" (Json.reads_text 99 origin))
        (by decide)) (by decide) (.refl _)
  | ack =>
    exact Json.reads_tagged "Frame" rfl (by simp [Json.Asides]) (Fields.reads_pure ack)
      (by decide) (.refl _)
  | error reason =>
    exact Json.reads_tagged "Frame" rfl (one (by decide))
      (Fields.reads_map error (Fields.reads_required "reason" (Json.reads_text 99 reason)))
      (by decide) (.refl _)
  | subscribe channel =>
    exact Json.reads_tagged "Frame" rfl (one (by decide))
      (Fields.reads_map subscribe (Fields.reads_required "channel" (Json.reads_text 99 channel)))
      (by decide) (.refl _)
  | publish channel payload =>
    obtain ⟨-, hordered, hdeep⟩ := h payload rfl
    exact Json.reads_tagged "Frame" rfl (asides_carried channel hdeep)
      (reads_carried channel (reads_payload hordered hdeep (hliteral payload rfl)) publish)
      (by decide) (.refl _)
  | message channel payload =>
    obtain ⟨-, hordered, hdeep⟩ := h payload rfl
    exact reads_message channel hdeep (reads_payload hordered hdeep (hliteral payload rfl))

theorem plain_toJson {f : Frame} (h : f.Fits) : f.toJson.Plain := by
  cases f with
  | auth key origin => exact ⟨trivial, trivial, trivial, trivial⟩
  | ack => exact ⟨trivial, trivial⟩
  | error reason => exact ⟨trivial, trivial, trivial⟩
  | subscribe channel => exact ⟨trivial, trivial, trivial⟩
  | publish channel payload => exact ⟨trivial, trivial, (h payload rfl).1, trivial⟩
  | message channel payload => exact ⟨trivial, trivial, (h payload rfl).1, trivial⟩

/-- **A message is read back from its text** just if what it carries stands for nothing else. -/
theorem read_render_iff {f : Frame} (h : f.Fits) :
    Frame.read f.render = .ok f ↔ f.Literal := by
  refine ⟨fun hread => ?_, fun hliteral =>
    Json.decode_render (plain_toJson h) (reads_decoder h hliteral) (by decide)⟩
  rintro payload hpayload
  obtain ⟨-, hordered, hdeep⟩ := h payload hpayload
  cases f with
  | publish channel payload =>
    cases hpayload
    obtain ⟨read, hsame, hliteral⟩ := Json.of_decode_render_tagged rfl
      (asides_carried channel hdeep) (tells_carried channel hordered publish) (by decide)
      (plain_toJson h) hread
    exact hliteral (Frame.publish.inj hsame).2.symm
  | message channel payload =>
    cases hpayload
    obtain ⟨read, hsame, hliteral⟩ := Json.of_decode_render_tagged rfl
      (asides_carried channel hdeep) (tells_carried channel hordered message) (by decide)
      (plain_toJson h) hread
    exact hliteral (Frame.message.inj hsame).2.symm
  | _ => cases hpayload

/-- A message that carries a kept text is read as one that carries what the text says. -/
theorem read_render_kept (channel : String) {s : String} {v : Json.Value}
    (h : Json.decode Json.anything (Bytes.ofString s) = .ok v) :
    Frame.read (message channel (.object [(Json.keptKey, .text s)])).render
      = .ok (message channel v) :=
  Json.decode_render ⟨trivial, trivial, ⟨trivial, trivial⟩, trivial⟩
    (reads_message channel (show 1 < 100 by decide) (Json.reads_kept h)) (by decide)

end Frame

/-! ### Events that are heard -/

/-- The message by which a broker passes an event on. -/
def Event.message (e : Event) : Frame :=
  .message (channelFor e.record.namespaceName) e.payload

theorem Event.message_fits {e : Event} (h : e.record.Storable) : e.message.Fits := by
  rintro _ ⟨⟩
  have hdeep : e.toJson.nesting ≤ 3 := by
    refine Json.Value.nesting_object_le_iff.2 ?_
    simp [e.record.nesting_toJson_le]
  exact ⟨(Event.plain_toJson h).canonical, Json.Value.canonical_ordered _,
    Nat.lt_of_le_of_lt ((Json.Value.nesting_canonical_le _).trans hdeep) (by decide)⟩

theorem Event.message_literal (e : Event) : e.message.Literal := by
  rintro _ ⟨⟩
  exact e.literal_payload

namespace Broker

/-- The message that carries an event is heard as that event, unless it is the driver's own. -/
theorem heard?_message {e : Event} (h : e.record.Storable) (origin : String) :
    heard? origin e.message.render = if e.origin = origin then none else some e := by
  have hchannel : beginsWith channelStart (channelFor e.record.namespaceName) = true := by
    simp [beginsWith, channelFor]
  have hevent : Json.decodeValue Event.decoder e.payload = .ok e :=
    Json.decodeValue_of_reads (Event.reads_payload h) (by decide)
  have hread : Frame.read e.message.render
      = .ok (.message (channelFor e.record.namespaceName) e.payload) :=
    (Frame.read_render_iff (Event.message_fits h)).2 (Event.message_literal e)
  simp only [heard?, hread, hchannel, if_true, hevent]

/-- What a driver makes of the message that carries an event. -/
theorem hear_message (b : Broker) {e : Event} (h : e.record.Storable) :
    b.hear e.message.render
      = if e.origin ≠ b.config.origin ∧ b.subscribed = true then
          { b with handled := b.handled ++ [e] }
        else b := by
  rw [hear, heard?_message h]
  by_cases horigin : e.origin = b.config.origin
  · simp [horigin]
  · cases b.subscribed <;> simp [horigin]

end Broker

end Rendezvous.Sync
