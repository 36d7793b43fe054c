import Rendezvous.Proofs.Json.Decode
import Rendezvous.Proofs.Peer.Id
import Rendezvous.Store.Record

/-!
# Rendezvous.Proofs.Store.Record

The JSON text of a record is read back to it, if its numbers fit 64 bits and its addresses
are read back from their texts.

* `Record.Storable`: those records;
* `Record.reads_members`: its members are read in whatever order they stand;
* `Record.reads_decoder`, `Record.reads_canonical`, `Record.decode_render`.
-/

namespace Rendezvous

open Json (Reads Fields)

theorem PeerId.reads_decoder (p : PeerId) (levels : Nat) :
    Reads levels PeerId.decoder p.toJson p := by
  refine Json.reads_textThen ?_
  rw [PeerId.parse_toText]
  rfl

/-- An address is read back from its text. -/
def Multiaddr.Readable (a : Multiaddr) : Prop := Multiaddr.parse a.toText = .ok a

theorem Multiaddr.Readable.reads_decoder {a : Multiaddr} (h : a.Readable) (levels : Nat) :
    Reads levels Multiaddr.decoder a.toJson a := by
  refine Json.reads_parsedText ?_
  rw [h]
  rfl

namespace Record

/-- A record that its JSON text tells in full. -/
structure Storable (r : Record) : Prop where
  addrs : ∀ a ∈ r.addrs, a.Readable
  expiresAt : r.expiresAt < 2 ^ 64
  seq : r.seq < 2 ^ 64

variable {r : Record}

/-- The members of a record's JSON form. -/
def members (r : Record) : List (String × Json.Value) :=
  [("namespace", .text r.namespaceName), ("peer", r.peer.toJson),
    ("addrs", .array (r.addrs.map Multiaddr.toJson)), ("expires_at", .nat r.expiresAt),
    ("seq", .nat r.seq)]

theorem toJson_eq (r : Record) : r.toJson = .object r.members := rfl

/-- A record is read in whatever order its members stand. -/
theorem reads_members (h : r.Storable) {mixed : List (String × Json.Value)}
    (hperm : mixed.Perm r.members) : Reads 2 decoder (.object mixed) r := by
  have haddrs : Reads 1 (Json.list Multiaddr.decoder)
      (.array (r.addrs.map Multiaddr.toJson)) r.addrs :=
    Json.reads_list fun a ha => (h.addrs a ha).reads_decoder 0
  refine Json.reads_record _ (Fields.Reads.perm ?_ hperm)
  have hns := Fields.reads_map mk
    (Fields.reads_required "namespace" (Json.reads_text 1 r.namespaceName))
  have hpeer := Fields.reads_seq hns
    (Fields.reads_required "peer" (r.peer.reads_decoder 1)) (by decide)
  have haddrs' := Fields.reads_seq hpeer (Fields.reads_required "addrs" haddrs) (by decide)
  have hexpires := Fields.reads_seq haddrs'
    (Fields.reads_required "expires_at" (Json.reads_word64 1 h.expiresAt)) (by decide)
  exact Fields.reads_seq hexpires
    (Fields.reads_optional "seq" 0 (Json.reads_word64 1 h.seq)) (by decide)

theorem reads_decoder (h : r.Storable) : Reads 2 decoder r.toJson r :=
  reads_members h (.refl _)

theorem plain_of_lt (hexpiry : r.expiresAt < 2 ^ 64) (hseq : r.seq < 2 ^ 64) :
    r.toJson.Plain := by
  have haddrs : Json.PlainItems (r.addrs.map Multiaddr.toJson) :=
    Json.plainItems_iff.2 (List.forall_mem_map.2 fun _ _ => trivial)
  exact ⟨trivial, trivial, haddrs, hexpiry, hseq, trivial⟩

theorem plain_toJson (h : r.Storable) : r.toJson.Plain := plain_of_lt h.expiresAt h.seq

theorem nesting_toJson_le (r : Record) : r.toJson.nesting ≤ 2 := by
  have haddrs : (Json.Value.array (r.addrs.map Multiaddr.toJson)).nesting ≤ 1 :=
    Json.Value.nesting_array_le_iff.2 (List.forall_mem_map.2 fun _ _ => Nat.le_refl 0)
  refine Json.Value.nesting_object_le_iff.2 ?_
  simp [PeerId.toJson, haddrs]

/-- A record is read from its JSON form put in order. -/
theorem reads_canonical (h : r.Storable) : Reads 2 decoder r.toJson.canonical r := by
  have haddrs : (Json.Value.array (r.addrs.map Multiaddr.toJson)).Ordered :=
    Json.orderedItems_iff.2 (List.forall_mem_map.2 fun _ _ => trivial)
  have hmembers : Json.canonicalMembers r.members = r.members :=
    Json.canonicalMembers_eq ⟨trivial, trivial, haddrs, trivial, trivial, trivial⟩
  have hkeys : (r.members.map Prod.fst).Nodup := by
    show ["namespace", "peer", "addrs", "expires_at", "seq"].Nodup
    decide
  rw [toJson_eq, Json.Value.canonical, hmembers]
  exact reads_members h (Json.sortMembers_perm hkeys)

/-- **A record is read back from its text.** -/
theorem decode_render (h : r.Storable) :
    Json.decode decoder (Bytes.ofString r.toJson.render) = .ok r :=
  Json.decode_render (plain_toJson h) (reads_decoder h) (by decide)

end Record

end Rendezvous
