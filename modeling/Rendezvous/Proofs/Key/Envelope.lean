import Rendezvous.Key.Envelope
import Rendezvous.Proofs.Bytes.Varint

/-!
# Rendezvous.Proofs.Key.Envelope

An envelope is read back from its bytes, whatever its tag and however long its data, so long as
there are any and their length has 64 bits.

* `Envelope.fields_encode`: what the lax reader finds in an envelope that was written;
* `Envelope.decode_encode`, `Envelope.decode_encode_eq_ok_iff`.
-/

namespace Rendezvous.Envelope

/-! ### Fields -/

@[simp] theorem fieldKey?_tag (bs : Bytes) : fieldKey? (0x08 :: bs) = some ((1, .varint), bs) := rfl

@[simp] theorem fieldKey?_data (bs : Bytes) : fieldKey? (0x12 :: bs) = some ((2, .counted), bs) :=
  rfl

theorem take?_append (content rest : Bytes) :
    take? content.length (content ++ rest) = some (content, rest) := by
  have hlength : content.length ≤ (content ++ rest).length := by
    rw [List.length_append]
    omega
  rw [take?, if_pos hlength, List.take_left, List.drop_left]

theorem counted?_encode (content rest : Bytes) :
    counted? (Varint.encode content.length ++ (content ++ rest)) =
      if content.length < 2 ^ 64 then some (content, rest) else none := by
  rw [counted?, Varint.decode?_encode]
  by_cases hn : content.length < 2 ^ 64
  · rw [if_pos hn, if_pos hn]
    exact take?_append content rest
  · rw [if_neg hn, if_neg hn]
    rfl

theorem fieldsFrom_nil (fuel : Nat) (tag : Int) (data : Bytes) :
    fieldsFrom (fuel + 1) tag data [] = some (tag, data) := rfl

/-- The tag of a kind is read as what it is. -/
theorem fieldsFrom_tag (fuel : Nat) (tag : Int) (data : Bytes) (kind : KeyKind) (bs : Bytes) :
    fieldsFrom (fuel + 1) tag data (0x08 :: UInt8.ofNat kind.tag :: bs) =
      fieldsFrom fuel kind.tag data bs := by
  have hread : Varint.decode? (UInt8.ofNat kind.tag :: bs) = some (kind.tag, bs) := by
    cases kind <;> rfl
  have hsigned : signed32 kind.tag = kind.tag := by
    cases kind <;> decide
  rw [fieldsFrom, List.isEmpty_cons, if_neg Bool.false_ne_true, fieldKey?_tag]
  change (Varint.decode? (UInt8.ofNat kind.tag :: bs) >>= fun read =>
    fieldsFrom fuel (signed32 read.1) data read.2) = _
  rw [hread, ← hsigned]
  rfl

/-- The data are read whole, however long. -/
theorem fieldsFrom_data (fuel : Nat) (tag : Int) (data content bs : Bytes) :
    fieldsFrom (fuel + 1) tag data (0x12 :: (Varint.encode content.length ++ (content ++ bs))) =
      if content.length < 2 ^ 64 then fieldsFrom fuel tag content bs else none := by
  rw [fieldsFrom, List.isEmpty_cons, if_neg Bool.false_ne_true, fieldKey?_data]
  change (counted? _ >>= fun read => fieldsFrom fuel tag read.1 read.2) = _
  rw [counted?_encode]
  by_cases hn : content.length < 2 ^ 64
  · rw [if_pos hn, if_pos hn]
    rfl
  · rw [if_neg hn, if_neg hn]
    rfl

/-! ### Envelopes -/

/-- The lax reader finds the two fields that were written. -/
theorem fields_encode (e : Envelope) :
    fields (encode e) =
      if e.data.length < 2 ^ 64 then some ((e.kind.tag : Int), e.data) else none := by
  -- The fuel outlasts the two fields and the end.
  obtain ⟨fuel, hfuel⟩ : ∃ fuel, (encode e).length = fuel + 2 := ⟨_, rfl⟩
  have hbytes : encode e = 0x08 :: UInt8.ofNat e.kind.tag :: 0x12 ::
      (Varint.encode e.data.length ++ (e.data ++ [])) := by
    rw [encode, List.append_nil, List.append_assoc]
    rfl
  rw [fields, hfuel, hbytes, fieldsFrom_tag, fieldsFrom_data, fieldsFrom_nil]

/-- What becomes of an envelope that was written. -/
theorem decode_encode (e : Envelope) :
    decode (encode e) =
      if e.data.length < 2 ^ 64 then if e.data = [] then .error .noData else .ok e
      else .error .malformed := by
  unfold decode
  rw [fields_encode]
  by_cases hn : e.data.length < 2 ^ 64
  · have htag : (if (e.kind.tag : Int) < 0 then none else KeyKind.ofTag? (e.kind.tag : Int).toNat) =
        some e.kind := by
      rw [if_neg (Int.not_lt.2 (Int.natCast_nonneg _)), Int.toNat_natCast, KeyKind.ofTag?_tag]
    simp only [if_pos hn, htag, List.isEmpty_iff]
  · rw [if_neg hn, if_neg hn]

/-- **An envelope is read back from its bytes** exactly if it has data that can be counted. -/
theorem decode_encode_eq_ok_iff {e : Envelope} :
    decode (encode e) = .ok e ↔ e.data ≠ [] ∧ e.data.length < 2 ^ 64 := by
  rw [decode_encode]
  by_cases hn : e.data.length < 2 ^ 64
  · rw [if_pos hn]
    by_cases hdata : e.data = []
    · simp [hdata]
    · rw [if_neg hdata]
      exact ⟨fun _ => ⟨hdata, hn⟩, fun _ => rfl⟩
  · rw [if_neg hn]
    exact ⟨nofun, fun h => absurd h.2 hn⟩

end Rendezvous.Envelope
