import Rendezvous.Bytes.Der
import Rendezvous.Proofs.Bytes.Basic

/-!
# Rendezvous.Proofs.Bytes.Der

What the printers write, the readers take off the front again, so long as it stays below the
bound on lengths.

* `Der.length?_lengthBytes`: lengths;
* `Der.element_encode`, `Der.document?_encode`: elements, alone and in front of others;
* `Der.unsignedElement_encodeUnsigned`: unsigned integers;
* `Der.contextField?_encode`, `Der.contextField?_of_lt`: fields that may be left out.
-/

namespace Rendezvous.Der

/-! ### Lengths -/

theorem width_le_of_lt_lengthBound {n : Nat} (h : n < lengthBound) : Bytes.width n ≤ 4 := by
  by_cases hn : n = 0
  · rw [hn]
    decide
  · have hlog : n.log2 < 28 := (Nat.log2_lt hn).2 h
    rw [Bytes.width, if_neg hn]
    omega

theorem width_pos {n : Nat} (hn : n ≠ 0) : 1 ≤ Bytes.width n := by
  rw [Bytes.width, if_neg hn]
  omega

/-- **A length is read back.** -/
theorem length?_lengthBytes {n : Nat} (h : n < lengthBound) (rest : Bytes) :
    length? (lengthBytes n ++ rest) = some (n, rest) := by
  by_cases hshort : n < 128
  · have hbyte : (UInt8.ofNat n).toNat = n := UInt8.toNat_ofNat_of_lt' (by omega : n < 256)
    rw [lengthBytes, if_pos hshort, List.singleton_append, length?]
    simp only [hbyte, if_pos hshort]
  · have hle := width_le_of_lt_lengthBound h
    have hpos := width_pos (n := n) (by omega)
    have hbyte : (UInt8.ofNat (128 + Bytes.width n)).toNat = 128 + Bytes.width n :=
      UInt8.toNat_ofNat_of_lt' (by omega : 128 + Bytes.width n < 256)
    have hlength := Bytes.length_ofNat (Bytes.width n) n
    have htake : (Bytes.ofNat (Bytes.width n) n ++ rest).take (Bytes.width n) =
        Bytes.ofNat (Bytes.width n) n := List.take_left' hlength
    have hdrop : (Bytes.ofNat (Bytes.width n) n ++ rest).drop (Bytes.width n) = rest :=
      List.drop_left' hlength
    rw [lengthBytes, if_neg hshort, List.cons_append, length?]
    simp only [hbyte, Nat.add_sub_cancel_left, htake, hdrop, Bytes.toNat_ofNat_width, hlength]
    rw [if_neg (by omega), if_pos ⟨hpos, hle, trivial, Nat.not_lt.1 hshort, trivial, h⟩]

/-! ### Elements -/

theorem length_lt_length_encode (t : UInt8) (content : Bytes) :
    content.length < (encode t content).length := by
  rw [encode, List.cons_append, List.length_cons, List.length_append]
  omega

theorem encode_append (t : UInt8) (content rest : Bytes) :
    encode t content ++ rest = t :: (lengthBytes content.length ++ (content ++ rest)) := by
  rw [encode, List.append_assoc, List.cons_append]

theorem any?_encode {t : UInt8} (ht : isKnownTag t = true) {content : Bytes}
    (h : content.length < lengthBound) (rest : Bytes) :
    any? (encode t content ++ rest) = some (t, content, rest) := by
  have hle : content.length ≤ (content ++ rest).length := by
    rw [List.length_append]
    omega
  rw [encode_append, any?, if_pos ht, length?_lengthBytes h]
  change (if content.length ≤ (content ++ rest).length then _ else _) = _
  rw [if_pos hle, List.take_left, List.drop_left]

/-- **An element is taken off the front**, and what follows it is left. -/
theorem element_encode {t : UInt8} (ht : isKnownTag t = true) {content : Bytes}
    (h : content.length < lengthBound) (rest : Bytes) :
    element t (encode t content ++ rest) = some (content, rest) := by
  rw [element, any?_encode ht h]
  exact if_pos rfl

theorem document?_encode {t : UInt8} (ht : isKnownTag t = true) {content : Bytes}
    (h : (encode t content).length < lengthBound) :
    document? t (encode t content) = some content := by
  have hcontent : content.length < lengthBound :=
    Nat.lt_trans (length_lt_length_encode t content) h
  have hread := element_encode ht hcontent []
  rw [List.append_nil] at hread
  rw [document?, if_neg (Nat.not_le.2 h)]
  change (element t (encode t content) >>= _) = _
  rw [hread]
  rfl

theorem inside_of_read {α : Type} {read : Bytes → Option (α × Bytes)} {content : Bytes} {a : α}
    (h : read content = some (a, [])) : inside read content = some a := by
  rw [inside, h]
  rfl

theorem read_of_inside {α : Type} {read : Bytes → Option (α × Bytes)} {content : Bytes} {a : α}
    (h : inside read content = some a) : read content = some (a, []) := by
  rw [inside] at h
  obtain ⟨⟨b, rest⟩, hread, hend⟩ := Option.bind_eq_some_iff.1 h
  cases rest with
  | nil =>
      cases hend
      exact hread
  | cons c rest => cases hend

/-! ### Integers -/

/-- A number is read from its digits, with a zero in front of a high first one. -/
theorem unsigned?_digits {b : UInt8} (hb : b ≠ 0) (bs : Bytes) :
    unsigned? (if b.toNat < 128 then b :: bs else 0 :: b :: bs) =
      some (Bytes.toNat (b :: bs)) := by
  have hne : b.toNat ≠ 0 := fun h => hb (UInt8.toNat_inj.1 h)
  by_cases hlow : b.toNat < 128
  · rw [if_pos hlow]
    cases bs with
    | nil => simp [unsigned?, hlow, Bytes.toNat]
    | cons c cs => rw [unsigned?, if_neg hne, if_pos hlow]
  · rw [if_neg hlow, unsigned?, if_pos (by decide), if_neg hlow]

/-- **An unsigned integer is taken off the front.** -/
theorem unsignedElement_encodeUnsigned {n : Nat} (h : (encodeUnsigned n).length < lengthBound)
    (rest : Bytes) : unsignedElement (encodeUnsigned n ++ rest) = some (n, rest) := by
  -- Whatever the content is, the number is read from it.
  have hcontent : ∃ content, encodeUnsigned n = encode 0x02 content ∧
      unsigned? content = some n := by
    refine ⟨_, rfl, ?_⟩
    have hread := Bytes.toNat_ofNat_width n
    have hhead := Bytes.head?_ofNat_width n
    cases hdigits : Bytes.ofNat (Bytes.width n) n with
    | nil =>
        rw [hdigits] at hread
        rw [← hread]
        rfl
    | cons b bs =>
        rw [hdigits] at hread hhead
        exact (unsigned?_digits (fun hb => hhead (by rw [hb]; rfl)) bs).trans (by rw [hread])
  obtain ⟨content, hencode, hnumber⟩ := hcontent
  rw [hencode] at h ⊢
  rw [unsignedElement,
    element_encode (by decide) (Nat.lt_trans (length_lt_length_encode 0x02 content) h)]
  change (unsigned? content >>= _) = _
  rw [hnumber]
  rfl

/-! ### Fields that may be left out -/

/-- A field is found if it comes first. -/
theorem contextField?_encode {t : UInt8} (ht : isKnownTag t = true)
    (hcontext : isContextTag t = true) (hnested : t.toNat / 32 % 2 = 1) {number : Nat}
    (hnumber : t.toNat % 32 = number) {content : Bytes} (h : content.length < lengthBound)
    (fuel : Nat) (rest : Bytes) :
    contextField? (fuel + 1) number (encode t content ++ rest) = some (some content, rest) := by
  have hany := any?_encode ht h rest
  have hmiss : ¬ ((!isContextTag t || decide (number < t.toNat % 32)) = true) := by
    simp [hcontext, hnumber]
  rw [encode_append] at hany ⊢
  rw [contextField?, ht, Bool.not_true, if_neg Bool.false_ne_true, if_neg hmiss, hany]
  change (if t.toNat % 32 = number then _ else _) = _
  rw [if_pos hnumber, if_pos hnested]

/-- A field is left out if one of a greater number comes first. -/
theorem contextField?_of_lt {t : UInt8} (ht : isKnownTag t = true) {number : Nat}
    (hlt : number < t.toNat % 32) (fuel : Nat) (content rest : Bytes) :
    contextField? (fuel + 1) number (encode t content ++ rest) =
      some (none, encode t content ++ rest) := by
  have hmiss : (!isContextTag t || decide (number < t.toNat % 32)) = true := by
    rw [decide_eq_true hlt, Bool.or_true]
  rw [encode_append, contextField?, ht, Bool.not_true, if_neg Bool.false_ne_true, if_pos hmiss]

end Rendezvous.Der
