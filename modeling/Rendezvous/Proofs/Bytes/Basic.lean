import Mathlib.Data.List.Induction
import Mathlib.Tactic.Ring
import Rendezvous.Bytes.Basic

/-!
# Rendezvous.Proofs.Bytes.Basic

The two views of byte strings, read back. A byte string is determined by its length and its
number, and by its number alone if it does not begin with a zero; a text is determined by its
UTF-8 bytes, which are those of its characters one after the other.

* `Bytes.ofNat_toNat`, `Bytes.ofNat_width_toNat`: back from a number;
* `Bytes.toNat_ofNat`, `Bytes.toNat_ofNat_width`: back to it, at a width that serves;
* `Bytes.ofString_ofList`, `Bytes.toString?_ofString`: back from a text;
* `Bytes.utf8_of_ascii`, `Bytes.le_of_mem_utf8`: the bytes of a character.
-/

namespace Rendezvous.Bytes

/-! ### Numbers -/

theorem toNat_append_singleton (bs : Bytes) (b : UInt8) :
    toNat (bs ++ [b]) = toNat bs * 256 + b.toNat := by
  simp [toNat]

theorem toNat_append (as bs : Bytes) :
    toNat (as ++ bs) = toNat as * 256 ^ bs.length + toNat bs := by
  induction bs using List.reverseRecOn with
  | nil => simp [toNat]
  | append_singleton bs b ih =>
      rw [← List.append_assoc, toNat_append_singleton, ih, toNat_append_singleton,
        List.length_append, List.length_singleton]
      ring

theorem toNat_lt (bs : Bytes) : toNat bs < 256 ^ bs.length := by
  induction bs using List.reverseRecOn with
  | nil => simp [toNat]
  | append_singleton bs b ih =>
      have hb : b.toNat < 256 := b.toNat_lt
      rw [toNat_append_singleton, List.length_append, List.length_singleton, Nat.pow_succ]
      omega

/-- A byte string is determined by its length and its number. -/
theorem ofNat_toNat (bs : Bytes) : ofNat bs.length (toNat bs) = bs := by
  induction bs using List.reverseRecOn with
  | nil => rfl
  | append_singleton bs b ih =>
      have hb : b.toNat < 256 := b.toNat_lt
      have hdiv : (toNat bs * 256 + b.toNat) / 256 = toNat bs := by omega
      have hmod : (toNat bs * 256 + b.toNat) % 256 = b.toNat := by omega
      rw [List.length_append, List.length_singleton, ofNat, toNat_append_singleton, hdiv,
        hmod, ih, UInt8.ofNat_toNat]

theorem toNat_zeros (n : Nat) (bs : Bytes) :
    toNat (List.replicate n 0 ++ bs) = toNat bs := by
  have hzero : toNat (List.replicate n 0) = 0 := by
    induction n with
    | zero => rfl
    | succ n ih =>
        rw [List.replicate_succ', toNat_append_singleton, ih]
        rfl
  rw [toNat_append, hzero, Nat.zero_mul, Nat.zero_add]

/-- The first byte, unless it is zero, raises the number to the power of its place. -/
theorem le_toNat_cons {b : UInt8} (hb : b ≠ 0) (bs : Bytes) :
    256 ^ bs.length ≤ toNat (b :: bs) := by
  have hpos : 1 ≤ b.toNat := Nat.pos_of_ne_zero fun h => hb (UInt8.toNat_inj.1 h)
  have happ := toNat_append [b] bs
  have hone : toNat [b] = b.toNat := by simp [toNat]
  rw [hone, List.singleton_append] at happ
  rw [happ]
  calc 256 ^ bs.length = 1 * 256 ^ bs.length := (Nat.one_mul _).symm
    _ ≤ b.toNat * 256 ^ bs.length := Nat.mul_le_mul_right _ hpos
    _ ≤ b.toNat * 256 ^ bs.length + toNat bs := Nat.le_add_right _ _

theorem toNat_cons_ne_zero {b : UInt8} (hb : b ≠ 0) (bs : Bytes) : toNat (b :: bs) ≠ 0 :=
  Nat.ne_of_gt (Nat.lt_of_lt_of_le (Nat.pow_pos (by decide)) (le_toNat_cons hb bs))

theorem pow_eq_two_pow (n : Nat) : (256 : Nat) ^ n = 2 ^ (8 * n) := by
  rw [Nat.pow_mul]

/-- A number has as many base-256 digits as the byte string that spells it, if that does not
begin with a zero. -/
theorem width_toNat_cons {b : UInt8} (hb : b ≠ 0) (bs : Bytes) :
    width (toNat (b :: bs)) = bs.length + 1 := by
  have hne := toNat_cons_ne_zero hb bs
  -- The logarithm lies between the powers of the first byte's place and of the next.
  have hlow : 8 * bs.length ≤ (toNat (b :: bs)).log2 := by
    rw [Nat.le_log2 hne, ← pow_eq_two_pow]
    exact le_toNat_cons hb bs
  have hhigh : (toNat (b :: bs)).log2 < 8 * (bs.length + 1) := by
    rw [Nat.log2_lt hne, ← pow_eq_two_pow]
    exact toNat_lt (b :: bs)
  unfold width
  rw [if_neg hne]
  omega

/-- A byte string that does not begin with a zero is determined by its number. -/
theorem ofNat_width_toNat {bs : Bytes} (h : bs.head? ≠ some 0) :
    ofNat (width (toNat bs)) (toNat bs) = bs := by
  cases bs with
  | nil => rfl
  | cons b bs =>
      rw [width_toNat_cons (fun hb => h (by rw [hb]; rfl)) bs]
      exact ofNat_toNat (b :: bs)

/-- A number is read back from as many digits as it takes. -/
theorem toNat_ofNat {w n : Nat} (h : n < 256 ^ w) : toNat (ofNat w n) = n := by
  induction w generalizing n with
  | zero =>
      have hzero : n = 0 := by simpa using h
      rw [hzero]
      rfl
  | succ w ih =>
      have hlt : n % 256 < 256 := Nat.mod_lt n (by decide)
      have hdiv : n / 256 < 256 ^ w := by
        rw [Nat.div_lt_iff_lt_mul (by decide), ← Nat.pow_succ]
        exact h
      rw [ofNat, toNat_append_singleton, ih hdiv, UInt8.toNat_ofNat', Nat.mod_eq_of_lt hlt]
      exact Nat.div_add_mod' n 256

theorem lt_pow_width (n : Nat) : n < 256 ^ width n := by
  by_cases hn : n = 0
  · rw [hn]
    exact Nat.pow_pos (by decide)
  · rw [width, if_neg hn, pow_eq_two_pow, ← Nat.log2_lt hn]
    omega

theorem pow_width_le {n : Nat} (hn : n ≠ 0) : 256 ^ (width n - 1) ≤ n := by
  rw [width, if_neg hn, pow_eq_two_pow, ← Nat.le_log2 hn]
  omega

theorem toNat_ofNat_width (n : Nat) : toNat (ofNat (width n) n) = n :=
  toNat_ofNat (lt_pow_width n)

/-- The shortest spelling of a number does not begin with a zero. -/
theorem head?_ofNat_width (n : Nat) : (ofNat (width n) n).head? ≠ some 0 := by
  intro h
  obtain ⟨bs, hbs⟩ := List.head?_eq_some_iff.1 h
  have hlength : bs.length + 1 = width n := by
    have hwidth := length_ofNat (width n) n
    rwa [hbs] at hwidth
  have hnumber : toNat bs = n := by
    have hread := toNat_ofNat_width n
    rwa [hbs, show (0 : UInt8) :: bs = List.replicate 1 0 ++ bs from rfl, toNat_zeros] at hread
  have hn : n ≠ 0 := by
    rintro rfl
    exact absurd hlength (Nat.succ_ne_zero _)
  have hlow := pow_width_le hn
  have hhigh := toNat_lt bs
  rw [hnumber, show bs.length = width n - 1 by omega] at hhigh
  exact absurd hlow (Nat.not_le.2 hhigh)

/-! ### Texts -/

/-- The UTF-8 bytes of a character. -/
def utf8 (c : Char) : Bytes := String.utf8EncodeChar c

theorem toList_loop (bs : ByteArray) (i : Nat) (r : Bytes) :
    ByteArray.toList.loop bs i r = r.reverse ++ bs.data.toList.drop i := by
  fun_induction ByteArray.toList.loop bs i r with
  | case1 i r h ih =>
      have hi : i < bs.data.toList.length := by simpa using h
      have hget : bs.get! i = bs.data.toList[i] := by
        simp [ByteArray.get!, getElem!_pos bs.data i h]
      rw [ih, List.drop_eq_getElem_cons hi, List.reverse_cons, List.append_assoc, hget]
      rfl
  | case2 i r h =>
      have hi : bs.data.toList.length ≤ i := by simpa using h
      rw [List.drop_eq_nil_of_le hi, List.append_nil]

theorem toList_eq (bs : ByteArray) : bs.toList = bs.data.toList := by
  unfold ByteArray.toList
  rw [toList_loop]
  simp

/-- The bytes of a text are those of its characters. -/
theorem ofString_eq (s : String) : ofString s = s.toList.flatMap utf8 := by
  have h : s.toByteArray = s.toList.utf8Encode := String.utf8Encode_toList.symm
  rw [ofString, String.toUTF8_eq_toByteArray, h, toList_eq, List.utf8Encode,
    List.toList_data_toByteArray]
  rfl

theorem ofString_ofList (cs : List Char) : ofString (String.ofList cs) = cs.flatMap utf8 := by
  rw [ofString_eq, String.toList_ofList]

theorem ofString_append (s t : String) : ofString (s ++ t) = ofString s ++ ofString t := by
  rw [ofString_eq, ofString_eq, ofString_eq, String.toList_append, List.flatMap_append]

/-- A text is read back from its bytes. -/
theorem toString?_ofString (s : String) : toString? (ofString s) = some s := by
  have h : ByteArray.mk (ofString s).toArray = s.toByteArray := by
    rw [ofString, String.toUTF8_eq_toByteArray, toList_eq]
  rw [toString?, h, String.fromUTF8?, dif_pos s.isValidUTF8]
  rfl

/-- A character of ASCII is one byte. -/
theorem utf8_of_ascii {c : Char} (h : c.toNat < 128) : utf8 c = [UInt8.ofNat c.toNat] := by
  have hle : c.val.toNat ≤ 127 := Nat.le_of_lt_succ h
  rw [utf8, String.utf8EncodeChar]
  exact if_pos hle

/-- The bytes of any other character lie beyond ASCII. -/
theorem le_of_mem_utf8 {c : Char} (h : 128 ≤ c.toNat) {b : UInt8} (hb : b ∈ utf8 c) :
    128 ≤ b.toNat := by
  have hv : ¬ c.val.toNat ≤ 127 := Nat.not_le.2 h
  -- Every byte is a mark of at least 128 with some of the character's bits below it.
  have hbound (n k : Nat) (hk : 128 ≤ k) (hkn : k + n ≤ 256) (m : Nat) (hn : 0 < n) :
      128 ≤ (UInt8.ofNat (m % n + k)).toNat := by
    have hlt : m % n < n := Nat.mod_lt m hn
    rw [UInt8.toNat_ofNat', Nat.mod_eq_of_lt (by omega)]
    omega
  simp only [utf8, String.utf8EncodeChar, if_neg hv] at hb
  split at hb
  · simp only [List.mem_cons, List.not_mem_nil, or_false] at hb
    rcases hb with rfl | rfl
    · exact hbound 32 192 (by decide) (by decide) _ (by decide)
    · exact hbound 64 128 (by decide) (by decide) _ (by decide)
  · split at hb
    · simp only [List.mem_cons, List.not_mem_nil, or_false] at hb
      rcases hb with rfl | rfl | rfl
      · exact hbound 16 224 (by decide) (by decide) _ (by decide)
      · exact hbound 64 128 (by decide) (by decide) _ (by decide)
      · exact hbound 64 128 (by decide) (by decide) _ (by decide)
    · simp only [List.mem_cons, List.not_mem_nil, or_false] at hb
      rcases hb with rfl | rfl | rfl | rfl
      · exact hbound 8 240 (by decide) (by decide) _ (by decide)
      · exact hbound 64 128 (by decide) (by decide) _ (by decide)
      · exact hbound 64 128 (by decide) (by decide) _ (by decide)
      · exact hbound 64 128 (by decide) (by decide) _ (by decide)

end Rendezvous.Bytes
