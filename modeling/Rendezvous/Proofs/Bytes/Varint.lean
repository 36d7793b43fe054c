import Mathlib.Tactic.Ring
import Rendezvous.Bytes.Varint

/-!
# Rendezvous.Proofs.Bytes.Varint

A number is read back from its spelling and what follows is left alone, if the reader has room
for it; otherwise nothing is read. The lax reader takes every spelling that has at most ten bytes,
the shortest or not, and nothing else.

* `Varint.Spells`: the spellings of a number; `Varint.decode?_eq_some_iff`;
* `Varint.decodeGroups?_encode`: for a reader of any number of bytes;
* `Varint.decode?_encode`: for numbers of 64 bits.
-/

namespace Rendezvous.Varint

/-! ### Any spelling -/

/-- Seven bits of a number in each byte, the lowest first, and the top bit on every byte but the
last. -/
inductive Groups : Nat → Bytes → Prop where
  | last {b : UInt8} (hlast : b.toNat < 128) : Groups b.toNat [b]
  | more {b : UInt8} {n : Nat} {bs : Bytes} (hmore : ¬ b.toNat < 128) (hbs : Groups n bs) :
      Groups (b.toNat % 128 + 128 * n) (b :: bs)

/-- A spelling, in at most ten bytes, of a number of 64 bits. -/
def Spells (n : Nat) (bs : Bytes) : Prop := Groups n bs ∧ bs.length ≤ 10 ∧ n < 2 ^ 64

theorem Spells.ne_nil {n : Nat} {bs : Bytes} (h : Spells n bs) : bs ≠ [] := by
  cases h.1 <;> exact List.cons_ne_nil _ _

theorem decodeGroups?_append {n fuel scale acc : Nat} {bs : Bytes} (h : Groups n bs)
    (hfuel : bs.length ≤ fuel) (rest : Bytes) :
    decodeGroups? fuel scale acc (bs ++ rest) = some (acc + n * scale, rest) := by
  induction h generalizing fuel scale acc with
  | last hlast =>
      obtain ⟨fuel, rfl⟩ : ∃ k, fuel = k + 1 := Nat.exists_eq_add_one.2 hfuel
      rw [List.singleton_append, decodeGroups?, if_pos hlast, Nat.mod_eq_of_lt hlast]
  | @more b n bs hmore _ ih =>
      rw [List.length_cons] at hfuel
      obtain ⟨fuel, rfl⟩ : ∃ k, fuel = k + 1 := Nat.exists_eq_add_one.2 (by omega)
      have hsum : acc + b.toNat % 128 * scale + n * (scale * 128)
          = acc + (b.toNat % 128 + 128 * n) * scale := by ring
      rw [List.cons_append, decodeGroups?, if_neg hmore, ih (by omega), hsum]

theorem groups_of_decodeGroups? {fuel scale acc v : Nat} {bs rest : Bytes}
    (h : decodeGroups? fuel scale acc bs = some (v, rest)) :
    ∃ n front, Groups n front ∧ front.length ≤ fuel ∧ bs = front ++ rest ∧
      v = acc + n * scale := by
  induction fuel generalizing scale acc bs with
  | zero => cases h
  | succ fuel ih =>
      cases bs with
      | nil => cases h
      | cons b bs =>
          rw [decodeGroups?] at h
          split at h
          · rename_i hlast
            cases h
            rw [Nat.mod_eq_of_lt hlast]
            exact ⟨_, [b], .last hlast, by simp, rfl, rfl⟩
          · rename_i hmore
            obtain ⟨n, front, hgroups, hlength, rfl, rfl⟩ := ih h
            refine ⟨_, b :: front, .more hmore hgroups, Nat.succ_le_succ hlength, rfl, ?_⟩
            ring

/-- **What the lax reader reads** is a spelling in front of what is left. -/
theorem decode?_eq_some_iff {n : Nat} {bs rest : Bytes} :
    decode? bs = some (n, rest) ↔ ∃ front, Spells n front ∧ bs = front ++ rest := by
  rw [decode?, Option.filter_eq_some_iff, decide_eq_true_iff]
  constructor
  · rintro ⟨hread, hn⟩
    obtain ⟨m, front, hgroups, hlength, rfl, rfl⟩ := groups_of_decodeGroups? hread
    rw [Nat.zero_add, Nat.mul_one] at hn ⊢
    exact ⟨front, ⟨hgroups, hlength, hn⟩, rfl⟩
  · rintro ⟨front, ⟨hgroups, hlength, hn⟩, rfl⟩
    rw [decodeGroups?_append hgroups hlength, Nat.zero_add, Nat.mul_one]
    exact ⟨rfl, hn⟩

/-! ### The shortest spelling -/

theorem lt_pow_succ_iff (n fuel : Nat) : n < 128 ^ (fuel + 1) ↔ n / 128 < 128 ^ fuel := by
  rw [Nat.div_lt_iff_lt_mul (by decide), Nat.pow_succ]

/-- Seven bits of the number fall to each byte that may be read. -/
theorem decodeGroups?_encode (n fuel scale acc : Nat) (rest : Bytes) :
    decodeGroups? (fuel + 1) scale acc (encode n ++ rest) =
      if n < 128 ^ (fuel + 1) then some (acc + n * scale, rest) else none := by
  fun_induction encode n generalizing fuel scale acc with
  | case1 n hn =>
      have hbyte : (UInt8.ofNat n).toNat = n := UInt8.toNat_ofNat_of_lt' (by omega : n < 256)
      have hroom : n < 128 ^ (fuel + 1) := by
        rw [lt_pow_succ_iff, Nat.div_eq_of_lt hn]
        exact Nat.pow_pos (by decide)
      rw [List.singleton_append, decodeGroups?, hbyte, if_pos hn, if_pos hroom,
        Nat.mod_eq_of_lt hn]
  | case2 n hn ih =>
      have hbyte : (UInt8.ofNat (n % 128 + 128)).toNat = n % 128 + 128 :=
        UInt8.toNat_ofNat_of_lt' (by omega : n % 128 + 128 < 256)
      have hbits : (n % 128 + 128) % 128 = n % 128 := by omega
      rw [List.cons_append, decodeGroups?, hbyte, if_neg (by omega), hbits]
      cases fuel with
      | zero => rw [decodeGroups?, if_neg (by omega)]
      | succ fuel =>
          have hsum : acc + n % 128 * scale + n / 128 * (scale * 128) = acc + n * scale := by
            calc acc + n % 128 * scale + n / 128 * (scale * 128)
                = acc + (n / 128 * 128 + n % 128) * scale := by ring
              _ = acc + n * scale := by rw [Nat.div_add_mod']
          simp only [ih fuel, hsum, lt_pow_succ_iff n (fuel + 1)]

/-- **A number of 64 bits is read back**, and no greater one is. -/
theorem decode?_encode (n : Nat) (rest : Bytes) :
    decode? (encode n ++ rest) = if n < 2 ^ 64 then some (n, rest) else none := by
  have hbound : 2 ^ 64 ≤ 128 ^ 10 := by decide
  rw [decode?, decodeGroups?_encode n 9 1 0 rest, Nat.zero_add, Nat.mul_one]
  by_cases hn : n < 2 ^ 64
  · rw [if_pos hn, if_pos (Nat.lt_of_lt_of_le hn hbound)]
    exact Option.filter_some_pos (decide_eq_true hn)
  · rw [if_neg hn]
    split
    · exact Option.filter_some_neg (by simpa using hn)
    · rfl

end Rendezvous.Varint
