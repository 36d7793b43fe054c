import Rendezvous.Bytes.Base58
import Rendezvous.Proofs.Bytes.Basic
import Rendezvous.Proofs.Data.Outcome

/-!
# Rendezvous.Proofs.Bytes.Base58

The base-58 text of a byte string is read back to it: the leading zeros through the leading
ones, the rest through its number. No other text is read to it.

* `Base58.valueOf_digits`, `Base58.digits_of_valueOf`: the digits of a number, read back, and the
  number that digits spell;
* `Base58.takeWhile_encode`: the leading ones of a text are the leading zeros;
* `Base58.decode_encode`, `Base58.encode_of_decode`.
-/

namespace Rendezvous.Base58

/-! ### Digits -/

theorem value?_digit : ∀ d < 58, value? (digit d) = some d := by decide

theorem digit_ascii : ∀ d < 58, (digit d).toNat ≤ 127 := by decide

theorem digit_ne_nul (d : Nat) (hd : d < 58) : digit d ≠ '\x00' := by
  intro h
  have hvalue := value?_digit d hd
  have hnone : value? '\x00' = none := by decide
  rw [h, hnone] at hvalue
  cases hvalue

/-- The sign for zero stands for nothing else. -/
theorem digit_ne_one {d : Nat} (hd : d < 58) (hne : d ≠ 0) : digit d ≠ '1' := by
  intro h
  have hvalue := value?_digit d hd
  have hzero : value? '1' = some 0 := by decide
  rw [h, hzero] at hvalue
  exact hne (Option.some.inj hvalue).symm

theorem valueOf_cons_digit (place acc : Nat) {d : Nat} (hd : d < 58) (rest : List Char) :
    valueOf place acc (digit d :: rest) = valueOf (place + 1) (acc * 58 + d) rest := by
  rw [valueOf, if_neg (Nat.not_lt.2 (digit_ascii d hd)), value?_digit d hd]

/-- Reading goes on behind what has been read. -/
theorem valueOf_append (place acc : Nat) (cs rest : List Char) :
    valueOf place acc (cs ++ rest) =
      valueOf place acc cs >>= fun m => valueOf (place + cs.length) m rest := by
  induction cs generalizing place acc with
  | nil => rfl
  | cons c cs ih =>
      rw [List.cons_append, valueOf, valueOf, List.length_cons]
      by_cases hc : 127 < c.toNat
      · rw [if_pos hc, if_pos hc]
        rfl
      · rw [if_neg hc, if_neg hc]
        cases hv : value? c with
        | none => rfl
        | some d =>
            have hplace : place + (cs.length + 1) = place + 1 + cs.length := by omega
            rw [hplace]
            exact ih (place + 1) (acc * 58 + d)

/-- What is read as a digit is the digit of its value. -/
theorem digit_of_value? {c : Char} {d : Nat} (h : value? c = some d) : d < 58 ∧ digit d = c := by
  obtain ⟨hlt, hget, -⟩ := List.findIdx?_eq_some_iff_getElem.1 h
  have hlength : alphabet.length = 58 := by decide
  refine ⟨hlength ▸ hlt, ?_⟩
  rw [digit, List.getD_eq_getElem?_getD, List.getElem?_eq_getElem hlt, Option.getD_some]
  exact eq_of_beq hget

/-- The last digit that is read is the lowest. -/
theorem of_valueOf_snoc {place acc n : Nat} {cs : List Char} {c : Char}
    (h : valueOf place acc (cs ++ [c]) = .ok n) :
    ∃ m d, valueOf place acc cs = .ok m ∧ value? c = some d ∧ n = m * 58 + d := by
  rw [valueOf_append] at h
  obtain ⟨m, hm, hlast⟩ := bind_eq_ok_iff.1 h
  rw [valueOf] at hlast
  split at hlast
  · cases hlast
  · split at hlast
    · cases hlast
    · rename_i d hd
      exact ⟨m, d, hm, hd, (Except.ok.inj hlast).symm⟩

/-! ### Numbers -/

/-- The digits of a number, most significant first, are read back. -/
theorem valueOf_digits (place n : Nat) : valueOf place 0 (digitsLE n).reverse = .ok n := by
  induction n using Nat.strongRecOn generalizing place with
  | ind n ih =>
      rw [digitsLE]
      by_cases hn : n = 0
      · rw [dif_pos hn, hn]
        rfl
      · have hmod : n % 58 < 58 := Nat.mod_lt n (by decide)
        have hsum : n / 58 * 58 + n % 58 = n := Nat.div_add_mod' n 58
        rw [dif_neg hn, List.reverse_cons, valueOf_append, ih (n / 58) (by omega) place, ok_bind,
          valueOf_cons_digit _ _ hmod, hsum]
        rfl

/-- The digits of a number do not begin with the sign for zero. -/
theorem getLast?_digitsLE (n : Nat) : (digitsLE n).getLast? ≠ some '1' := by
  induction n using Nat.strongRecOn with
  | ind n ih =>
      rw [digitsLE]
      by_cases hn : n = 0
      · rw [dif_pos hn]
        exact nofun
      · rw [dif_neg hn]
        cases hrest : digitsLE (n / 58) with
        | nil =>
            -- The only digit of a number below 58, which is not zero.
            have hdiv : n / 58 = 0 := by
              by_contra hne
              rw [digitsLE, dif_neg hne] at hrest
              cases hrest
            have hmod : n % 58 = n := by omega
            rw [hmod, List.getLast?_singleton]
            intro h
            exact digit_ne_one (by omega) hn (Option.some.inj h)
        | cons c cs =>
            rw [List.getLast?_cons_cons, ← hrest]
            exact ih (n / 58) (by omega)

/-- Digits that do not begin with the sign for zero are those of the number that they spell. -/
theorem digits_of_valueOf {place n : Nat} {cs : List Char} (h : valueOf place 0 cs = .ok n)
    (hhead : cs.head? ≠ some '1') : (digitsLE n).reverse = cs := by
  induction cs using List.reverseRecOn generalizing n with
  | nil =>
      cases h
      rw [digitsLE, dif_pos rfl, List.reverse_nil]
  | append_singleton cs c ih =>
      obtain ⟨m, d, hm, hd, rfl⟩ := of_valueOf_snoc h
      obtain ⟨hlt, rfl⟩ := digit_of_value? hd
      have hdigits : (digitsLE m).reverse = cs := by
        refine ih hm fun hcs => hhead ?_
        rw [List.head?_append, hcs, Option.some_or]
      have hne : m * 58 + d ≠ 0 := by
        intro hzero
        obtain ⟨rfl, rfl⟩ : m = 0 ∧ d = 0 := by omega
        -- Nothing stands before the digit, which is the sign for zero.
        rw [digitsLE, dif_pos rfl, List.reverse_nil] at hdigits
        exact hhead (by rw [← hdigits]; decide)
      have hmod : (m * 58 + d) % 58 = d := by omega
      have hdiv : (m * 58 + d) / 58 = m := by omega
      rw [digitsLE, dif_neg hne, List.reverse_cons, hmod, hdiv, hdigits]

theorem forall_mem_digitsLE {motive : Char → Prop} (h : ∀ d < 58, motive (digit d)) (n : Nat) :
    ∀ c ∈ digitsLE n, motive c := by
  induction n using Nat.strongRecOn with
  | ind n ih =>
      rw [digitsLE]
      by_cases hn : n = 0
      · rw [dif_pos hn]
        exact nofun
      · rw [dif_neg hn]
        intro c hc
        rcases List.mem_cons.1 hc with rfl | hc
        · exact h _ (Nat.mod_lt n (by decide))
        · exact ih (n / 58) (by omega) c hc

/-! ### Byte strings -/

/-- A list is so many copies of an element and what follows them. -/
theorem exists_replicate_append {α : Type} [DecidableEq α] (a : α) (l : List α) :
    ∃ n rest, l = List.replicate n a ++ rest ∧ rest.head? ≠ some a := by
  induction l with
  | nil => exact ⟨0, [], rfl, nofun⟩
  | cons b l ih =>
      by_cases hb : b = a
      · obtain ⟨n, rest, hl, hrest⟩ := ih
        exact ⟨n + 1, rest, by rw [hb, hl]; rfl, hrest⟩
      · exact ⟨0, b :: l, rfl, fun h => hb (Option.some.inj h)⟩

theorem takeWhile_replicate_append {α : Type} {p : α → Bool} {a : α} (ha : p a = true)
    (n : Nat) {rest : List α} (h : ∀ b, rest.head? = some b → p b = false) :
    (List.replicate n a ++ rest).takeWhile p = List.replicate n a := by
  induction n with
  | zero =>
      cases rest with
      | nil => rfl
      | cons b rest =>
          rw [List.replicate_zero, List.nil_append,
            List.takeWhile_cons_of_neg (by rw [h b rfl]; exact Bool.false_ne_true)]
  | succ n ih =>
      rw [List.replicate_succ, List.cons_append, List.takeWhile_cons_of_pos ha, ih]

/-- The text of a byte string, character by character. -/
theorem toList_encode (n : Nat) {rest : Bytes} (h : rest.head? ≠ some 0) :
    (encode (List.replicate n 0 ++ rest)).toList =
      List.replicate n '1' ++ (digitsLE (Bytes.toNat rest)).reverse := by
  have hzeros : (List.replicate n (0 : UInt8) ++ rest).takeWhile (· = 0) =
      List.replicate n 0 := by
    refine takeWhile_replicate_append (by decide) n fun b hb => ?_
    refine decide_eq_false fun h0 => h ?_
    rw [hb, h0]
  unfold encode
  rw [hzeros, String.toList_ofList, Bytes.toNat_zeros, List.map_replicate]

/-- The leading ones of a text tell the leading zeros. -/
theorem takeWhile_encode (n m : Nat) :
    (List.replicate n '1' ++ (digitsLE m).reverse).takeWhile (· = '1') =
      List.replicate n '1' := by
  refine takeWhile_replicate_append (by decide) n fun c hc => ?_
  refine decide_eq_false fun h1 => getLast?_digitsLE m ?_
  rw [← List.head?_reverse, hc, h1]

theorem valueOf_ones (place n : Nat) (rest : List Char) :
    valueOf place 0 (List.replicate n '1' ++ rest) = valueOf (place + n) 0 rest := by
  induction n generalizing place with
  | zero => rfl
  | succ n ih =>
      have hone : ('1' : Char) = digit 0 := by decide
      have hplace : place + 1 + n = place + (n + 1) := by omega
      rw [List.replicate_succ, List.cons_append, hone,
        valueOf_cons_digit place 0 (by decide), ← hone, ih, hplace]

/-- **A byte string is read back from its text.** -/
theorem decode_encode (bs : Bytes) : decode (encode bs) = .ok bs := by
  obtain ⟨n, rest, rfl, hrest⟩ := exists_replicate_append 0 bs
  -- The ones add nothing to the number, and the digits behind them do not begin with a one.
  have hvalue : valueOf 0 0 (List.replicate n '1' ++ (digitsLE (Bytes.toNat rest)).reverse) =
      .ok (Bytes.toNat rest) := by
    rw [valueOf_ones, valueOf_digits]
  unfold decode
  simp only [toList_encode n hrest, hvalue, takeWhile_encode]
  show Except.ok ((List.replicate n '1').map (fun _ => 0) ++ _) = _
  rw [List.map_replicate, Bytes.ofNat_width_toNat hrest]

/-- **A text that can be read is the text of what it is read to**: no byte string has two. -/
theorem encode_of_decode {s : String} {bs : Bytes} (h : decode s = .ok bs) : encode bs = s := by
  obtain ⟨z, cs, hs, hcs⟩ := exists_replicate_append '1' s.toList
  obtain ⟨n, hvalue, hbs⟩ := bind_eq_ok_iff.1 h
  have hdigits : (digitsLE n).reverse = cs := by
    rw [hs, valueOf_ones] at hvalue
    exact digits_of_valueOf hvalue hcs
  have hones : s.toList.takeWhile (· = '1') = List.replicate z '1' := by
    rw [hs, ← hdigits]
    exact takeWhile_encode z n
  obtain rfl := Except.ok.inj hbs
  rw [hones, List.map_replicate, ← String.toList_inj,
    toList_encode z (Bytes.head?_ofNat_width n), Bytes.toNat_ofNat_width, hdigits, hs]

/-- No text has a NUL. -/
theorem nul_not_mem_encode (bs : Bytes) : '\x00' ∉ (encode bs).toList := by
  obtain ⟨n, rest, rfl, hrest⟩ := exists_replicate_append 0 bs
  rw [toList_encode n hrest]
  intro h
  rcases List.mem_append.1 h with h | h
  · exact absurd (List.eq_of_mem_replicate h) (by decide)
  · have hne := forall_mem_digitsLE (motive := (· ≠ '\x00')) digit_ne_nul (Bytes.toNat rest)
    exact hne _ (List.mem_reverse.1 h) rfl

end Rendezvous.Base58
