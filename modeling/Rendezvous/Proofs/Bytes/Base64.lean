import Rendezvous.Bytes.Base64

/-!
# Rendezvous.Proofs.Bytes.Base64

A byte string is read back from its base-64 text.

* `Base64.forall_mem_encodeChars`: the characters of a text are digits and padding;
* `Base64.decode?_encode`.
-/

namespace Rendezvous.Base64

/-! ### Digits -/

theorem value?_digit : ∀ d < 64, value? (digit d) = some d := by decide

theorem digit_ne_pad : ∀ d < 64, digit d ≠ '=' := by decide

/-- A group whose last digit is not padding stands for three bytes. -/
theorem decodeChars?_digits {i j k l : Nat} (hi : i < 64) (hj : j < 64) (hk : k < 64)
    (hl : l < 64) (rest : List Char) :
    decodeChars? (digit i :: digit j :: digit k :: digit l :: rest) =
      (decodeChars? rest).map fun bs =>
        let n := ((i * 64 + j) * 64 + k) * 64 + l
        UInt8.ofNat (n / 65536) :: UInt8.ofNat (n / 256) :: UInt8.ofNat n :: bs := by
  have hpad := digit_ne_pad l hl
  rw [decodeChars?.eq_4 _ _ _ _ _ (fun _ h _ => hpad h) (fun h _ => hpad h), value?_digit i hi,
    value?_digit j hj, value?_digit k hk, value?_digit l hl]
  cases decodeChars? rest <;> rfl

/-- The byte of a number is that of its lowest eight bits. -/
theorem ofNat_eq_of_mod {n : Nat} {b : UInt8} (h : n % 256 = b.toNat) : UInt8.ofNat n = b :=
  UInt8.toNat_inj.1 (by rw [UInt8.toNat_ofNat', h])

/-- The bytes are read back, three at a time, and the last one or two by themselves. -/
theorem decodeChars?_encodeChars (bs : Bytes) : decodeChars? (encodeChars bs) = some bs := by
  fun_induction encodeChars bs with
  | case1 => rfl
  | case2 a n =>
      have ha := a.toNat_lt
      have hn : n / 64 * 64 + n % 64 = n := by omega
      have hmod : n % 16 = 0 := by omega
      have hfirst : UInt8.ofNat (n / 16) = a := ofNat_eq_of_mod (by omega)
      rw [decodeChars?, value?_digit (n / 64) (by omega), value?_digit (n % 64) (by omega)]
      simp only [Option.bind_eq_bind, Option.bind_some, hn, if_pos hmod, hfirst]
  | case3 a b n =>
      have ha := a.toNat_lt
      have hb := b.toNat_lt
      have hn : (n / 4096 * 64 + n / 64 % 64) * 64 + n % 64 = n := by omega
      have hmod : n % 4 = 0 := by omega
      have hfirst : UInt8.ofNat (n / 1024) = a := ofNat_eq_of_mod (by omega)
      have hsecond : UInt8.ofNat (n / 4) = b := ofNat_eq_of_mod (by omega)
      rw [decodeChars?, value?_digit (n / 4096) (by omega), value?_digit (n / 64 % 64) (by omega),
        value?_digit (n % 64) (by omega)]
      · simp only [Option.bind_eq_bind, Option.bind_some, hn, if_pos hmod, hfirst, hsecond]
      · exact digit_ne_pad (n % 64) (by omega)
  | case4 a b c rest n ih =>
      have ha := a.toNat_lt
      have hb := b.toNat_lt
      have hc := c.toNat_lt
      have hn : ((n / 262144 * 64 + n / 4096 % 64) * 64 + n / 64 % 64) * 64 + n % 64 = n := by
        omega
      have hfirst : UInt8.ofNat (n / 65536) = a := ofNat_eq_of_mod (by omega)
      have hsecond : UInt8.ofNat (n / 256) = b := ofNat_eq_of_mod (by omega)
      have hthird : UInt8.ofNat n = c := ofNat_eq_of_mod (by omega)
      rw [decodeChars?_digits (by omega) (by omega) (by omega) (by omega), ih, Option.map_some]
      simp only [hn, hfirst, hsecond, hthird]

/-- **A byte string is read back from its text.** -/
theorem decode?_encode (bs : Bytes) : decode? (encode bs) = some bs := by
  rw [decode?, encode, String.toList_ofList]
  exact decodeChars?_encodeChars bs

/-! ### Characters -/

theorem encodeChars_ne_nil {bs : Bytes} (h : bs ≠ []) : encodeChars bs ≠ [] := by
  fun_cases encodeChars bs with
  | case1 => exact absurd rfl h
  | _ => exact List.cons_ne_nil _ _

/-- A text has digits and padding only. -/
theorem forall_mem_encodeChars {motive : Char → Prop} (hdigit : ∀ d < 64, motive (digit d))
    (hpad : motive '=') (bs : Bytes) : ∀ c ∈ encodeChars bs, motive c := by
  fun_induction encodeChars bs with
  | case1 => exact nofun
  | case2 a n =>
      have ha := a.toNat_lt
      simp only [List.forall_mem_cons]
      exact ⟨hdigit _ (by omega), hdigit _ (by omega), hpad, hpad, nofun⟩
  | case3 a b n =>
      have ha := a.toNat_lt
      have hb := b.toNat_lt
      simp only [List.forall_mem_cons]
      exact ⟨hdigit _ (by omega), hdigit _ (by omega), hdigit _ (by omega), hpad, nofun⟩
  | case4 a b c rest n ih =>
      have ha := a.toNat_lt
      have hb := b.toNat_lt
      have hc := c.toNat_lt
      simp only [List.forall_mem_cons]
      exact ⟨hdigit _ (by omega), hdigit _ (by omega), hdigit _ (by omega), hdigit _ (by omega),
        ih⟩

end Rendezvous.Base64
