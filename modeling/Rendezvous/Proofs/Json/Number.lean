import Rendezvous.Json.Reader
import Rendezvous.Proofs.Bytes.Basic

/-!
# Rendezvous.Proofs.Json.Number

A whole number is read back from its decimal digits, where nothing follows that could belong
to a number.

* `Json.Ends`: what may follow a value;
* `Json.takeDigits_append`, `Json.foldl_addWhole`: its digits, taken and summed up;
* `Json.readNumber_nat`, `Json.readNumber_negSucc`.
-/

namespace Rendezvous.Json

open Bytes (utf8)

/-- Nothing follows a value, or a comma or a closing bracket or brace. -/
def Ends (rest : Bytes) : Prop := ∀ b, rest.head? = some b → b = 44 ∨ b = 93 ∨ b = 125

theorem ends_nil : Ends [] := nofun

theorem ends_cons {b : UInt8} (h : b = 44 ∨ b = 93 ∨ b = 125) (rest : Bytes) :
    Ends (b :: rest) := by
  intro c hc
  cases hc
  exact h

/-! ### Decimal digits -/

/-- The byte of a digit. -/
def digitByte (d : Nat) : UInt8 := UInt8.ofNat (48 + d)

theorem utf8_digitChar : ∀ d < 10, utf8 d.digitChar = [digitByte d] := by decide

theorem isDigitByte_digitByte : ∀ d < 10, isDigitByte (digitByte d) = true := by decide

theorem toNat_digitByte : ∀ d < 10, (digitByte d).toNat - 48 = d := by decide

theorem digitByte_ne_zero : ∀ d < 10, d ≠ 0 → digitByte d ≠ 48 := by decide

/-- The digits of a number. -/
def digits (n : Nat) : Bytes := Bytes.ofString (toString n)

theorem digits_of_lt {n : Nat} (h : n < 10) : digits n = [digitByte n] := by
  rw [digits, Nat.toString_eq_ofList_toDigits, Bytes.ofString_ofList,
    Nat.toDigits_of_lt_base h, List.flatMap_singleton, utf8_digitChar n h]

theorem digits_of_le {n : Nat} (h : 10 ≤ n) :
    digits n = digits (n / 10) ++ [digitByte (n % 10)] := by
  have hmod : n % 10 < 10 := Nat.mod_lt n (by decide)
  rw [digits, digits, Nat.toString_eq_ofList_toDigits, Nat.toString_eq_ofList_toDigits,
    Bytes.ofString_ofList, Bytes.ofString_ofList, Nat.toDigits_of_base_le (by decide) h,
    List.flatMap_append, List.flatMap_singleton, utf8_digitChar _ hmod]

/-- What holds of a single digit and is kept by one more digit holds of all numbers. -/
theorem digits_induction {motive : Nat → Prop} (single : ∀ n < 10, motive n)
    (more : ∀ n, 10 ≤ n → motive (n / 10) → motive n) (n : Nat) : motive n := by
  induction n using Nat.strongRecOn with
  | ind n ih =>
      by_cases h : n < 10
      · exact single n h
      · exact more n (Nat.not_lt.1 h) (ih (n / 10) (by omega))

theorem isDigitByte_of_mem_digits (n : Nat) : ∀ b ∈ digits n, isDigitByte b = true := by
  induction n using digits_induction with
  | single n h =>
      rw [digits_of_lt h]
      intro b hb
      obtain rfl := List.mem_singleton.1 hb
      exact isDigitByte_digitByte n h
  | more n h ih =>
      rw [digits_of_le h]
      intro b hb
      rcases List.mem_append.1 hb with hb | hb
      · exact ih b hb
      · obtain rfl := List.mem_singleton.1 hb
        exact isDigitByte_digitByte _ (Nat.mod_lt n (by decide))

/-- The digits of a number begin with a zero only if they are one zero. -/
theorem digits_eq_cons (n : Nat) :
    ∃ b bs, digits n = b :: bs ∧ isDigitByte b = true ∧ (b = 48 → n = 0 ∧ bs = []) := by
  induction n using digits_induction with
  | single n h =>
      refine ⟨digitByte n, [], digits_of_lt h, isDigitByte_digitByte n h, fun hb => ?_⟩
      by_cases hn : n = 0
      · exact ⟨hn, rfl⟩
      · exact absurd hb (digitByte_ne_zero n h hn)
  | more n h ih =>
      obtain ⟨b, bs, hbs, hdigit, hzero⟩ := ih
      refine ⟨b, bs ++ [digitByte (n % 10)], ?_, hdigit, fun hb => ?_⟩
      · rw [digits_of_le h, hbs, List.cons_append]
      · have hdiv := (hzero hb).1
        omega

/-- The digits of a number that fits sum up to it. -/
theorem foldl_addWhole {n : Nat} (h : n ≤ maxNat) :
    (digits n).foldl (fun d b => d.addWhole (b.toNat - 48)) ⟨0, 0, false⟩ =
      (⟨n, 0, false⟩ : Decimal) := by
  induction n using digits_induction with
  | single n hn =>
      rw [digits_of_lt hn, List.foldl_cons, List.foldl_nil, toNat_digitByte n hn,
        Decimal.addWhole]
      simp [Nat.not_lt.2 h]
  | more n hn ih =>
      have hmod : n % 10 < 10 := Nat.mod_lt n (by decide)
      have hsum : n / 10 * 10 + n % 10 = n := Nat.div_add_mod' n 10
      rw [digits_of_le hn, List.foldl_append,
        ih (Nat.le_trans (Nat.div_le_self n 10) h), List.foldl_cons, List.foldl_nil,
        toNat_digitByte _ hmod, Decimal.addWhole]
      simp [hsum, Nat.not_lt.2 h]

/-! ### Reading -/

variable {rest : Bytes} (hr : Ends rest) (p : Place)
include hr

theorem not_isDigitByte_of_ends {b : UInt8} (hb : rest.head? = some b) :
    isDigitByte b = false := by
  rcases hr b hb with rfl | rfl | rfl <;> decide

/-- All digits in front of what ends a value are taken. -/
theorem takeDigits_append {ds : Bytes} (h : ∀ b ∈ ds, isDigitByte b = true) :
    ∃ p', takeDigits (ds ++ rest) p = (ds, ⟨rest, p'⟩) := by
  induction ds generalizing p with
  | nil =>
      refine ⟨p, ?_⟩
      cases hrest : rest with
      | nil => rfl
      | cons b bs =>
          have hb := not_isDigitByte_of_ends hr (b := b) (by rw [hrest]; rfl)
          rw [List.nil_append, takeDigits, hb]
          rfl
  | cons b ds ih =>
      obtain ⟨p', hp'⟩ := ih (Cursor.step p b) fun c hc => h c (List.mem_cons_of_mem b hc)
      refine ⟨p', ?_⟩
      rw [List.cons_append, takeDigits, if_pos (h b List.mem_cons_self), hp']

theorem readWhole_digits (n : Nat) :
    ∃ p', readWhole ⟨digits n ++ rest, p⟩ = .ok (digits n, ⟨rest, p'⟩) := by
  obtain ⟨p', hp'⟩ := takeDigits_append hr p (isDigitByte_of_mem_digits n)
  obtain ⟨b, bs, hbs, -, hzero⟩ := digits_eq_cons n
  refine ⟨p', ?_⟩
  rw [readWhole, hp', hbs]
  split
  · rename_i heq
    cases heq
  · rename_i heq
    cases heq
    cases (hzero rfl).2
  · rename_i heq
    cases heq
    rfl

theorem readPlaces_of_ends : readPlaces ⟨rest, p⟩ = .ok (none, ⟨rest, p⟩) := by
  unfold readPlaces
  cases hrest : rest with
  | nil => rfl
  | cons b bs =>
      have hne : b ≠ 46 := by
        rcases hr b (by rw [hrest]; rfl) with rfl | rfl | rfl <;> decide
      exact if_neg hne

theorem readExponent_of_ends : readExponent ⟨rest, p⟩ = .ok (none, ⟨rest, p⟩) := by
  unfold readExponent
  cases hrest : rest with
  | nil => rfl
  | cons b bs =>
      have hne : ¬ (b = 101 ∨ b = 69) := by
        rcases hr b (by rw [hrest]; rfl) with rfl | rfl | rfl <;> decide
      exact if_neg hne

/-- **A whole number is read back.** -/
theorem readNumber_nat {n : Nat} (h : n < 2 ^ 64) :
    ∃ p', readNumber ⟨digits n ++ rest, p⟩ = .ok (.number (.ok (.nat n)) p p', ⟨rest, p'⟩) := by
  have hmax : n ≤ maxNat := Nat.le_pred_of_lt h
  obtain ⟨p', hp'⟩ := readWhole_digits hr p n
  obtain ⟨b, bs, hbs, hdigit, -⟩ := digits_eq_cons n
  have hne : b ≠ 45 := by
    rintro rfl
    cases hdigit
  have hvalue : numberValue false (digits n) none none = some (.nat n) := by
    simp [numberValue, foldl_addWhole hmax]
  rw [hbs] at hvalue
  rw [hbs, List.cons_append] at hp' ⊢
  refine ⟨p', ?_⟩
  simp only [readNumber, if_neg hne, hp', readPlaces_of_ends hr, readExponent_of_ends hr,
    hvalue, bind, Except.bind, pure, Except.pure]

/-- **A negative whole number is read back.** -/
theorem readNumber_negSucc {n : Nat} (h : n < 2 ^ 63) :
    ∃ p', readNumber ⟨45 :: digits (n + 1) ++ rest, p⟩ =
      .ok (.number (.ok (.negSucc n)) p p', ⟨rest, p'⟩) := by
  have hle : n + 1 ≤ 2 ^ 63 := h
  have hmax : n + 1 ≤ maxNat := Nat.le_trans hle (by decide)
  obtain ⟨p', hp'⟩ := readWhole_digits hr (Cursor.step p 45) (n + 1)
  have hvalue : numberValue true (digits (n + 1)) none none = some (.negSucc n) := by
    have hle' : n + 1 ≤ Nat.pow 2 63 := hle
    simp [numberValue, foldl_addWhole hmax, hle']
  refine ⟨p', ?_⟩
  simp only [readNumber, List.cons_append, if_true, hp', readPlaces_of_ends hr,
    readExponent_of_ends hr, hvalue, bind, Except.bind, pure, Except.pure]

end Rendezvous.Json
