import Mathlib.Data.Nat.Digits.Defs
import Mathlib.Data.String.Basic
import Rendezvous.Relay.CircuitId

/-!
# Rendezvous.Proofs.Relay.CircuitId

The text of a circuit's name is read back to it: 32 digits, cut into five groups by hyphens,
are put together again.

* `CircuitId.hexValue_hexText`: the digits of a number write it;
* `CircuitId.groups_append`, `CircuitId.groups_toText`: the groups between the hyphens;
* `CircuitId.parse_toText`.
-/

namespace Rendezvous.CircuitId

/-! ### Digits -/

theorem hexValue?_digitChar {n : Nat} (h : n < 16) :
    Bytes.hexValue? n.digitChar = some n := by
  have table : ∀ n < 16, Bytes.hexValue? (Nat.digitChar n) = some n := by decide
  exact table n h

theorem hexValue_append_singleton (cs : List Char) (c : Char) :
    hexValue (cs ++ [c]) = hexValue cs * 16 + (Bytes.hexValue? c).getD 0 := by
  rw [hexValue, List.foldl_append]
  rfl

theorem hexValue_toDigits (n : Nat) : hexValue (Nat.toDigits 16 n) = n := by
  induction n using Nat.strong_induction_on with
  | _ n ih =>
    -- The last digit is the remainder, and the digits in front of it write the quotient.
    by_cases h : n < 16
    · rw [Nat.toDigits_of_lt_base h, ← List.nil_append [_], hexValue_append_singleton,
        hexValue?_digitChar h]
      exact Nat.zero_add n
    · rw [Nat.toDigits_of_base_le (by decide) (Nat.le_of_not_lt h), hexValue_append_singleton,
        ih (n / 16) (by omega), hexValue?_digitChar (by omega)]
      exact Nat.div_add_mod' n 16

theorem hexValue_hexText (width n : Nat) : hexValue (hexText width n) = n := by
  have hzeros : ∀ k, hexValue (List.replicate k '0') = 0 := by
    intro k
    induction k with
    | zero => rfl
    | succ k ih =>
      rw [List.replicate_succ', hexValue_append_singleton, ih]
      rfl
  calc hexValue (hexText width n)
      = (Nat.toDigits 16 n).foldl (fun n c => n * 16 + (Bytes.hexValue? c).getD 0)
          (hexValue (List.replicate (width - (Nat.toDigits 16 n).length) '0')) := by
        rw [hexValue, hexText, List.foldl_append]
        rfl
    _ = n := by
        rw [hzeros]
        exact hexValue_toDigits n

theorem length_hexText {width n : Nat} (hwidth : 0 < width) (h : n < 16 ^ width) :
    (hexText width n).length = width := by
  have hlen := (Nat.length_toDigits_le_iff (by decide) hwidth).2 h
  simp only [hexText, List.length_append, List.length_replicate]
  omega

/-- A hexadecimal digit. -/
def IsHex (c : Char) : Prop := (Bytes.hexValue? c).isSome = true

theorem isHex_toDigits (n : Nat) : ∀ c ∈ Nat.toDigits 16 n, IsHex c := by
  have hdigit : ∀ d < 16, IsHex (Nat.digitChar d) := fun d hd => by
    rw [IsHex, hexValue?_digitChar hd]
    rfl
  induction n using Nat.strong_induction_on with
  | _ n ih =>
    intro c hc
    by_cases h : n < 16
    · rw [Nat.toDigits_of_lt_base h] at hc
      rw [List.mem_singleton.1 hc]
      exact hdigit n h
    · rw [Nat.toDigits_of_base_le (by decide) (Nat.le_of_not_lt h)] at hc
      rcases List.mem_append.1 hc with hc | hc
      · exact ih (n / 16) (by omega) c hc
      · rw [List.mem_singleton.1 hc]
        exact hdigit (n % 16) (by omega)

theorem isHex_hexText (width n : Nat) : ∀ c ∈ hexText width n, IsHex c := by
  intro c hc
  rcases List.mem_append.1 hc with hc | hc
  · rw [(List.mem_replicate.1 hc).2]
    rfl
  · exact isHex_toDigits n c hc

/-! ### Groups -/

theorem IsHex.ne {c d : Char} (h : IsHex c) (hd : Bytes.hexValue? d = none) : c ≠ d := by
  rintro rfl
  rw [IsHex, hd] at h
  contradiction

variable {g : List Char}

/-- A digit joins the first of the groups behind it. -/
theorem groups_cons {c : Char} {cs rest : List Char} {gs : List (List Char)} (hc : IsHex c)
    (h : groups cs = rest :: gs) : groups (c :: cs) = (c :: rest) :: gs := by
  unfold groups at h ⊢
  rw [List.foldr_cons, h, if_neg (hc.ne (by decide))]

theorem groups_append (hg : ∀ c ∈ g, IsHex c) (rest : List Char) :
    groups (g ++ '-' :: rest) = g :: groups rest := by
  induction g with
  | nil => rfl
  | cons c g ih =>
    obtain ⟨hc, hg⟩ := List.forall_mem_cons.1 hg
    exact groups_cons hc (ih hg)

theorem groups_of_hex (hg : ∀ c ∈ g, IsHex c) : groups g = [g] := by
  induction g with
  | nil => rfl
  | cons c g ih =>
    obtain ⟨hc, hg⟩ := List.forall_mem_cons.1 hg
    exact groups_cons hc (ih hg)

theorem foreign?_eq_none {cs : List Char} (h : ∀ c ∈ cs, c = '-' ∨ IsHex c) (place : Nat) :
    foreign? place cs = none := by
  induction cs generalizing place with
  | nil => rfl
  | cons c cs ih =>
    obtain ⟨hc, hcs⟩ := List.forall_mem_cons.1 h
    exact (if_pos hc).trans (ih hcs _)

/-- Nothing stands around digits. -/
theorem unwrap_of_hex {c : Char} (hc : IsHex c) (cs : List Char) :
    unwrap (c :: cs) = (c :: cs, 0) := by
  unfold unwrap
  split
  case h_1 h => exact ((hc.ne (by decide)) (List.cons.inj h).1).elim
  case h_2 h => exact ((hc.ne (by decide)) (List.cons.inj h).1).elim
  case h_3 => rfl

/-- Five groups of the usual lengths write a number. -/
theorem parse_groups {a b c d e : List Char} {s : String}
    (hs : s.toList = a ++ '-' :: (b ++ '-' :: (c ++ '-' :: (d ++ '-' :: e))))
    (hhex : ∀ x ∈ a ++ (b ++ (c ++ (d ++ e))), IsHex x)
    (hlengths : [a, b, c, d, e].map List.length = groupLengths) :
    parse s = .ok ⟨hexValue (a ++ (b ++ (c ++ (d ++ e))))⟩ := by
  simp only [List.mem_append, or_imp, forall_and] at hhex
  obtain ⟨ha, hb, hc, hd, he⟩ := hhex
  simp only [List.map_cons, List.map_nil, groupLengths, List.cons.injEq, and_true] at hlengths
  obtain ⟨hla, hlb, hlc, hld, hle⟩ := hlengths
  have hunwrap : unwrap s.toList = (s.toList, 0) := by
    obtain ⟨x, xs, rfl⟩ := List.exists_cons_of_length_eq_add_one hla
    rw [hs]
    exact unwrap_of_hex (ha x List.mem_cons_self) _
  have hforeign : foreign? 0 s.toList = none := by
    refine foreign?_eq_none (fun x hx => ?_) 0
    rw [hs] at hx
    simp only [List.mem_append, List.mem_cons] at hx
    rcases hx with hx | rfl | hx | rfl | hx | rfl | hx | rfl | hx
    exacts [.inr (ha x hx), .inl rfl, .inr (hb x hx), .inl rfl, .inr (hc x hx), .inl rfl,
      .inr (hd x hx), .inl rfl, .inr (he x hx)]
  have hgroups : groups s.toList = [a, b, c, d, e] := by
    rw [hs, groups_append ha, groups_append hb, groups_append hc, groups_append hd,
      groups_of_hex he]
  have hgood : badGroup? 0 groupLengths [a, b, c, d, e] = none := by
    simp [badGroup?, groupLengths, hla, hlb, hlc, hld, hle]
  simp [parse, hunwrap, hforeign, hgroups, hgood]

/-- The groups of 32 digits, put together again. -/
theorem take_groups {ds : List Char} (h : ds.length = 32) :
    ds.take 8 ++ ((ds.drop 8).take 4 ++ ((ds.drop 12).take 4 ++ ((ds.drop 16).take 4 ++
      (ds.drop 20).take 12))) = ds := by
  have hcut : ∀ n k, (ds.drop n).take k ++ ds.drop (n + k) = ds.drop n := fun n k => by
    rw [← List.drop_drop, List.take_append_drop]
  have hlast : (ds.drop 20).take 12 = ds.drop 20 := List.take_of_length_le (by simp [h])
  rw [hlast, hcut 16 4, hcut 12 4, hcut 8 4, List.take_append_drop]

/-- **The text of a name is read back.** -/
theorem parse_toText {c : CircuitId} (h : c.value < 2 ^ 128) : parse c.toText = .ok c := by
  have hlen : (hexText 32 c.value).length = 32 := length_hexText (by decide) (by omega)
  have hjoined := take_groups hlen
  have htext : c.toText.toList = (hexText 32 c.value).take 8 ++ '-' ::
      (((hexText 32 c.value).drop 8).take 4 ++ '-' :: (((hexText 32 c.value).drop 12).take 4 ++
        '-' :: (((hexText 32 c.value).drop 16).take 4 ++
          '-' :: ((hexText 32 c.value).drop 20).take 12))) := by
    simp [toText]
  have hhex := isHex_hexText 32 c.value
  rw [← hjoined] at hhex
  rw [parse_groups htext hhex (by simp [groupLengths, hlen]), hjoined, hexValue_hexText]

end Rendezvous.CircuitId
