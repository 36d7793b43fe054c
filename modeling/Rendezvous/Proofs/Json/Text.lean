import Rendezvous.Json.Reader
import Rendezvous.Proofs.Bytes.Basic

/-!
# Rendezvous.Proofs.Json.Text

A quoted text is read back. Each character is written as itself, as an escape of one letter,
or by its number; whichever it is, the reader has its UTF-8 bytes in hand behind it and is
where it was before, so a whole text is its characters one after the other.

* `Json.readText_plain`, `Json.readText_simple`, `Json.readText_control`: the three ways;
* `Json.readText_escape`, `Json.readText_escapes`: a character, and all of them;
* `Json.readText_quote`.
-/

namespace Rendezvous.Json

open Bytes (utf8)

/-- A reader inside a quoted text that has met no mistake and no half of a pair. -/
abbrev TextState.at (reversed : Bytes) : TextState := ⟨reversed, none, none⟩

/-- A byte that stands for itself inside a quoted text. -/
def IsPlain (b : UInt8) : Prop := b ≠ 34 ∧ b ≠ 92 ∧ 32 ≤ b.toNat

variable (rev more : Bytes) (p : Place)

/-! ### One character -/

/-- Plain bytes are taken as they are. -/
theorem readText_plain {bs : Bytes} (h : ∀ b ∈ bs, IsPlain b) :
    ∃ p', readText (.at rev) (bs ++ more) p = readText (.at (bs.reverse ++ rev)) more p' := by
  induction bs generalizing rev p with
  | nil => exact ⟨p, rfl⟩
  | cons b bs ih =>
      obtain ⟨hquote, hslash, hctl⟩ := h b List.mem_cons_self
      obtain ⟨p', hp'⟩ := ih (b :: rev) (Cursor.step p b)
        fun c hc => h c (List.mem_cons_of_mem b hc)
      refine ⟨p', ?_⟩
      have hrev : (b :: bs).reverse ++ rev = bs.reverse ++ b :: rev := by simp
      rw [List.cons_append, readText.eq_def]
      simp only [if_neg hquote, if_neg hslash, if_neg (Nat.not_lt.2 hctl)]
      rw [hrev, ← hp']
      rfl

/-- An escape of one letter is the byte that the letter stands for. -/
theorem readText_simple {e byte : UInt8} (he : e ≠ 117) (h : simpleEscape? e = some byte) :
    ∃ p', readText (.at rev) (92 :: e :: more) p = readText (.at (byte :: rev)) more p' := by
  refine ⟨Cursor.step (Cursor.step p 92) e, ?_⟩
  rw [readText.eq_def]
  simp only [if_neg (show (92 : UInt8) ≠ 34 by decide), if_true, if_neg he, h]
  rfl

theorem hexByte?_hexDigit : ∀ n < 16,
    hexByte? (UInt8.ofNat (Bytes.hexDigit n).toNat) = some n := by decide

theorem utf8_hexDigit : ∀ n < 16,
    utf8 (Bytes.hexDigit n) = [UInt8.ofNat (Bytes.hexDigit n).toNat] := by decide

/-- A character below the blank, by its number. -/
theorem readText_control {c : Char} (h : c.toNat < 32) :
    ∃ p', readText (.at rev)
        (92 :: 117 :: 48 :: 48 :: UInt8.ofNat (Bytes.hexDigit (c.toNat / 16)).toNat
          :: UInt8.ofNat (Bytes.hexDigit (c.toNat % 16)).toNat :: more) p =
      readText (.at ((utf8 c).reverse ++ rev)) more p' := by
  have hzero : hexByte? 48 = some 0 := by decide
  have hvalue : ((0 * 16 + 0) * 16 + c.toNat / 16) * 16 + c.toNat % 16 = c.toNat := by omega
  -- A number below 32 is no half of a surrogate pair, and stands for itself.
  have hlow : ¬ (0xDC00 ≤ c.toNat ∧ c.toNat ≤ 0xDFFF) := by omega
  have hhigh : ¬ (0xD800 ≤ c.toNat ∧ c.toNat ≤ 0xDBFF) := by omega
  have hbytes : codePointBytes c.toNat = utf8 c := by
    rw [codePointBytes, Char.ofNat_toNat, String.singleton_eq_ofList, Bytes.ofString_ofList]
    simp
  rw [readText.eq_def]
  simp only [if_neg (show (92 : UInt8) ≠ 34 by decide), if_true,
    hzero, hexByte?_hexDigit _ (show c.toNat / 16 < 16 by omega),
    hexByte?_hexDigit _ (show c.toNat % 16 < 16 by omega), hvalue, TextState.pushUnit,
    if_neg hlow, if_neg hhigh, TextState.settle, hbytes]
  exact ⟨_, rfl⟩

/-- A character that needs no escape is made of plain bytes. -/
theorem isPlain_of_mem_utf8 {c : Char} (hquote : c ≠ '"') (hslash : c ≠ '\\')
    (hctl : 32 ≤ c.toNat) {b : UInt8} (hb : b ∈ utf8 c) : IsPlain b := by
  by_cases hascii : c.toNat < 128
  · rw [Bytes.utf8_of_ascii hascii] at hb
    obtain rfl := List.mem_singleton.1 hb
    have htoNat : (UInt8.ofNat c.toNat).toNat = c.toNat := by
      rw [UInt8.toNat_ofNat', Nat.mod_eq_of_lt (by omega)]
    have hne {d : Char} (hd : c ≠ d) {n : Nat} (hn : d.toNat = n) (hlt : n < 256) :
        UInt8.ofNat c.toNat ≠ UInt8.ofNat n := by
      intro h
      have hnat := congrArg UInt8.toNat h
      rw [htoNat, UInt8.toNat_ofNat', Nat.mod_eq_of_lt hlt, ← hn] at hnat
      exact hd (Char.toNat_inj.1 hnat)
    exact ⟨hne hquote rfl (by decide), hne hslash rfl (by decide), by rwa [htoNat]⟩
  · have hle := Bytes.le_of_mem_utf8 (Nat.not_lt.1 hascii) hb
    refine ⟨fun h => ?_, fun h => ?_, by omega⟩
    · rw [h] at hle
      exact absurd hle (by decide)
    · rw [h] at hle
      exact absurd hle (by decide)

/-- Behind a character as it is written, the reader has its bytes. -/
theorem readText_escape (c : Char) :
    ∃ p', readText (.at rev) ((escape c).flatMap utf8 ++ more) p =
      readText (.at ((utf8 c).reverse ++ rev)) more p' := by
  unfold escape
  split_ifs with hquote hslash h8 h12 h10 h13 h9 hctl
  · subst hquote
    exact readText_simple rev more p (e := 34) (by decide) rfl
  · subst hslash
    exact readText_simple rev more p (e := 92) (by decide) rfl
  · subst h8
    exact readText_simple rev more p (e := 98) (by decide) rfl
  · subst h12
    exact readText_simple rev more p (e := 102) (by decide) rfl
  · subst h10
    exact readText_simple rev more p (e := 110) (by decide) rfl
  · subst h13
    exact readText_simple rev more p (e := 114) (by decide) rfl
  · subst h9
    exact readText_simple rev more p (e := 116) (by decide) rfl
  · -- The only escape that spells a number.
    have hbytes : ['\\', 'u', '0', '0', Bytes.hexDigit (c.toNat / 16),
        Bytes.hexDigit (c.toNat % 16)].flatMap utf8 =
        [92, 117, 48, 48, UInt8.ofNat (Bytes.hexDigit (c.toNat / 16)).toNat,
          UInt8.ofNat (Bytes.hexDigit (c.toNat % 16)).toNat] := by
      simp only [List.flatMap_cons, List.flatMap_nil,
        utf8_hexDigit _ (show c.toNat / 16 < 16 by omega),
        utf8_hexDigit _ (show c.toNat % 16 < 16 by omega)]
      rfl
    rw [hbytes]
    exact readText_control rev more p hctl
  · rw [List.flatMap_singleton]
    exact readText_plain rev more p
      fun b hb => isPlain_of_mem_utf8 hquote hslash (Nat.not_lt.1 hctl) hb

/-! ### All characters -/

theorem readText_escapes (cs : List Char) :
    ∃ p', readText (.at rev) ((cs.flatMap escape).flatMap utf8 ++ more) p =
      readText (.at ((cs.flatMap utf8).reverse ++ rev)) more p' := by
  induction cs generalizing rev p with
  | nil => exact ⟨p, rfl⟩
  | cons c cs ih =>
      obtain ⟨p', hp'⟩ := readText_escape rev ((cs.flatMap escape).flatMap utf8 ++ more) p c
      obtain ⟨p'', hp''⟩ := ih ((utf8 c).reverse ++ rev) p'
      refine ⟨p'', ?_⟩
      rw [List.flatMap_cons, List.flatMap_append, List.append_assoc, hp', hp'',
        List.flatMap_cons, List.reverse_append, List.append_assoc]

/-- **A quoted text is read back.** -/
theorem readText_quote (s : String) :
    ∃ p', readText (.at []) ((s.toList.flatMap escape).flatMap utf8 ++ 34 :: more) p =
      .ok (.ok s, ⟨more, p'⟩) := by
  obtain ⟨p', hp'⟩ := readText_escapes [] (34 :: more) p s.toList
  refine ⟨Cursor.step p' 34, ?_⟩
  rw [hp', readText.eq_def, List.append_nil]
  simp only [if_true, TextState.finish, TextState.settle, List.reverse_reverse,
    ← Bytes.ofString_eq, Bytes.toString?_ofString]

/-- The bytes of a quoted text. -/
theorem ofString_quote (s : String) :
    Bytes.ofString (quote s) = 34 :: ((s.toList.flatMap escape).flatMap utf8 ++ [34]) := by
  rw [quote, Bytes.ofString_ofList, List.flatMap_append, List.flatMap_append]
  rfl

end Rendezvous.Json
