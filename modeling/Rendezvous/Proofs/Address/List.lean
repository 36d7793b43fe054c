import Mathlib.Data.String.Basic
import Rendezvous.Address.List

/-!
# Rendezvous.Proofs.Address.List

Cutting a text at a character is cutting its characters at it, and so is the reading of
addresses and of lists of them, which begins with a cut.

* `Text.splitOn_singleton`;
* `Multiaddr.parse_eq`, `Multiaddr.parseList_eq`.
-/

namespace Rendezvous

namespace Text

open String

/-- The part of a text between two places between its characters. -/
theorem extract_middle (l m r : List Char) :
    Pos.Raw.extract (ofList (l ++ m ++ r)) ⟨utf8Len l⟩ ⟨utf8Len (l ++ m)⟩ = ofList m := by
  rw [utf8Len_append]
  exact extract_of_valid l m r

section Steps

variable {c sep : Char} (l m r : List Char) (acc : List String)

theorem not_atEnd_cons :
    ¬ Pos.Raw.atEnd (ofList (l ++ m ++ c :: r)) ⟨utf8Len (l ++ m)⟩ = true := by
  intro h
  have hnil := (atEnd_of_valid _ _).1 h
  contradiction

theorem next_cons :
    Pos.Raw.next (ofList (l ++ m ++ c :: r)) ⟨utf8Len (l ++ m)⟩ = ⟨utf8Len (l ++ m ++ [c])⟩ := by
  rw [next_of_valid (l ++ m) c r, utf8Len_append (l ++ m) [c]]
  simp

/-- At the separator what has been passed over is cut off. -/
theorem splitOnAux_cons_self :
    splitOnAux (ofList (l ++ m ++ sep :: r)) (singleton sep) ⟨utf8Len l⟩ ⟨utf8Len (l ++ m)⟩ 0 acc =
      splitOnAux (ofList (l ++ m ++ [sep] ++ [] ++ r)) (singleton sep) ⟨utf8Len (l ++ m ++ [sep])⟩
        ⟨utf8Len (l ++ m ++ [sep] ++ [])⟩ 0 (ofList m :: acc) := by
  have hget : Pos.Raw.get (ofList (l ++ m ++ sep :: r)) ⟨utf8Len (l ++ m)⟩ = sep :=
    get_of_valid (l ++ m) (sep :: r)
  have hsep : Pos.Raw.get (singleton sep) 0 = sep := get_of_valid [] [sep]
  have hsepNext : Pos.Raw.next (singleton sep) 0 = ⟨utf8Len [sep]⟩ := by
    simpa using next_of_valid [] sep []
  have hsepEnd : Pos.Raw.atEnd (singleton sep) ⟨utf8Len [sep]⟩ = true :=
    (atEnd_of_valid [sep] []).2 rfl
  -- The place before the separator, found from the one behind it.
  have hback : (⟨utf8Len (l ++ m ++ [sep])⟩ : Pos.Raw).unoffsetBy ⟨utf8Len [sep]⟩ =
      ⟨utf8Len (l ++ m)⟩ := by
    rw [utf8Len_append (l ++ m) [sep], Pos.Raw.ext_iff]
    exact Nat.add_sub_cancel _ _
  have hwhole : l ++ m ++ [sep] ++ [] ++ r = l ++ m ++ sep :: r := by simp
  rw [splitOnAux, if_neg (not_atEnd_cons l m r), hget, hsep, next_cons]
  dsimp only
  rw [if_pos (beq_self_eq_true sep), hsepNext, if_pos hsepEnd, hback, extract_middle, hwhole,
    List.append_nil]

/-- Any other character is passed over. -/
theorem splitOnAux_cons_of_ne (hc : c ≠ sep) :
    splitOnAux (ofList (l ++ m ++ c :: r)) (singleton sep) ⟨utf8Len l⟩ ⟨utf8Len (l ++ m)⟩ 0 acc =
      splitOnAux (ofList (l ++ (m ++ [c]) ++ r)) (singleton sep) ⟨utf8Len l⟩
        ⟨utf8Len (l ++ (m ++ [c]))⟩ 0 acc := by
  have hget : Pos.Raw.get (ofList (l ++ m ++ c :: r)) ⟨utf8Len (l ++ m)⟩ = c :=
    get_of_valid (l ++ m) (c :: r)
  have hsep : Pos.Raw.get (singleton sep) 0 = sep := get_of_valid [] [sep]
  have hstay : (⟨utf8Len (l ++ m)⟩ : Pos.Raw).unoffsetBy 0 = ⟨utf8Len (l ++ m)⟩ := rfl
  have hwhole : l ++ m ++ [c] ++ r = l ++ m ++ c :: r := by simp
  rw [splitOnAux, if_neg (not_atEnd_cons l m r), hget, hsep, if_neg (by simpa using hc), hstay,
    next_cons, ← List.append_assoc l m [c], hwhole]

end Steps

/-- Cutting at a character from `m` on, of which nothing was cut off yet. -/
theorem splitOnAux_singleton (sep : Char) (l m r : List Char) (acc : List String) :
    splitOnAux (ofList (l ++ m ++ r)) (singleton sep) ⟨utf8Len l⟩ ⟨utf8Len (l ++ m)⟩ 0 acc =
      acc.reverse ++ (List.splitOnPPrepend (· == sep) r m.reverse).map ofList := by
  induction r generalizing l m acc with
  | nil =>
    have hend : Pos.Raw.atEnd (ofList (l ++ m ++ [])) ⟨utf8Len (l ++ m)⟩ = true :=
      (atEnd_of_valid _ _).2 rfl
    rw [splitOnAux, if_pos hend, extract_middle]
    simp
  | cons c r ih =>
    rw [List.splitOnPPrepend_cons_eq_if]
    by_cases hc : c = sep
    · subst hc
      rw [splitOnAux_cons_self, ih, if_pos (beq_self_eq_true c)]
      simp
    · rw [splitOnAux_cons_of_ne l m r acc hc, ih, if_neg (by simpa using hc),
        List.reverse_append, List.reverse_singleton, List.singleton_append]

/-- **Cutting a text at a character** is cutting its characters at it. -/
theorem splitOn_singleton (s : String) (sep : Char) :
    s.splitOn (singleton sep) = (s.toList.splitOnP (· == sep)).map ofList := by
  have h := splitOnAux_singleton sep [] [] s.toList []
  rw [splitOn, if_neg (by simp)]
  simpa using h

end Text

namespace Multiaddr

theorem parse_eq (s : String) :
    parse s = match (s.toList.splitOnP (· == '/')).map String.ofList with
      | "" :: parts => ofParts parts
      | _ => .error .invalid := by
  rw [← Text.splitOn_singleton]
  rfl

theorem parseList_eq (s : String) :
    parseList s =
      ((((s.toList.splitOnP (· == ',')).map String.ofList).map Text.trim).filter
        (! ·.isEmpty)).mapM fun entry => (parse entry).mapError (⟨entry, ·⟩) := by
  rw [← Text.splitOn_singleton]
  rfl

/-- Blanks around an entry do not count, and empty entries are skipped. -/
example : parseList " /ip4/127.0.0.1/tcp/0 ,, /ws" =
    .ok [[.ip4 ⟨0x7F000001⟩, .port .tcp 0], [.path .ws "/"]] := by
  simp only [parseList_eq, parse_eq]
  decide +kernel

end Multiaddr

end Rendezvous
