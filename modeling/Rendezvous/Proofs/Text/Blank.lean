import Mathlib.Data.List.DropRight
import Rendezvous.Text.Blank

/-!
# Rendezvous.Proofs.Text.Blank

Trimming a text takes the blanks off both sides and stops, on either side, at the first character
that is none.

* `Text.trimStart_blanks`, `Text.trimEnd_append`, `Text.trimEnd_append_blanks`: one side;
* `Text.trimChars_blanks_append`, `Text.trimChars_append_blanks`, `Text.trimChars_append`,
  `Text.trim_of_blanks`: both sides.
-/

namespace Rendezvous.Text

variable {blanks cs rest : List Char} {c : Char}

theorem trimStart_blanks (h : ∀ c ∈ blanks, isBlank c = true) (cs : List Char) :
    trimStart (blanks ++ cs) = trimStart cs :=
  List.dropWhile_append_of_pos h

theorem trimStart_cons (hc : isBlank c = false) (rest : List Char) :
    trimStart (c :: rest) = c :: rest :=
  List.dropWhile_cons_of_neg (by rw [hc]; exact Bool.false_ne_true)

/-- What stands in front of a character that is no blank stays. -/
theorem trimEnd_append (hc : isBlank c = false) (cs rest : List Char) :
    trimEnd (cs ++ c :: rest) = cs ++ c :: trimEnd rest := by
  unfold trimEnd
  rw [List.reverse_append, List.reverse_cons, List.append_assoc, List.dropWhile_append]
  cases hrest : (rest.reverse.dropWhile isBlank).isEmpty with
  | true => simp [List.isEmpty_iff.1 hrest, hc]
  | false => simp

/-- Blanks at the end of what is trimmed make no difference. -/
theorem trimEnd_append_blanks (h : ∀ c ∈ blanks, isBlank c = true) (cs : List Char) :
    trimEnd (cs ++ blanks) = trimEnd cs := by
  have hreverse : ∀ c ∈ blanks.reverse, isBlank c = true := fun c hc =>
    h c (List.mem_reverse.1 hc)
  rw [trimEnd, List.reverse_append, List.dropWhile_append_of_pos hreverse, ← trimEnd]

theorem trimEnd_blanks (h : ∀ c ∈ blanks, isBlank c = true) : trimEnd blanks = [] :=
  trimEnd_append_blanks h []

/-- A text that is not blank keeps what stands in front of it. -/
theorem trimEnd_append_of_ne_nil (h : trimEnd rest ≠ []) (cs : List Char) :
    trimEnd (cs ++ rest) = cs ++ trimEnd rest := by
  have hne : ¬ (rest.reverse.dropWhile isBlank).isEmpty = true := fun hempty =>
    h (by rw [trimEnd, List.isEmpty_iff.1 hempty, List.reverse_nil])
  rw [trimEnd, List.reverse_append, List.dropWhile_append, if_neg hne, List.reverse_append,
    List.reverse_reverse, ← trimEnd]

@[simp] theorem trimEnd_trimEnd (cs : List Char) : trimEnd (trimEnd cs) = trimEnd cs :=
  List.rdropWhile_idempotent isBlank cs

theorem trimChars_blanks (h : ∀ c ∈ blanks, isBlank c = true) : trimChars blanks = [] := by
  have hstart := trimStart_blanks h []
  rw [List.append_nil] at hstart
  rw [trimChars, hstart]
  rfl

/-- Blanks in front of what is trimmed make no difference. -/
theorem trimChars_blanks_append (h : ∀ c ∈ blanks, isBlank c = true) (cs : List Char) :
    trimChars (blanks ++ cs) = trimChars cs := by
  rw [trimChars, trimStart_blanks h, ← trimChars]

/-- Blanks behind what is trimmed make no difference. -/
theorem trimChars_append_blanks (h : ∀ c ∈ blanks, isBlank c = true) (cs : List Char) :
    trimChars (cs ++ blanks) = trimChars cs := by
  rw [trimChars, trimStart, List.dropWhile_append]
  split
  · next hempty =>
      have hcs : trimChars cs = [] := by
        rw [trimChars, trimStart, List.isEmpty_iff.1 hempty]
        rfl
      rw [hcs, ← trimStart, ← trimChars, trimChars_blanks h]
  · rw [trimEnd_append_blanks h, ← trimStart, ← trimChars]

/-- What is trimmed is trimmed at its end. -/
theorem trimEnd_of_trimChars (h : trimChars cs = cs) : trimEnd cs = cs := by
  rw [← h, trimChars, trimEnd_trimEnd]

/-- Where a text has characters that are no blanks at its start, only its end is trimmed. -/
theorem trimChars_append (hne : cs ≠ []) (hcs : ∀ c ∈ cs, isBlank c = false) (rest : List Char) :
    trimChars (cs ++ rest) = cs ++ trimEnd rest := by
  have hstart : trimStart (cs ++ rest) = cs ++ rest := by
    obtain ⟨c, cs, rfl⟩ := List.exists_cons_of_ne_nil hne
    exact trimStart_cons (hcs c List.mem_cons_self) (cs ++ rest)
  obtain ⟨front, last, rfl⟩ : ∃ front last, cs = front ++ [last] :=
    ⟨_, _, (List.dropLast_concat_getLast hne).symm⟩
  have hlast : isBlank last = false := hcs last (by simp)
  rw [trimChars, hstart, List.append_assoc, List.singleton_append, trimEnd_append hlast]
  simp

theorem trimChars_eq_self (hcs : ∀ c ∈ cs, isBlank c = false) : trimChars cs = cs := by
  by_cases hne : cs = []
  · rw [hne]
    rfl
  · rw [← List.append_nil cs, trimChars_append hne hcs]
    rfl

/-- Blanks on both sides of a text that has none are dropped, and nothing else is. -/
theorem trim_of_blanks {before s after : String} (hbefore : allBlank before = true)
    (hafter : allBlank after = true) (hne : s.toList ≠ [])
    (h : ∀ c ∈ s.toList, isBlank c = false) : trim (before ++ s ++ after) = s := by
  have hbefore := List.all_eq_true.1 hbefore
  have hafter := List.all_eq_true.1 hafter
  rw [← String.toList_inj, trim, String.toList_ofList, String.toList_append, String.toList_append,
    List.append_assoc, trimChars_blanks_append hbefore, trimChars_append hne h,
    trimEnd_blanks hafter, List.append_nil]

end Rendezvous.Text
