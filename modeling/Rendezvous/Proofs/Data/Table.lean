import Rendezvous.Data.Table

/-!
# Rendezvous.Proofs.Data.Table

More about tables: which keys have a value, and what `Table.retain` does to `get?` and to
tables that were changed.
-/

namespace Rendezvous.Table

variable {κ α : Type} [DecidableEq κ]

theorem get?_eq_none_iff {t : Table κ α} {k : κ} : t.get? k = none ↔ k ∉ t.keys := by
  induction t with
  | nil => simp [keys]
  | cons e t ih =>
      obtain ⟨k₀, a⟩ := e
      by_cases hk : k₀ = k
      · simp [get?, keys, hk]
      · simp only [get?, if_neg hk, ih, keys, List.map_cons, List.mem_cons, not_or]
        exact ⟨fun h => ⟨Ne.symm hk, h⟩, fun h => h.2⟩

/-- A table in which no key has a value is empty. -/
theorem eq_nil_of_get?_eq_none {t : Table κ α} (h : ∀ k, t.get? k = none) : t = [] :=
  List.eq_nil_iff_forall_not_mem.2 fun e he =>
    get?_eq_none_iff.1 (h e.1) (List.mem_map_of_mem he)

theorem get?_retain_of_none {t : Table κ α} {k : κ} (h : t.get? k = none) (p : α → Bool) :
    (t.retain p).get? k = none := by
  rw [get?_eq_none_iff] at h ⊢
  exact fun hm => h ((List.filter_sublist.map _).subset hm)

theorem get?_retain {t : Table κ α} (h : t.Distinct) (p : α → Bool) (k : κ) :
    (t.retain p).get? k = (t.get? k).filter p := by
  cases hget : t.get? k with
  | none => exact get?_retain_of_none hget p
  | some a =>
      by_cases hp : p a
      · rw [Option.filter_some_pos hp]
        refine get?_eq_some_of_mem (h.retain p) (List.mem_filter.2 ⟨?_, hp⟩)
        exact mem_of_get?_eq_some hget
      · rw [Option.filter_some_neg (Bool.eq_false_iff.2 hp), get?_eq_none_iff]
        intro hm
        obtain ⟨⟨k', a'⟩, hmem, rfl⟩ := List.mem_map.1 hm
        obtain ⟨hmem, hpa⟩ := List.mem_filter.1 hmem
        rw [get?_eq_some_of_mem h hmem] at hget
        cases hget
        exact hp hpa

theorem mem_erase {t : Table κ α} {k : κ} {e : κ × α} : e ∈ t.erase k ↔ e ∈ t ∧ e.1 ≠ k := by
  simp [erase]

/-- Taking away a key that has no value changes nothing. -/
theorem erase_eq_self {t : Table κ α} {k : κ} (h : t.get? k = none) : t.erase k = t := by
  rw [get?_eq_none_iff] at h
  refine List.filter_eq_self.2 fun e he => decide_eq_true ?_
  rintro rfl
  exact h (List.mem_map.2 ⟨e, he, rfl⟩)

/-- A table is one of its entries and the rest. -/
theorem perm_cons_erase {t : Table κ α} (h : t.Distinct) {k : κ} {a : α}
    (hget : t.get? k = some a) : t.Perm ((k, a) :: t.erase k) := by
  induction t with
  | nil => cases hget
  | cons e t ih =>
      obtain ⟨k₀, a₀⟩ := e
      obtain ⟨hnew, hrest⟩ := List.nodup_cons.1 h
      by_cases hk : k₀ = k
      · subst hk
        have hvalue : a₀ = a := by simpa [get?] using hget
        have herase : Table.erase ((k₀, a₀) :: t) k₀ = Table.erase t k₀ := by simp [erase]
        rw [herase, erase_eq_self (get?_eq_none_iff.2 hnew), hvalue]
      · have hget' : Table.get? t k = some a := by simpa [get?, hk] using hget
        have herase : Table.erase ((k₀, a₀) :: t) k = (k₀, a₀) :: Table.erase t k := by
          simp [erase, hk]
        rw [herase]
        exact ((ih hrest hget').cons _).trans (List.Perm.swap ..)

theorem retain_erase (t : Table κ α) (p : α → Bool) (k : κ) :
    (t.erase k).retain p = (t.retain p).erase k := by
  rw [retain, erase, erase, retain, List.filter_filter, List.filter_filter]
  exact List.filter_congr fun e _ => Bool.and_comm ..

theorem retain_insert (t : Table κ α) (p : α → Bool) (k : κ) (a : α) :
    (t.insert k a).retain p =
      if p a then (t.retain p).insert k a else (t.retain p).erase k := by
  by_cases h : p a
  · rw [if_pos h, insert, insert, ← retain_erase]
    exact List.filter_cons_of_pos h
  · rw [if_neg h, insert, ← retain_erase]
    exact List.filter_cons_of_neg h

end Rendezvous.Table
