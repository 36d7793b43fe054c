/-!
# Rendezvous.Data.Table

Tables from keys to values in which each key has at most one value. The order of a table
means nothing.

* `Table.get?`, `Table.insert`, `Table.erase`, `Table.retain`;
* what each of them does to `get?`, and that keys stay distinct.
-/

namespace Rendezvous

/-- A table, the key changed last in front. -/
abbrev Table (κ α : Type) : Type := List (κ × α)

namespace Table

variable {κ α : Type} [DecidableEq κ]

/-- The value of a key. -/
def get? (t : Table κ α) (k : κ) : Option α :=
  match t with
  | [] => none
  | (k', a) :: rest => if k' = k then some a else get? rest k

/-- The table without a key. -/
def erase (t : Table κ α) (k : κ) : Table κ α := t.filter fun e => e.1 ≠ k

/-- The table with a value for a key, in place of the one it had. -/
def insert (t : Table κ α) (k : κ) (a : α) : Table κ α := (k, a) :: t.erase k

/-- The table with a key's value changed, or set if it had none. -/
def alter (t : Table κ α) (k : κ) (f : Option α → α) : Table κ α := t.insert k (f (t.get? k))

/-- The part of a table whose values pass a test. -/
def retain (t : Table κ α) (p : α → Bool) : Table κ α := t.filter fun e => p e.2

/-- The keys. -/
def keys (t : Table κ α) : List κ := t.map (·.1)

/-- The values. -/
def values (t : Table κ α) : List α := t.map (·.2)

/-! ### What the operations do to `get?` -/

@[simp] theorem get?_nil (k : κ) : get? ([] : Table κ α) k = none := rfl

theorem get?_erase_self (t : Table κ α) (k : κ) : (t.erase k).get? k = none := by
  induction t with
  | nil => rfl
  | cons e t ih =>
    obtain ⟨k', a⟩ := e
    by_cases h : k' = k
    · simpa [erase, h] using ih
    · simpa [erase, h, get?] using ih

theorem get?_erase_of_ne {k k' : κ} (t : Table κ α) (h : k' ≠ k) :
    (t.erase k).get? k' = t.get? k' := by
  induction t with
  | nil => rfl
  | cons e t ih =>
    obtain ⟨k₀, a⟩ := e
    by_cases h₀ : k₀ = k
    · subst h₀
      have : Table.erase ((k₀, a) :: t) k₀ = Table.erase t k₀ := by simp [erase]
      rw [this, ih]
      simp [get?, Ne.symm h]
    · have : Table.erase ((k₀, a) :: t) k = (k₀, a) :: Table.erase t k := by simp [erase, h₀]
      rw [this]
      simp [get?, ih]

theorem get?_erase (t : Table κ α) (k k' : κ) :
    (t.erase k).get? k' = if k' = k then none else t.get? k' := by
  by_cases h : k' = k
  · subst h; simp [get?_erase_self]
  · simp [h, get?_erase_of_ne]

theorem get?_insert (t : Table κ α) (k k' : κ) (a : α) :
    (t.insert k a).get? k' = if k' = k then some a else t.get? k' := by
  by_cases h : k' = k
  · subst h; simp [insert, get?]
  · simp [insert, get?, h, Ne.symm h, get?_erase]

/-! ### Distinct keys -/

/-- Whether no key stands in the table twice. -/
def Distinct (t : Table κ α) : Prop := t.keys.Nodup

omit [DecidableEq κ] in
theorem distinct_nil : Distinct ([] : Table κ α) := List.nodup_nil

theorem not_mem_keys_erase (t : Table κ α) (k : κ) : k ∉ (t.erase k).keys := by
  simp [keys, erase]

theorem Distinct.erase {t : Table κ α} (h : t.Distinct) (k : κ) : (t.erase k).Distinct :=
  (List.filter_sublist.map _).nodup h

theorem Distinct.insert {t : Table κ α} (h : t.Distinct) (k : κ) (a : α) :
    (t.insert k a).Distinct :=
  List.nodup_cons.2 ⟨not_mem_keys_erase t k, h.erase k⟩

omit [DecidableEq κ] in
theorem Distinct.retain {t : Table κ α} (h : t.Distinct) (p : α → Bool) :
    (t.retain p).Distinct :=
  (List.filter_sublist.map _).nodup h

/-- In a table with distinct keys, a key has the value with which it stands in it. -/
theorem get?_eq_some_of_mem {t : Table κ α} (h : t.Distinct) {k : κ} {a : α}
    (hm : (k, a) ∈ t) : t.get? k = some a := by
  induction t with
  | nil => cases hm
  | cons e t ih =>
    obtain ⟨k₀, a₀⟩ := e
    rw [Distinct, keys, List.map_cons, List.nodup_cons] at h
    rcases List.mem_cons.1 hm with heq | hm
    · cases heq; simp [get?]
    · have : k₀ ≠ k := by
        rintro rfl
        exact h.1 (List.mem_map.2 ⟨_, hm, rfl⟩)
      simp [get?, this, ih h.2 hm]

theorem mem_of_get?_eq_some {t : Table κ α} {k : κ} {a : α} (h : t.get? k = some a) :
    (k, a) ∈ t := by
  induction t with
  | nil => cases h
  | cons e t ih =>
    obtain ⟨k₀, a₀⟩ := e
    by_cases hk : k₀ = k
    · subst hk
      simp only [get?, if_pos] at h
      cases h
      exact List.mem_cons_self
    · simp only [get?, hk, if_false] at h
      exact List.mem_cons_of_mem _ (ih h)

end Table

end Rendezvous
