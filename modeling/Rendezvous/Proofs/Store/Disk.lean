import Rendezvous.Proofs.Data.Table
import Rendezvous.Proofs.Store.Record
import Rendezvous.Store.Disk

/-!
# Rendezvous.Proofs.Store.Disk

Rows and records. A key of a record and the key of its row determine each other, whatever
the namespace holds; so rows that *hold* a table of records, each under the key of its own
row, are read back to just those records.

* `Record.rowKey_injective`, `Record.decode_rowValue`;
* `Rows.Holds`: the invariant, kept by each change;
* `Rows.Holds.ofRows`: what is opened on such rows.
-/

namespace Rendezvous

namespace Record

/-- A separator that stands in neither of two tails splits a text in one way only. -/
theorem append_cons_inj {α : Type} {x : α} {as as' bs bs' : List α} (h : x ∉ bs)
    (h' : x ∉ bs') (he : as ++ x :: bs = as' ++ x :: bs') : as = as' ∧ bs = bs' := by
  induction as generalizing as' with
  | nil =>
      cases as' with
      | nil => exact ⟨rfl, (List.cons.inj he).2⟩
      | cons a as' =>
          obtain ⟨-, htail⟩ := List.cons.inj he
          exact absurd (htail ▸ List.mem_append_right as' List.mem_cons_self) h
  | cons a as ih =>
      cases as' with
      | nil =>
          -- The separator of the first text would stand in the tail of the second.
          obtain ⟨-, htail⟩ := List.cons.inj he
          exact absurd (htail ▸ List.mem_append_right as List.mem_cons_self) h'
      | cons a' as' =>
          obtain ⟨hhead, htail⟩ := List.cons.inj he
          obtain ⟨has, hbs⟩ := ih htail
          exact ⟨by rw [hhead, has], hbs⟩

/-- **The key of a row tells the key of its record,** though a namespace may hold the
separator: the name of a peer does not. -/
theorem rowKey_injective {k k' : Key} (h : rowKey k = rowKey k') : k = k' := by
  obtain ⟨ns, p⟩ := k
  obtain ⟨ns', p'⟩ := k'
  have hnul : ("\x00" : String).toList = ['\x00'] := rfl
  have hchars := congrArg String.toList h
  simp only [rowKey, String.toList_append, hnul, List.append_assoc,
    List.singleton_append] at hchars
  obtain ⟨hns, hp⟩ := append_cons_inj p.nul_not_mem_toText p'.nul_not_mem_toText hchars
  rw [String.toList_inj.1 hns, PeerId.toText_injective (String.toList_inj.1 hp)]

/-- **A record is read back from its row.** -/
theorem decode_rowValue {r : Record} (h : r.Storable) :
    Json.decode decoder r.rowValue = .ok r := decode_render h

end Record

namespace Rows

/-! ### Changes -/

theorem applyAll_append (rows : Rows) (ops : List WriteOp) (op : WriteOp) :
    rows.applyAll (ops ++ [op]) = (rows.applyAll ops).apply op := by
  simp [applyAll]

/-- Rows hold a table of records: the row of each key is that of its record, and there are no
other rows. -/
structure Holds (rows : Rows) (records : Table Record.Key Record) : Prop where
  distinct : Table.Distinct rows
  get? : ∀ k, Table.get? rows (Record.rowKey k) = (records.get? k).map Record.rowValue
  keyed : ∀ key value, Table.get? rows key = some value → ∃ k, key = Record.rowKey k

variable {rows : Rows} {records : Table Record.Key Record}

theorem Holds.nil : Holds [] [] where
  distinct := Table.distinct_nil
  get? _ := rfl
  keyed _ _ h := by cases h

theorem Holds.put (h : rows.Holds records) (r : Record) :
    (rows.apply (.put r)).Holds (records.insert r.key r) where
  distinct := h.distinct.insert _ _
  get? k := by
    rw [apply, Table.get?_insert, Table.get?_insert, h.get?]
    by_cases hk : k = r.key
    · rw [if_pos (congrArg Record.rowKey hk), if_pos hk, Option.map_some]
    · rw [if_neg fun hkey => hk (Record.rowKey_injective hkey), if_neg hk]
  keyed key value hget := by
    rw [apply, Table.get?_insert] at hget
    split at hget
    · rename_i hkey
      exact ⟨r.key, hkey⟩
    · exact h.keyed key value hget

theorem Holds.delete (h : rows.Holds records) (k : Record.Key) :
    (rows.apply (.delete k)).Holds (records.erase k) where
  distinct := h.distinct.erase _
  get? k' := by
    rw [apply, Table.get?_erase, Table.get?_erase, h.get?]
    by_cases hk : k' = k
    · rw [if_pos (congrArg Record.rowKey hk), if_pos hk, Option.map_none]
    · rw [if_neg fun hkey => hk (Record.rowKey_injective hkey), if_neg hk]
  keyed key value hget := by
    rw [apply, Table.get?_erase] at hget
    split at hget
    · cases hget
    · exact h.keyed key value hget

/-! ### Reading back -/

/-- What is read from values of rows, each of which is that of a record. -/
theorem decode_eq (entries : List (String × Bytes))
    (h : ∀ e ∈ entries, ∃ r : Record, e.2 = r.rowValue ∧ r.Storable) :
    ∃ rs, decode entries = .ok rs ∧
      ∀ r, r ∈ rs ↔ ∃ e ∈ entries, e.2 = r.rowValue ∧ r.Storable := by
  induction entries with
  | nil => exact ⟨[], rfl, by simp⟩
  | cons e entries ih =>
      obtain ⟨rs, hrs, hmem⟩ := ih fun e' he' => h e' (List.mem_cons_of_mem e he')
      obtain ⟨r, hvalue, hr⟩ := h e List.mem_cons_self
      obtain ⟨key, value⟩ := e
      obtain rfl : value = r.rowValue := hvalue
      refine ⟨r :: rs, ?_, fun r' => ?_⟩
      · rw [decode, Record.decode_rowValue hr]
        dsimp only
        rw [hrs]
        rfl
      · rw [List.mem_cons, hmem]
        constructor
        · rintro (rfl | ⟨e, he, hr'⟩)
          · exact ⟨_, List.mem_cons_self, rfl, hr⟩
          · exact ⟨e, List.mem_cons_of_mem _ he, hr'⟩
        · rintro ⟨e, he, hvalue', hr'⟩
          rcases List.mem_cons.1 he with rfl | he
          · left
            have hsame := Record.decode_rowValue hr'
            rw [← hvalue', Record.decode_rowValue hr] at hsame
            exact (Except.ok.inj hsame).symm
          · exact Or.inr ⟨e, he, hvalue', hr'⟩

/-- Rows that hold a table of storable records are read back to these records. -/
theorem Holds.records_eq (h : rows.Holds records)
    (hfiled : ∀ k r, records.get? k = some r → r.key = k)
    (hstorable : ∀ k r, records.get? k = some r → r.Storable) :
    ∃ rs, rows.records = .ok rs ∧ ∀ r, r ∈ rs ↔ records.get? r.key = some r := by
  -- Each row is that of some key, and what it has is that of the key's record.
  have hrow {e : String × Bytes} (he : e ∈ rows.sorted) :
      ∃ k r, records.get? k = some r ∧ e.2 = r.rowValue := by
    obtain ⟨key, value⟩ := e
    have hget := Table.get?_eq_some_of_mem h.distinct (List.mem_mergeSort.1 he)
    obtain ⟨k, rfl⟩ := h.keyed key value hget
    rw [h.get?] at hget
    obtain ⟨r, hr, hvalue⟩ := Option.map_eq_some_iff.1 hget
    exact ⟨k, r, hr, hvalue.symm⟩
  obtain ⟨rs, hrs, hmem⟩ := decode_eq rows.sorted fun e he => by
    obtain ⟨k, r, hr, hvalue⟩ := hrow he
    exact ⟨r, hvalue, hstorable k r hr⟩
  refine ⟨rs, hrs, fun r => ?_⟩
  rw [hmem]
  constructor
  · rintro ⟨e, he, hvalue, hr⟩
    obtain ⟨k, r', hr', hvalue'⟩ := hrow he
    have hsame := Record.decode_rowValue hr
    rw [← hvalue, hvalue', Record.decode_rowValue (hstorable k r' hr')] at hsame
    cases hsame
    rw [hfiled k r hr']
    exact hr'
  · intro hr
    refine ⟨(Record.rowKey r.key, r.rowValue), List.mem_mergeSort.2 ?_, rfl,
      hstorable r.key r hr⟩
    refine Table.mem_of_get?_eq_some ?_
    rw [h.get?, hr, Option.map_some]

end Rows

namespace Store

/-- What a table holds once some records have been put into it, no two of them under one
key. -/
theorem get?_foldl_insert {rs : List Record}
    (h : ∀ r ∈ rs, ∀ r' ∈ rs, r.key = r'.key → r = r') (t : Table Record.Key Record)
    (k : Record.Key) (r : Record) :
    (rs.foldl (fun t r => t.insert r.key r) t).get? k = some r ↔
      (r ∈ rs ∧ r.key = k) ∨ ((∀ r' ∈ rs, r'.key ≠ k) ∧ t.get? k = some r) := by
  induction rs generalizing t with
  | nil => simp
  | cons c rs ih =>
      have hrest : ∀ r ∈ rs, ∀ r' ∈ rs, r.key = r'.key → r = r' := fun r hr r' hr' =>
        h r (List.mem_cons_of_mem c hr) r' (List.mem_cons_of_mem c hr')
      rw [List.foldl_cons, ih hrest, Table.get?_insert]
      simp only [List.mem_cons, forall_eq_or_imp]
      by_cases hk : k = c.key
      · subst hk
        rw [if_pos rfl]
        constructor
        · rintro (⟨hr, hkey⟩ | ⟨-, hc⟩)
          · exact Or.inl ⟨Or.inr hr, hkey⟩
          · exact Or.inl ⟨Or.inl (Option.some.inj hc).symm, by rw [Option.some.inj hc]⟩
        · rintro (⟨rfl | hr, hkey⟩ | ⟨⟨hne, -⟩, -⟩)
          · -- It may come again, but then it is the same record.
            by_cases hother : ∃ r' ∈ rs, r'.key = r.key
            · obtain ⟨r', hr', hkey'⟩ := hother
              obtain rfl := h r' (List.mem_cons_of_mem r hr') r List.mem_cons_self hkey'
              exact Or.inl ⟨hr', rfl⟩
            · exact Or.inr ⟨fun r' hr' hkey' => hother ⟨r', hr', hkey'⟩, rfl⟩
          · exact Or.inl ⟨hr, hkey⟩
          · exact absurd rfl hne
      · rw [if_neg hk]
        constructor
        · rintro (⟨hr, hkey⟩ | ⟨hne, hget⟩)
          · exact Or.inl ⟨Or.inr hr, hkey⟩
          · exact Or.inr ⟨⟨Ne.symm hk, hne⟩, hget⟩
        · rintro (⟨rfl | hr, hkey⟩ | ⟨⟨-, hne⟩, hget⟩)
          · exact absurd hkey.symm hk
          · exact Or.inl ⟨hr, hkey⟩
          · exact Or.inr ⟨hne, hget⟩

end Store

/-- **What is opened on rows that hold some records has those of them that are live.** -/
theorem Rows.Holds.ofRows {rows : Rows} {records : Table Record.Key Record}
    (h : rows.Holds records) (hfiled : ∀ k r, records.get? k = some r → r.key = k)
    (hstorable : ∀ k r, records.get? k = some r → r.Storable) (maxTtl : Duration)
    (location : String) (now : Instant) :
    ∃ s rest, Store.ofRows maxTtl location now rows = .ok (s, rest) ∧
      ∀ k, s.records.get? k = (records.get? k).filter fun r => !r.isExpired now := by
  obtain ⟨rs, hrs, hmem⟩ := h.records_eq hfiled hstorable
  refine ⟨_, _, by rw [Store.ofRows, hrs]; rfl, fun k => ?_⟩
  -- Each record is read under its own key, so no other is put in its place.
  have hunique : ∀ r ∈ rs.filter fun r => !r.isExpired now,
      ∀ r' ∈ rs.filter fun r => !r.isExpired now, r.key = r'.key → r = r' := by
    intro r hr r' hr' hkey
    have hget := (hmem r).1 (List.mem_filter.1 hr).1
    have hget' := (hmem r').1 (List.mem_filter.1 hr').1
    rw [hkey, hget'] at hget
    exact (Option.some.inj hget).symm
  refine Option.ext fun r => ?_
  show Table.get? ((rs.filter fun r => !r.isExpired now).foldl
    (fun (t : Table Record.Key Record) r => t.insert r.key r) []) k = some r ↔ _
  rw [Store.get?_foldl_insert hunique, List.mem_filter, hmem, Option.filter_eq_some_iff]
  constructor
  · rintro (⟨⟨hget, hlive⟩, rfl⟩ | ⟨-, hnone⟩)
    · exact ⟨hget, hlive⟩
    · cases hnone
  · rintro ⟨hget, hlive⟩
    have hkey := hfiled k r hget
    exact Or.inl ⟨⟨by rw [hkey]; exact hget, hlive⟩, hkey⟩

end Rendezvous
