import Mathlib.Data.String.Basic
import Rendezvous.Proofs.Json.Reader

/-!
# Rendezvous.Proofs.Json.Order

Values whose objects have their members in the order of their keys, each key once, and how
deep a value is nested. A tree of tables in which a key has one value can be written in this
way only, so for such trees no two values mean the same.

* `Json.Ascending`, `Json.Value.Ordered`: the order;
* `Json.sortMembers_perm`, `Json.ascending_sortMembers`: members that are put in order;
* `Json.Value.canonical_ordered`, `Json.Value.Ordered.canonical_eq`: the order is reached, and
  kept where it is;
* `Json.Value.nesting`: how many containers stand inside one another;
* `Json.Node.value_of_spells`: a node has the value that it spells.
-/

namespace Rendezvous.Json

/-! ### Members in order -/

/-- The keys of members ascend. -/
def Ascending (members : List (String × Value)) : Prop :=
  members.Pairwise fun a b => a.1 < b.1

variable {k : String} {v : Value} {members sorted : List (String × Value)}

theorem mem_insertMember {p : String × Value} (h : p ∈ insertMember k v members) :
    p = (k, v) ∨ p ∈ members := by
  induction members with
  | nil => exact .inl (List.mem_singleton.1 h)
  | cons m rest ih =>
    unfold insertMember at h
    split at h
    · exact (List.mem_cons.1 h).imp_right (List.mem_cons_of_mem m)
    · split at h
      · exact List.mem_cons.1 h
      · rcases List.mem_cons.1 h with rfl | h
        · exact .inr List.mem_cons_self
        · exact (ih h).imp_right (List.mem_cons_of_mem m)

theorem insertMember_perm (h : ∀ p ∈ members, p.1 ≠ k) :
    (insertMember k v members).Perm ((k, v) :: members) := by
  induction members with
  | nil => exact .refl _
  | cons m rest ih =>
    obtain ⟨hm, hrest⟩ := List.forall_mem_cons.1 h
    unfold insertMember
    rw [if_neg (Ne.symm hm)]
    split
    · exact .refl _
    · exact ((ih hrest).cons m).trans (.swap _ _ _)

theorem Ascending.insertMember (h : Ascending members) :
    Ascending (insertMember k v members) := by
  induction members with
  | nil => exact List.pairwise_singleton _ _
  | cons m rest ih =>
    obtain ⟨hm, hrest⟩ := List.pairwise_cons.1 h
    unfold Json.insertMember
    split
    case isTrue heq => exact List.pairwise_cons.2 ⟨fun p hp => heq ▸ hm p hp, hrest⟩
    case isFalse hne =>
      split
      case isTrue hlt =>
        refine List.pairwise_cons.2 ⟨fun p hp => ?_, h⟩
        rcases List.mem_cons.1 hp with rfl | hp
        · exact hlt
        · exact lt_trans hlt (hm p hp)
      case isFalse hnlt =>
        refine List.pairwise_cons.2 ⟨fun p hp => ?_, ih hrest⟩
        rcases mem_insertMember hp with rfl | hp
        · exact lt_of_le_of_ne (not_lt.1 hnlt) (Ne.symm hne)
        · exact hm p hp

theorem insertMember_of_forall_lt (h : ∀ p ∈ members, p.1 < k) :
    insertMember k v members = members ++ [(k, v)] := by
  induction members with
  | nil => rfl
  | cons m rest ih =>
    obtain ⟨hm, hrest⟩ := List.forall_mem_cons.1 h
    unfold insertMember
    rw [if_neg hm.ne', if_neg hm.asymm, ih hrest, List.cons_append]

/-- Members are put in order one by one. -/
theorem sortMembers_induct {motive : List (String × Value) → List (String × Value) → Prop}
    (members : List (String × Value)) (nil : motive [] [])
    (step : ∀ seen sorted m, motive seen sorted →
      motive (seen ++ [m]) (insertMember m.1 m.2 sorted)) :
    motive members (sortMembers members) := by
  -- The members that are left are put behind those that have been seen.
  have general : ∀ rest seen sorted, motive seen sorted →
      motive (seen ++ rest) (rest.foldl (fun sorted m => insertMember m.1 m.2 sorted) sorted) := by
    intro rest
    induction rest with
    | nil => simp
    | cons m rest ih =>
      intro seen sorted h
      simpa using ih _ _ (step seen sorted m h)
  exact general members [] [] nil

theorem ascending_sortMembers (members : List (String × Value)) :
    Ascending (sortMembers members) := by
  induction members using sortMembers_induct with
  | nil => exact .nil
  | step seen sorted m h => exact h.insertMember

theorem mem_of_mem_sortMembers {p : String × Value} : p ∈ sortMembers members → p ∈ members := by
  induction members using sortMembers_induct with
  | nil => exact id
  | step seen sorted m ih =>
    intro hp
    rcases mem_insertMember hp with rfl | hp
    · exact List.mem_append_right _ (List.mem_singleton.2 rfl)
    · exact List.mem_append_left _ (ih hp)

/-- Members of different keys are all there when they have been put in order. -/
theorem sortMembers_perm :
    (members.map Prod.fst).Nodup → (sortMembers members).Perm members := by
  induction members using sortMembers_induct with
  | nil => exact fun _ => .nil
  | step seen sorted m ih =>
    intro hkeys
    rw [List.map_append, List.nodup_append] at hkeys
    obtain ⟨hseen, -, hnew⟩ := hkeys
    have hperm := ih hseen
    have hother : ∀ p ∈ sorted, p.1 ≠ m.1 := fun p hp =>
      hnew p.1 (List.mem_map_of_mem (hperm.mem_iff.1 hp)) m.1 (List.mem_singleton.2 rfl)
    exact (insertMember_perm hother).trans
      ((hperm.cons m).trans (List.perm_append_singleton m _).symm)

theorem Ascending.sortMembers_eq : Ascending members → sortMembers members = members := by
  induction members using sortMembers_induct with
  | nil => exact fun _ => rfl
  | step seen sorted m ih =>
    intro h
    obtain ⟨hseen, -, hlast⟩ := List.pairwise_append.1 h
    obtain rfl := ih hseen
    exact insertMember_of_forall_lt fun p hp => hlast p hp m (List.mem_singleton.2 rfl)

/-! ### Values in order -/

mutual

/-- The members of all objects in a value ascend. -/
def Value.Ordered : Value → Prop
  | .array items => OrderedItems items
  | .object members => Ascending members ∧ OrderedMembers members
  | .null => True
  | .bool _ => True
  | .number _ => True
  | .text _ => True

/-- `Value.Ordered` for each of some values. -/
def OrderedItems : List Value → Prop
  | [] => True
  | v :: rest => v.Ordered ∧ OrderedItems rest

/-- `Value.Ordered` for the value of each member. -/
def OrderedMembers : List (String × Value) → Prop
  | [] => True
  | (_, v) :: rest => v.Ordered ∧ OrderedMembers rest

end

theorem orderedItems_iff {items : List Value} : OrderedItems items ↔ ∀ v ∈ items, v.Ordered := by
  induction items with
  | nil => simp [OrderedItems]
  | cons v rest ih => rw [OrderedItems, ih, List.forall_mem_cons]

theorem orderedMembers_iff : OrderedMembers members ↔ ∀ p ∈ members, p.2.Ordered := by
  induction members with
  | nil => simp [OrderedMembers]
  | cons m rest ih =>
    obtain ⟨k, v⟩ := m
    rw [OrderedMembers, ih, List.forall_mem_cons]

mutual

/-- Putting a value in order puts all of it in order. -/
theorem Value.canonical_ordered : (v : Value) → v.canonical.Ordered
  | .array items => canonicalItems_ordered items
  | .object members =>
    ⟨ascending_sortMembers _, orderedMembers_iff.2 fun p hp =>
      orderedMembers_iff.1 (canonicalMembers_ordered members) p (mem_of_mem_sortMembers hp)⟩
  | .null => trivial
  | .bool _ => trivial
  | .number _ => trivial
  | .text _ => trivial

theorem canonicalItems_ordered : (items : List Value) → OrderedItems (canonicalItems items)
  | [] => trivial
  | v :: rest => ⟨v.canonical_ordered, canonicalItems_ordered rest⟩

theorem canonicalMembers_ordered :
    (members : List (String × Value)) → OrderedMembers (canonicalMembers members)
  | [] => trivial
  | (_, v) :: rest => ⟨v.canonical_ordered, canonicalMembers_ordered rest⟩

end

mutual

/-- A value in order stays as it is. -/
theorem Value.Ordered.canonical_eq : {v : Value} → v.Ordered → v.canonical = v
  | .array _, h => congrArg Value.array (canonicalItems_eq h)
  | .object members, ⟨hkeys, hvalues⟩ => by
    rw [Value.canonical, canonicalMembers_eq hvalues, hkeys.sortMembers_eq]
  | .null, _ => rfl
  | .bool _, _ => rfl
  | .number _, _ => rfl
  | .text _, _ => rfl

theorem canonicalItems_eq : {items : List Value} → OrderedItems items → canonicalItems items = items
  | [], _ => rfl
  | _ :: _, ⟨hv, hrest⟩ => by rw [canonicalItems, hv.canonical_eq, canonicalItems_eq hrest]

theorem canonicalMembers_eq : {members : List (String × Value)} → OrderedMembers members →
    canonicalMembers members = members
  | [], _ => rfl
  | (_, _) :: _, ⟨hv, hrest⟩ => by
    rw [canonicalMembers, hv.canonical_eq, canonicalMembers_eq hrest]

end

/-! ### Plain values -/

theorem plainItems_iff {items : List Value} : PlainItems items ↔ ∀ v ∈ items, v.Plain := by
  induction items with
  | nil => simp [PlainItems]
  | cons v rest ih => rw [PlainItems, ih, List.forall_mem_cons]

theorem plainMembers_iff : PlainMembers members ↔ ∀ p ∈ members, p.2.Plain := by
  induction members with
  | nil => simp [PlainMembers]
  | cons m rest ih =>
    obtain ⟨k, v⟩ := m
    rw [PlainMembers, ih, List.forall_mem_cons]

theorem Value.plain_optionNat {o : Option Nat} (h : ∀ n ∈ o, n < 2 ^ 64) :
    (Value.optionNat o).Plain := by
  cases o with
  | none => trivial
  | some n => exact h n rfl

mutual

theorem Value.Plain.canonical : {v : Value} → v.Plain → v.canonical.Plain
  | .array _, h => canonicalItems_plain h
  | .object _, h => plainMembers_iff.2 fun p hp =>
    plainMembers_iff.1 (canonicalMembers_plain h) p (mem_of_mem_sortMembers hp)
  | .null, _ => trivial
  | .bool _, _ => trivial
  | .number _, h => h
  | .text _, _ => trivial

theorem canonicalItems_plain : {items : List Value} → PlainItems items →
    PlainItems (canonicalItems items)
  | [], _ => trivial
  | _ :: _, ⟨hv, hrest⟩ => ⟨hv.canonical, canonicalItems_plain hrest⟩

theorem canonicalMembers_plain : {members : List (String × Value)} → PlainMembers members →
    PlainMembers (canonicalMembers members)
  | [], _ => trivial
  | (_, _) :: _, ⟨hv, hrest⟩ => ⟨hv.canonical, canonicalMembers_plain hrest⟩

end

/-! ### Nesting -/

mutual

/-- How many containers stand inside one another. -/
def Value.nesting : Value → Nat
  | .array items => itemsNesting items + 1
  | .object members => membersNesting members + 1
  | .null => 0
  | .bool _ => 0
  | .number _ => 0
  | .text _ => 0

/-- The deepest nesting of some values. -/
def itemsNesting : List Value → Nat
  | [] => 0
  | v :: rest => max v.nesting (itemsNesting rest)

/-- The deepest nesting of the values of members. -/
def membersNesting : List (String × Value) → Nat
  | [] => 0
  | (_, v) :: rest => max v.nesting (membersNesting rest)

end

theorem itemsNesting_le_iff {items : List Value} {n : Nat} :
    itemsNesting items ≤ n ↔ ∀ v ∈ items, v.nesting ≤ n := by
  induction items with
  | nil => simp [itemsNesting]
  | cons v rest ih => rw [itemsNesting, max_le_iff, ih, List.forall_mem_cons]

theorem Value.nesting_array_le_iff {items : List Value} {n : Nat} :
    (Value.array items).nesting ≤ n + 1 ↔ ∀ v ∈ items, v.nesting ≤ n := by
  rw [Value.nesting, Nat.add_le_add_iff_right, itemsNesting_le_iff]

theorem membersNesting_le_iff {n : Nat} :
    membersNesting members ≤ n ↔ ∀ p ∈ members, p.2.nesting ≤ n := by
  induction members with
  | nil => simp [membersNesting]
  | cons m rest ih =>
    obtain ⟨k, v⟩ := m
    rw [membersNesting, max_le_iff, ih, List.forall_mem_cons]

theorem Value.nesting_object_le_iff {n : Nat} :
    (Value.object members).nesting ≤ n + 1 ↔ ∀ p ∈ members, p.2.nesting ≤ n := by
  rw [Value.nesting, Nat.add_le_add_iff_right, membersNesting_le_iff]

@[simp] theorem Value.nesting_text (s : String) : (Value.text s).nesting = 0 := rfl

@[simp] theorem Value.nesting_nat (n : Nat) : (Value.nat n).nesting = 0 := rfl

@[simp] theorem Value.nesting_optionNat (o : Option Nat) : (Value.optionNat o).nesting = 0 := by
  cases o <;> rfl

mutual

theorem Value.nesting_canonical_le : (v : Value) → v.canonical.nesting ≤ v.nesting
  | .array items => Nat.succ_le_succ (itemsNesting_canonical_le items)
  | .object members => by
    refine Value.nesting_object_le_iff.2 fun p hp => ?_
    exact (membersNesting_le_iff.1 (membersNesting_canonical_le members)) p
      (mem_of_mem_sortMembers hp)
  | .null => Nat.le_refl _
  | .bool _ => Nat.le_refl _
  | .number _ => Nat.le_refl _
  | .text _ => Nat.le_refl _

theorem itemsNesting_canonical_le : (items : List Value) →
    itemsNesting (canonicalItems items) ≤ itemsNesting items
  | [] => Nat.le_refl _
  | v :: rest => max_le_max v.nesting_canonical_le (itemsNesting_canonical_le rest)

theorem membersNesting_canonical_le : (members : List (String × Value)) →
    membersNesting (canonicalMembers members) ≤ membersNesting members
  | [] => Nat.le_refl _
  | (_, v) :: rest => max_le_max v.nesting_canonical_le (membersNesting_canonical_le rest)

end

mutual

/-- A node that spells a value has it, if enough containers may open. -/
theorem Node.value_of_spells : (v : Value) → {node : Node} → {depth : Nat} → node.Spells v →
    v.nesting < depth → node.value depth = .ok v
  | .null, _, _, h, _ => by cases h; rfl
  | .bool _, _, _, h, _ => by cases h; rfl
  | .number _, _, _, h, _ => by cases h; rfl
  | .text _, _, _, h, _ => by cases h; rfl
  | .array items, _, depth, h, hdepth => by
    cases h with
    | array start hitems =>
      rw [Value.nesting] at hdepth
      have hopen : ¬ depth ≤ 1 := by omega
      rw [Node.value, if_neg hopen, Items.values_of_spells items hitems (by omega)]
      rfl
  | .object members, _, depth, h, hdepth => by
    cases h with
    | object start hentries =>
      rw [Value.nesting] at hdepth
      have hopen : ¬ depth ≤ 1 := by omega
      rw [Node.value, if_neg hopen, Entries.values_of_spells members hentries (by omega)]
      rfl

theorem Items.values_of_spells : (vs : List Value) → {items : Items} → {depth : Nat} →
    items.Spells vs → itemsNesting vs < depth → items.values depth = .ok vs
  | [], _, _, h, _ => by cases h; rfl
  | v :: vs, _, _, h, hdepth => by
    cases h with
    | item hnode next hrest =>
      rw [itemsNesting] at hdepth
      rw [Items.values, Node.value_of_spells v hnode (by omega),
        Items.values_of_spells vs hrest (by omega)]
      rfl

theorem Entries.values_of_spells : (members : List (String × Value)) → {entries : Entries} →
    {depth : Nat} → entries.Spells members → membersNesting members < depth →
    entries.values depth = .ok members
  | [], _, _, h, _ => by cases h; rfl
  | (_, v) :: members, _, _, h, hdepth => by
    cases h with
    | entry key keyStop keyNext hnode next hrest =>
      rw [membersNesting] at hdepth
      rw [Entries.values, Node.value_of_spells v hnode (by omega),
        Entries.values_of_spells members hrest (by omega)]
      rfl

end

end Rendezvous.Json
