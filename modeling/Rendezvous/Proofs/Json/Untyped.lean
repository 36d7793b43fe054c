import Rendezvous.Json.Untyped
import Rendezvous.Proofs.Data.Outcome
import Rendezvous.Proofs.Json.Decode

/-!
# Rendezvous.Proofs.Json.Untyped

What a reader of values of whatever shape makes of a node that spells a value. It gives back
the value just if no object in it has the key of a kept text as its first.

* `Json.Value.Literal`: the values that stand for nothing but themselves;
* `Json.reads_anything`: they are read as they are;
* `Json.literal_of_anything`: whatever is read as it is, is one of them.
-/

namespace Rendezvous.Json

mutual

/-- No object in a value has `keptKey` as its first key. -/
def Value.Literal : Value → Prop
  | .array items => LiteralItems items
  | .object members => (∀ p ∈ members.head?, p.1 ≠ keptKey) ∧ LiteralMembers members
  | .null => True
  | .bool _ => True
  | .number _ => True
  | .text _ => True

/-- `Value.Literal` for each of some values. -/
def LiteralItems : List Value → Prop
  | [] => True
  | v :: rest => v.Literal ∧ LiteralItems rest

/-- `Value.Literal` for the value of each member. -/
def LiteralMembers : List (String × Value) → Prop
  | [] => True
  | (_, v) :: rest => v.Literal ∧ LiteralMembers rest

end

variable {inner : String → Except DecodeError Value} {levels : Nat} {m : Mode}

/-! ### Values that are read as they are -/

/-- Whether the first key marks a kept text. -/
theorem kept?_entry (key : String) (keyStop keyNext next : Place) (v : Node) (rest : Entries) :
    (Entries.entry (.ok key) keyStop keyNext v next rest).kept? =
      if key = keptKey then some (v, next, rest) else none := rfl

theorem kept?_eq_none_iff {entries : Entries} {members : List (String × Value)}
    (hs : entries.Spells members) :
    entries.kept? = none ↔ ∀ p ∈ members.head?, p.1 ≠ keptKey := by
  cases hs with
  | close stop => simp [Entries.kept?]
  | entry key keyStop keyNext hnode next hrest => simp [kept?_entry]

mutual

/-- A node that spells a literal value has it, if enough containers may open. -/
theorem Node.untyped_of_spells : (v : Value) → {node : Node} → {m : Mode} → node.Spells v →
    v.Literal → v.nesting < m.depth → node.untyped inner m = .ok v
  | .null, _, _, h, _, _ => by cases h; rfl
  | .bool _, _, _, h, _, _ => by cases h; rfl
  | .number _, _, _, h, _, _ => by cases h; rfl
  | .text _, _, _, h, _, _ => by cases h; rfl
  | .array items, _, m, h, hliteral, hdepth => by
    cases h with
    | array start hitems =>
      obtain ⟨within, henter, hwithin⟩ := enter_of_lt hdepth start
      simp only [Node.untyped, henter, bind, Except.bind,
        Items.untyped_of_spells items hitems hliteral hwithin, Except.map]
  | .object members, _, m, h, ⟨hfirst, hliteral⟩, hdepth => by
    cases h with
    | object start hentries =>
      obtain ⟨within, henter, hwithin⟩ := enter_of_lt hdepth start
      simp only [Node.untyped, henter, bind, Except.bind, (kept?_eq_none_iff hentries).2 hfirst,
        Entries.untyped_of_spells members hentries hliteral hwithin, Except.map]

theorem Items.untyped_of_spells : (vs : List Value) → {items : Items} → {m : Mode} →
    items.Spells vs → LiteralItems vs → itemsNesting vs < m.depth →
    items.untyped inner m = .ok vs
  | [], _, _, h, _, _ => by cases h; rfl
  | v :: vs, _, _, h, ⟨hv, hvs⟩, hdepth => by
    cases h with
    | item hnode next hrest =>
      rw [itemsNesting] at hdepth
      rw [Items.untyped, Node.untyped_of_spells v hnode hv (by omega),
        Items.untyped_of_spells vs hrest hvs (by omega)]
      rfl

theorem Entries.untyped_of_spells : (members : List (String × Value)) → {entries : Entries} →
    {m : Mode} → entries.Spells members → LiteralMembers members →
    membersNesting members < m.depth → entries.untyped inner m = .ok members
  | [], _, _, h, _, _ => by cases h; rfl
  | (_, v) :: members, _, _, h, ⟨hv, hmembers⟩, hdepth => by
    cases h with
    | entry key keyStop keyNext hnode next hrest =>
      rw [membersNesting] at hdepth
      rw [Entries.untyped, Node.untyped_of_spells v hnode hv (by omega),
        Entries.untyped_of_spells members hrest hmembers (by omega)]
      rfl

end

theorem reads_anything {v : Value} (hliteral : v.Literal) (h : v.nesting ≤ levels) :
    Reads levels anything v v.canonical := by
  intro m node hm hs
  rw [anything, untyped, Node.untyped_of_spells v hs hliteral (Nat.lt_of_le_of_lt h hm)]
  rfl

/-! ### Values that are read as something else -/

/-- An object whose only key is `keptKey`. -/
def Value.Marked (v : Value) : Prop := ∃ w, v = .object [(keptKey, w)]

theorem key_mem_insertMember {k key : String} {v : Value} {members : List (String × Value)}
    (h : key = k ∨ key ∈ members.map Prod.fst) :
    key ∈ (insertMember k v members).map Prod.fst := by
  induction members with
  | nil => simpa [insertMember] using h
  | cons p rest ih =>
    unfold insertMember
    split
    case isTrue heq => simpa [heq] using h
    case isFalse hne =>
      split
      case isTrue hlt => simpa using h
      case isFalse hnlt =>
        simp only [List.map_cons, List.mem_cons] at h ⊢
        rcases h with rfl | rfl | h
        · exact .inr (ih (.inl rfl))
        · exact .inl rfl
        · exact .inr (ih (.inr h))

/-- Members that are put in order keep their keys. -/
theorem key_mem_sortMembers {key : String} {members : List (String × Value)} :
    key ∈ members.map Prod.fst → key ∈ (sortMembers members).map Prod.fst := by
  induction members using sortMembers_induct with
  | nil => exact id
  | step seen sorted p ih =>
    intro h
    rw [List.map_append, List.mem_append] at h
    exact key_mem_insertMember (h.symm.imp List.mem_singleton.1 ih)

/-- Members that are put in order value by value keep their keys. -/
theorem keys_canonicalMembers (members : List (String × Value)) :
    (canonicalMembers members).map Prod.fst = members.map Prod.fst := by
  induction members with
  | nil => rfl
  | cons p rest ih => rw [canonicalMembers, List.map_cons, List.map_cons, ih]

/-- A kept text is all that there is in its object. -/
theorem keptValue_eq_ok {v : Node} {next : Place} {rest : Entries} {w : Value}
    (h : keptValue inner m v next rest = .ok w) :
    (∃ s, inner s = .ok w) ∧ ∃ stop, rest = .close stop := by
  obtain ⟨s, -, hvalue⟩ := bind_eq_ok_iff.1 h
  obtain ⟨value, hinner, hend⟩ := bind_eq_ok_iff.1 hvalue
  obtain ⟨⟨⟩, hclosed, hdone⟩ := bind_eq_ok_iff.1 hend
  cases hdone
  refine ⟨⟨s, mapError_eq_ok_iff.1 hinner⟩, ?_⟩
  cases rest with
  | close stop => exact ⟨stop, rfl⟩
  | _ =>
    simp only [Entries.checkClosed, Mode.bad] at hclosed
    split at hclosed <;> cases hclosed

/-- Members are read one by one. -/
theorem of_untyped_entry {key : String} {keyStop keyNext next : Place} {v : Node} {rest : Entries}
    {members : List (String × Value)}
    (h : (Entries.entry (.ok key) keyStop keyNext v next rest).untyped inner m = .ok members) :
    ∃ w ws, v.untyped inner m = .ok w ∧ rest.untyped inner m = .ok ws ∧
      members = (key, w) :: ws := by
  obtain ⟨w, hw, hrest⟩ := bind_eq_ok_iff.1 (show (do
    let w ← v.untyped inner m
    let ws ← rest.untyped inner m
    return (key, w) :: ws) = Except.ok members from h)
  obtain ⟨ws, hws, hdone⟩ := bind_eq_ok_iff.1 hrest
  exact ⟨w, ws, hw, hws, (Except.ok.inj hdone).symm⟩

/-- The first key of members that are read one by one is another than that of a kept text. -/
theorem head_ne_of_kept?_eq_none {entries : Entries} {members : List (String × Value)}
    (hkept : entries.kept? = none) (h : entries.untyped inner m = .ok members) :
    ∀ p ∈ members.head?, p.1 ≠ keptKey := by
  cases entries with
  | close stop =>
    cases h
    nofun
  | entry key keyStop keyNext v next rest =>
    cases key with
    | ok key =>
      obtain ⟨w, ws, -, -, rfl⟩ := of_untyped_entry h
      rintro _ ⟨⟩ heq
      rw [kept?_entry, if_pos heq] at hkept
      cases hkept
    | error f => cases h
  | keyless found cause => cases h
  | broken cause => cases h

/-- Nothing is read as a marked object: if its only key was the first, it stood for something
else, and if not, there is another key. -/
theorem not_marked_of_untyped (hinner : ∀ s w, inner s = .ok w → ¬ w.canonical.Marked)
    {node : Node} {v : Value} (h : node.untyped inner m = .ok v) : ¬ v.canonical.Marked := by
  cases node with
  | object start entries =>
    rw [Node.untyped] at h
    obtain ⟨within, -, hentries⟩ := bind_eq_ok_iff.1 h
    split at hentries
    case h_1 first next rest hkept =>
      obtain ⟨⟨s, hs⟩, -⟩ := keptValue_eq_ok hentries
      exact hinner s v hs
    case h_2 hkept =>
      obtain ⟨members, hmembers, rfl⟩ := map_eq_ok_iff.1 hentries
      rintro ⟨w, hmarked⟩
      rw [Value.canonical, Value.object.injEq] at hmarked
      cases members with
      | nil => cases hmarked
      | cons p rest =>
        have hkey : p.1 ∈ (canonicalMembers (p :: rest)).map Prod.fst := by
          rw [keys_canonicalMembers]
          exact List.mem_cons_self
        have hsorted := key_mem_sortMembers hkey
        rw [hmarked] at hsorted
        exact head_ne_of_kept?_eq_none hkept hmembers p rfl (List.mem_singleton.1 hsorted)
  | array start items =>
    obtain ⟨within, -, hitems⟩ := bind_eq_ok_iff.1 h
    obtain ⟨vs, -, rfl⟩ := map_eq_ok_iff.1 hitems
    rintro ⟨_, ⟨⟩⟩
  | null start stop => cases h; rintro ⟨_, ⟨⟩⟩
  | bool b start stop => cases h; rintro ⟨_, ⟨⟩⟩
  | number n start stop =>
    cases n with
    | ok n => cases h; rintro ⟨_, ⟨⟩⟩
    | error f => cases h
  | text s start stop =>
    cases s with
    | ok s => cases h; rintro ⟨_, ⟨⟩⟩
    | error f => cases h
  | stump start cause => cases h
  | broken cause => cases h

theorem not_marked_of_keptWithin {fuel : Nat} {s : String} {v : Value}
    (h : keptWithin fuel s = .ok v) : ¬ v.canonical.Marked := by
  induction fuel generalizing s v with
  | zero => cases h
  | succ fuel ih =>
    obtain ⟨w, hw, hdone⟩ := bind_eq_ok_iff.1 h
    obtain ⟨w', hw', rfl⟩ := map_eq_ok_iff.1 hw
    split at hdone
    · cases hdone
    · cases hdone
      rw [(Value.canonical_ordered w').canonical_eq]
      exact not_marked_of_untyped (fun _ _ => ih) hw'

/-- Members that are read one by one keep their keys. -/
theorem keys_of_untyped {entries : Entries} {members read : List (String × Value)}
    (hs : entries.Spells members) (h : entries.untyped inner m = .ok read) :
    read.map Prod.fst = members.map Prod.fst := by
  induction members generalizing entries read with
  | nil =>
    cases hs
    cases h
    rfl
  | cons p members ih =>
    cases hs with
    | entry key keyStop keyNext hnode next hrest =>
      obtain ⟨v, vs, -, hvs, rfl⟩ := of_untyped_entry h
      rw [List.map_cons, List.map_cons, ih hrest hvs]

theorem marked_of_kept? {entries : Entries} {members : List (String × Value)} {v : Node}
    {next stop : Place} (hs : entries.Spells members)
    (hkept : entries.kept? = some (v, next, .close stop)) : (Value.object members).Marked := by
  cases hs with
  | close => cases hkept
  | @entry key keyStop keyNext node w hnode _ rest members hrest =>
    rw [kept?_entry] at hkept
    split at hkept
    case isTrue hkey =>
      cases hkept
      cases hrest
      exact ⟨w, hkey ▸ rfl⟩
    case isFalse hkey => cases hkept

theorem ascending_iff_keys {members : List (String × Value)} :
    Ascending members ↔ (members.map Prod.fst).Pairwise (· < ·) :=
  List.pairwise_map.symm

/-- Members in order that are read one by one are not moved when they are put in order. -/
theorem sortMembers_of_untyped {entries : Entries} {members read : List (String × Value)}
    (hs : entries.Spells members) (hkeys : Ascending members)
    (h : entries.untyped inner m = .ok read) :
    sortMembers (canonicalMembers read) = canonicalMembers read := by
  refine Ascending.sortMembers_eq (ascending_iff_keys.2 ?_)
  rw [keys_canonicalMembers, keys_of_untyped hs h]
  exact ascending_iff_keys.1 hkeys

mutual

/-- A value that is read as it is stands for nothing else. -/
theorem Value.literal_of_untyped (hinner : ∀ s w, inner s = .ok w → ¬ w.canonical.Marked) :
    (v : Value) → {node : Node} → {m : Mode} → {read : Value} → node.Spells v → v.Ordered →
    node.untyped inner m = .ok read → read.canonical = v → v.Literal
  | .null, _, _, _, _, _, _, _ => trivial
  | .bool _, _, _, _, _, _, _, _ => trivial
  | .number _, _, _, _, _, _, _, _ => trivial
  | .text _, _, _, _, _, _, _, _ => trivial
  | .array items, _, _, _, hs, hordered, h, hsame => by
    cases hs with
    | array start hitems =>
      obtain ⟨within, -, h⟩ := bind_eq_ok_iff.1 h
      obtain ⟨vs, hvs, rfl⟩ := map_eq_ok_iff.1 h
      exact literalItems_of_untyped hinner items hitems hordered hvs (Value.array.inj hsame)
  | .object members, _, _, _, hs, ⟨hkeys, hordered⟩, h, hsame => by
    cases hs with
    | object start hentries =>
      rw [Node.untyped] at h
      obtain ⟨within, -, h⟩ := bind_eq_ok_iff.1 h
      split at h
      case h_1 first next rest hkept =>
        obtain ⟨⟨s, hs⟩, stop, rfl⟩ := keptValue_eq_ok h
        exact (hinner s _ hs (hsame ▸ marked_of_kept? hentries hkept)).elim
      case h_2 hkept =>
        obtain ⟨vs, hvs, rfl⟩ := map_eq_ok_iff.1 h
        rw [Value.canonical, sortMembers_of_untyped hentries hkeys hvs] at hsame
        obtain rfl := Value.object.inj hsame
        exact ⟨(kept?_eq_none_iff hentries).1 hkept,
          literalMembers_of_untyped hinner _ hentries hordered hvs rfl⟩

theorem literalItems_of_untyped (hinner : ∀ s w, inner s = .ok w → ¬ w.canonical.Marked) :
    (items : List Value) → {nodes : Items} → {m : Mode} → {read : List Value} →
    nodes.Spells items → OrderedItems items → nodes.untyped inner m = .ok read →
    canonicalItems read = items → LiteralItems items
  | [], _, _, _, _, _, _, _ => trivial
  | v :: rest, _, _, _, hs, ⟨hv, hrest⟩, h, hsame => by
    cases hs with
    | item hnode next hnodes =>
      obtain ⟨w, hw, h⟩ := bind_eq_ok_iff.1 h
      obtain ⟨ws, hws, hdone⟩ := bind_eq_ok_iff.1 h
      cases hdone
      obtain ⟨hsame, hsames⟩ := List.cons.inj hsame
      exact ⟨v.literal_of_untyped hinner hnode hv hw hsame,
        literalItems_of_untyped hinner rest hnodes hrest hws hsames⟩

theorem literalMembers_of_untyped (hinner : ∀ s w, inner s = .ok w → ¬ w.canonical.Marked) :
    (members : List (String × Value)) → {entries : Entries} → {m : Mode} →
    {read : List (String × Value)} → entries.Spells members → OrderedMembers members →
    entries.untyped inner m = .ok read → canonicalMembers read = members →
    LiteralMembers members
  | [], _, _, _, _, _, _, _ => trivial
  | (_, v) :: rest, _, _, _, hs, ⟨hv, hrest⟩, h, hsame => by
    cases hs with
    | entry key keyStop keyNext hnode next hentries =>
      obtain ⟨w, ws, hw, hws, rfl⟩ := of_untyped_entry h
      obtain ⟨hsame, hsames⟩ := List.cons.inj hsame
      exact ⟨v.literal_of_untyped hinner hnode hv hw (Prod.mk.inj hsame).2,
        literalMembers_of_untyped hinner rest hentries hrest hws hsames⟩

end

theorem literal_of_anything {v : Value} {node : Node} (hs : node.Spells v) (hordered : v.Ordered)
    (h : anything m node = .ok v) : v.Literal := by
  obtain ⟨read, hread, hsame⟩ := map_eq_ok_iff.1 h
  exact v.literal_of_untyped (fun _ _ => not_marked_of_keptWithin) hs hordered hread hsame

/-! ### Values without the key -/

theorem literalItems_iff {items : List Value} : LiteralItems items ↔ ∀ v ∈ items, v.Literal := by
  induction items with
  | nil => simp [LiteralItems]
  | cons v rest ih => rw [LiteralItems, ih, List.forall_mem_cons]

theorem literalMembers_iff {members : List (String × Value)} :
    LiteralMembers members ↔ ∀ p ∈ members, p.2.Literal := by
  induction members with
  | nil => simp [LiteralMembers]
  | cons p rest ih =>
    obtain ⟨k, v⟩ := p
    rw [LiteralMembers, ih, List.forall_mem_cons]

/-- Whichever member comes first when they are put in order, its key is one of theirs. -/
theorem literal_canonical_object {members : List (String × Value)}
    (hkeys : keptKey ∉ members.map Prod.fst)
    (hvalues : LiteralMembers (canonicalMembers members)) :
    (Value.object members).canonical.Literal := by
  refine ⟨fun p hp heq => hkeys ?_, literalMembers_iff.2 fun p hp =>
    literalMembers_iff.1 hvalues p (mem_of_mem_sortMembers hp)⟩
  have hmem := List.mem_map_of_mem (f := Prod.fst)
    (mem_of_mem_sortMembers (List.mem_of_mem_head? hp))
  rwa [keys_canonicalMembers, heq] at hmem
end Rendezvous.Json
