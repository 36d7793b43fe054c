import Rendezvous.Proofs.Json.Number
import Rendezvous.Proofs.Json.Text

/-!
# Rendezvous.Proofs.Json.Reader

The compact text of a value is read back, for every value whose numbers are whole. Reading a
text gives a node with places in it; it *spells* a value if it is that value once the places
are forgotten.

* `Json.Node.Spells`: a node and the value that it stands for;
* `Json.Value.Plain`: the values whose numbers are whole and fit;
* `Json.itemsTail`, `Json.entriesTail`: the text of what is left of an array or an object;
* `Json.readValue_render`, `Json.read_render`.
-/

namespace Rendezvous.Json

/-! ### Nodes and values -/

mutual

/-- A node stands for a value. -/
inductive Node.Spells : Node → Value → Prop
  | null (start stop : Place) : Node.Spells (.null start stop) .null
  | bool (b : Bool) (start stop : Place) : Node.Spells (.bool b start stop) (.bool b)
  | number (n : Number) (start stop : Place) :
    Node.Spells (.number (.ok n) start stop) (.number n)
  | text (s : String) (start stop : Place) : Node.Spells (.text (.ok s) start stop) (.text s)
  | array (start : Place) {items : Items} {vs : List Value} (h : Items.Spells items vs) :
    Node.Spells (.array start items) (.array vs)
  | object (start : Place) {entries : Entries} {members : List (String × Value)}
    (h : Entries.Spells entries members) : Node.Spells (.object start entries) (.object members)

/-- Items stand for values. -/
inductive Items.Spells : Items → List Value → Prop
  | close (stop : Place) : Items.Spells (.close stop) []
  | item {node : Node} {v : Value} (h : Node.Spells node v) (next : Place) {rest : Items}
    {vs : List Value} (hrest : Items.Spells rest vs) : Items.Spells (.item node next rest) (v :: vs)

/-- Entries stand for members. -/
inductive Entries.Spells : Entries → List (String × Value) → Prop
  | close (stop : Place) : Entries.Spells (.close stop) []
  | entry (key : String) (keyStop keyNext : Place) {node : Node} {v : Value}
    (h : Node.Spells node v) (next : Place) {rest : Entries} {members : List (String × Value)}
    (hrest : Entries.Spells rest members) :
    Entries.Spells (.entry (.ok key) keyStop keyNext node next rest) ((key, v) :: members)

end

/-- A whole number that is kept exactly. -/
def Number.Plain : Number → Prop
  | .nat n => n < 2 ^ 64
  | .negSucc n => n < 2 ^ 63
  | .fraction _ => False

mutual

/-- All numbers in a value are whole and fit. -/
def Value.Plain : Value → Prop
  | .number n => n.Plain
  | .array items => PlainItems items
  | .object members => PlainMembers members
  | .null => True
  | .bool _ => True
  | .text _ => True

/-- `Value.Plain` for each of some values. -/
def PlainItems : List Value → Prop
  | [] => True
  | v :: rest => v.Plain ∧ PlainItems rest

/-- `Value.Plain` for the value of each member. -/
def PlainMembers : List (String × Value) → Prop
  | [] => True
  | (_, v) :: rest => v.Plain ∧ PlainMembers rest

end

/-! ### The bytes of a text -/

/-- The bytes of a value's text. -/
def Value.bytes (v : Value) : Bytes := Bytes.ofString v.render

/-- The bytes behind an item of an array, up to its bracket. -/
def itemsTail : List Value → Bytes
  | [] => [93]
  | v :: rest => 44 :: (v.bytes ++ itemsTail rest)

/-- The bytes behind the bracket that opens an array. -/
def itemsBytes : List Value → Bytes
  | [] => [93]
  | v :: rest => v.bytes ++ itemsTail rest

/-- The bytes of a member. -/
def memberBytes (k : String) (v : Value) : Bytes :=
  Bytes.ofString (quote k) ++ 58 :: v.bytes

/-- The bytes behind a member of an object, up to its brace. -/
def entriesTail : List (String × Value) → Bytes
  | [] => [125]
  | (k, v) :: rest => 44 :: (memberBytes k v ++ entriesTail rest)

/-- The bytes behind the brace that opens an object. -/
def entriesBytes : List (String × Value) → Bytes
  | [] => [125]
  | (k, v) :: rest => memberBytes k v ++ entriesTail rest

theorem commaSeparated_nil : Bytes.ofString (commaSeparated []) = [] :=
  (Bytes.ofString_eq _).trans rfl

theorem commaSeparated_cons (t : String) (ts : List String) :
    Bytes.ofString (commaSeparated (t :: ts)) =
      Bytes.ofString t ++ ts.flatMap fun t => 44 :: Bytes.ofString t := by
  induction ts generalizing t with
  | nil => simp [commaSeparated]
  | cons u ts ih =>
      have hcomma : Bytes.ofString "," = [44] := (Bytes.ofString_eq _).trans (by decide)
      have hu := ih u
      unfold commaSeparated at hu ⊢
      rw [String.intercalate_cons_cons, Bytes.ofString_append, Bytes.ofString_append, hu,
        List.flatMap_cons, hcomma]
      simp

theorem flatMap_renderItems (vs : List Value) :
    ((renderItems vs).flatMap fun t => 44 :: Bytes.ofString t) ++ [93] = itemsTail vs := by
  induction vs with
  | nil => rfl
  | cons v vs ih =>
      rw [renderItems, List.flatMap_cons, List.append_assoc, ih]
      rfl

theorem ofString_member (k : String) (v : Value) :
    Bytes.ofString (quote k ++ ":" ++ v.render) = memberBytes k v := by
  have hcolon : Bytes.ofString ":" = [58] := (Bytes.ofString_eq _).trans (by decide)
  rw [Bytes.ofString_append, Bytes.ofString_append, hcolon, List.append_assoc]
  rfl

theorem flatMap_renderMembers (members : List (String × Value)) :
    ((renderMembers members).flatMap fun t => 44 :: Bytes.ofString t) ++ [125] =
      entriesTail members := by
  induction members with
  | nil => rfl
  | cons m members ih =>
      obtain ⟨k, v⟩ := m
      rw [renderMembers, List.flatMap_cons, List.append_assoc, ih, ofString_member]
      rfl

theorem bytes_array (vs : List Value) : (Value.array vs).bytes = 91 :: itemsBytes vs := by
  have hopen : Bytes.ofString "[" = [91] := (Bytes.ofString_eq _).trans (by decide)
  have hclose : Bytes.ofString "]" = [93] := (Bytes.ofString_eq _).trans (by decide)
  rw [Value.bytes, Value.render, Bytes.ofString_append, Bytes.ofString_append, hopen, hclose]
  cases vs with
  | nil =>
      rw [renderItems, commaSeparated_nil]
      rfl
  | cons v vs =>
      rw [renderItems, commaSeparated_cons, List.append_assoc, List.append_assoc,
        flatMap_renderItems]
      rfl

theorem bytes_object (members : List (String × Value)) :
    (Value.object members).bytes = 123 :: entriesBytes members := by
  have hopen : Bytes.ofString "\x7b" = [123] := (Bytes.ofString_eq _).trans (by decide)
  have hclose : Bytes.ofString "\x7d" = [125] := (Bytes.ofString_eq _).trans (by decide)
  rw [Value.bytes, Value.render, Bytes.ofString_append, Bytes.ofString_append, hopen, hclose]
  cases members with
  | nil =>
      rw [renderMembers, commaSeparated_nil]
      rfl
  | cons m members =>
      obtain ⟨k, v⟩ := m
      rw [renderMembers, commaSeparated_cons, List.append_assoc, List.append_assoc,
        flatMap_renderMembers, ofString_member]
      rfl

theorem bytes_text (s : String) :
    (Value.text s).bytes = 34 :: ((s.toList.flatMap escape).flatMap Bytes.utf8 ++ [34]) := by
  rw [Value.bytes, Value.render, ofString_quote]

theorem bytes_nat (n : Nat) : (Value.number (.nat n)).bytes = digits n := by
  rw [Value.bytes, Value.render, Number.render, digits]

theorem bytes_negSucc (n : Nat) :
    (Value.number (.negSucc n)).bytes = 45 :: digits (n + 1) := by
  have hminus : Bytes.ofString "-" = [45] := (Bytes.ofString_eq _).trans (by decide)
  rw [Value.bytes, Value.render, Number.render, Bytes.ofString_append, hminus, digits]
  rfl

/-! ### Reading -/

/-- A byte with which a value may begin: no blank, and no bracket that closes an array. -/
def Opens (b : UInt8) : Prop := isBlankByte b = false ∧ b ≠ 93

theorem opens_of_isDigitByte {b : UInt8} (h : isDigitByte b = true) : Opens b := by
  simp only [isDigitByte, Bool.and_eq_true, decide_eq_true_eq] at h
  have hne {n : Nat} (hn : n < 48 ∨ 57 < n) (hlt : n < 256) : b ≠ UInt8.ofNat n := by
    intro hb
    rw [hb, UInt8.toNat_ofNat', Nat.mod_eq_of_lt hlt] at h
    omega
  have h32 : b ≠ 32 := hne (.inl (by decide)) (by decide)
  have h10 : b ≠ 10 := hne (.inl (by decide)) (by decide)
  have h9 : b ≠ 9 := hne (.inl (by decide)) (by decide)
  have h13 : b ≠ 13 := hne (.inl (by decide)) (by decide)
  have h93 : b ≠ 93 := hne (.inr (by decide)) (by decide)
  exact ⟨by simp [isBlankByte, h32, h10, h9, h13], h93⟩

/-- The text of a value begins with a byte that may begin a value. -/
theorem bytes_eq_cons {v : Value} (hv : v.Plain) : ∃ b bs, v.bytes = b :: bs ∧ Opens b := by
  cases v with
  | null => exact ⟨110, _, (Bytes.ofString_eq _).trans rfl, by decide, by decide⟩
  | bool b =>
      cases b with
      | true => exact ⟨116, _, (Bytes.ofString_eq _).trans rfl, by decide, by decide⟩
      | false => exact ⟨102, _, (Bytes.ofString_eq _).trans rfl, by decide, by decide⟩
  | number n =>
      cases n with
      | nat n =>
          obtain ⟨b, bs, hbs, hdigit, -⟩ := digits_eq_cons n
          exact ⟨b, bs, (bytes_nat n).trans hbs, opens_of_isDigitByte hdigit⟩
      | negSucc n => exact ⟨45, _, bytes_negSucc n, by decide, by decide⟩
      | fraction x => exact hv.elim
  | text s => exact ⟨34, _, bytes_text s, by decide, by decide⟩
  | array vs => exact ⟨91, _, bytes_array vs, by decide, by decide⟩
  | object members => exact ⟨123, _, bytes_object members, by decide, by decide⟩

/-- No blanks are dropped where there are none. -/
theorem skip_cons {b : UInt8} (h : isBlankByte b = false) (rest : Bytes) (p : Place) :
    Cursor.skip ⟨b :: rest, p⟩ = ⟨b :: rest, p⟩ := by
  simp [Cursor.skip, skipBlanks, h]

theorem ends_itemsTail (vs : List Value) (rest : Bytes) : Ends (itemsTail vs ++ rest) := by
  cases vs with
  | nil => exact ends_cons (by decide) _
  | cons v vs => exact ends_cons (by decide) _

theorem ends_entriesTail (members : List (String × Value)) (rest : Bytes) :
    Ends (entriesTail members ++ rest) := by
  cases members with
  | nil => exact ends_cons (by decide) _
  | cons m members => exact ends_cons (by decide) _

theorem skip_of_ends {rest : Bytes} (h : Ends rest) (p : Place) :
    Cursor.skip ⟨rest, p⟩ = ⟨rest, p⟩ := by
  cases hrest : rest with
  | nil => rfl
  | cons b bs =>
      refine skip_cons ?_ bs p
      rcases h b (by rw [hrest]; rfl) with rfl | rfl | rfl <;> decide

theorem length_itemsTail_pos (vs : List Value) : 0 < (itemsTail vs).length := by
  cases vs <;> exact Nat.succ_pos _

theorem length_entriesTail_pos (members : List (String × Value)) :
    0 < (entriesTail members).length := by
  cases members <;> exact Nat.succ_pos _

/-! ### Containers -/

/-- A value is read back in front of some text, wherever it stands. -/
def ReadsValue (fuel : Nat) (v : Value) (rest : Bytes) : Prop :=
  ∀ p, ∃ node p', readValue fuel ⟨v.bytes ++ rest, p⟩ = (node, some ⟨rest, p'⟩) ∧
    node.Spells v

/-- Some text is read back as items. -/
def ReadsItems (fuel : Nat) (first : Bool) (inner : Bytes) (vs : List Value)
    (rest : Bytes) : Prop :=
  ∀ p, ∃ items p', readItems fuel first ⟨inner ++ rest, p⟩ = (items, some ⟨rest, p'⟩) ∧
    items.Spells vs

/-- Some text is read back as entries. -/
def ReadsEntries (fuel : Nat) (first : Bool) (inner : Bytes)
    (members : List (String × Value)) (rest : Bytes) : Prop :=
  ∀ p, ∃ entries p', readEntries fuel first ⟨inner ++ rest, p⟩ = (entries, some ⟨rest, p'⟩) ∧
    entries.Spells members

section Containers

variable {fuel : Nat} {rest : Bytes}

theorem readsItems_nil (first : Bool) : ReadsItems (fuel + 1) first [93] [] rest := by
  intro p
  refine ⟨.close (Cursor.step p 93), Cursor.step p 93, ?_, .close _⟩
  rw [List.singleton_append, readItems, skip_cons (by decide)]
  simp only [if_true]

theorem readsItems_first {v : Value} {vs : List Value} (hv : v.Plain)
    (hvalue : ReadsValue fuel v (itemsTail vs ++ rest))
    (htail : ReadsItems fuel false (itemsTail vs) vs rest) :
    ReadsItems (fuel + 1) true (itemsBytes (v :: vs)) (v :: vs) rest := by
  intro p
  obtain ⟨node, p', hnode, hspells⟩ := hvalue p
  obtain ⟨items, p'', hitems, hrest⟩ := htail p'
  refine ⟨.item node p' items, p'', ?_, .item hspells p' hrest⟩
  obtain ⟨b, bs, hbs, hblank, hne⟩ := bytes_eq_cons hv
  have hhead : ¬ some b = some (93 : UInt8) := fun h => hne (Option.some.inj h)
  rw [hbs, List.cons_append] at hnode
  rw [itemsBytes, List.append_assoc, hbs, List.cons_append, readItems, skip_cons hblank]
  simp only [if_neg hne, Bool.true_or, if_true, skip_cons hblank, List.head?_cons,
    if_neg hhead, hnode, skip_of_ends (ends_itemsTail vs rest), hitems]

theorem readsItems_cons {v : Value} {vs : List Value} (hv : v.Plain)
    (hvalue : ReadsValue fuel v (itemsTail vs ++ rest))
    (htail : ReadsItems fuel false (itemsTail vs) vs rest) :
    ReadsItems (fuel + 1) false (itemsTail (v :: vs)) (v :: vs) rest := by
  intro p
  obtain ⟨node, p', hnode, hspells⟩ := hvalue (Cursor.step p 44)
  obtain ⟨items, p'', hitems, hrest⟩ := htail p'
  refine ⟨.item node p' items, p'', ?_, .item hspells p' hrest⟩
  obtain ⟨b, bs, hbs, hblank, hne⟩ := bytes_eq_cons hv
  have hhead : ¬ some b = some (93 : UInt8) := fun h => hne (Option.some.inj h)
  rw [hbs, List.cons_append] at hnode
  rw [itemsTail, List.cons_append, List.append_assoc, hbs, List.cons_append, readItems,
    skip_cons (by decide)]
  simp only [show ¬ (44 : UInt8) = 93 by decide, if_false, Bool.false_or, if_true,
    Bool.false_eq_true, decide_true, skip_cons hblank, List.head?_cons, if_neg hhead, hnode,
    skip_of_ends (ends_itemsTail vs rest), hitems]

theorem readsEntries_nil (first : Bool) : ReadsEntries (fuel + 1) first [125] [] rest := by
  intro p
  refine ⟨.close (Cursor.step p 125), Cursor.step p 125, ?_, .close _⟩
  rw [List.singleton_append, readEntries, skip_cons (by decide)]
  simp only [if_true]

theorem memberBytes_append (k : String) (v : Value) (rest : Bytes) :
    memberBytes k v ++ rest =
      34 :: ((k.toList.flatMap escape).flatMap Bytes.utf8 ++ 34 :: 58 :: (v.bytes ++ rest)) := by
  rw [memberBytes, ofString_quote]
  simp

theorem readsEntries_first (k : String) {v : Value} {members : List (String × Value)}
    (hvalue : ReadsValue fuel v (entriesTail members ++ rest))
    (htail : ReadsEntries fuel false (entriesTail members) members rest) :
    ReadsEntries (fuel + 1) true (entriesBytes ((k, v) :: members)) ((k, v) :: members)
      rest := by
  intro p
  obtain ⟨q, hq⟩ := readText_quote (58 :: (v.bytes ++ (entriesTail members ++ rest)))
    (Cursor.step p 34) k
  obtain ⟨node, p', hnode, hspells⟩ := hvalue (Cursor.step q 58)
  obtain ⟨entries, p'', hentries, hrest⟩ := htail p'
  refine ⟨.entry (.ok k) q q node p' entries, p'', ?_, .entry k q q hspells p' hrest⟩
  rw [entriesBytes, List.append_assoc, memberBytes_append, readEntries, skip_cons (by decide)]
  simp only [show ¬ (34 : UInt8) = 125 by decide, if_false, Bool.true_or, if_true,
    skip_cons (show isBlankByte 34 = false by decide), hq,
    skip_cons (show isBlankByte 58 = false by decide), hnode,
    skip_of_ends (ends_entriesTail members rest), hentries]

theorem readsEntries_cons (k : String) {v : Value} {members : List (String × Value)}
    (hvalue : ReadsValue fuel v (entriesTail members ++ rest))
    (htail : ReadsEntries fuel false (entriesTail members) members rest) :
    ReadsEntries (fuel + 1) false (entriesTail ((k, v) :: members)) ((k, v) :: members)
      rest := by
  intro p
  obtain ⟨q, hq⟩ := readText_quote (58 :: (v.bytes ++ (entriesTail members ++ rest)))
    (Cursor.step (Cursor.step p 44) 34) k
  obtain ⟨node, p', hnode, hspells⟩ := hvalue (Cursor.step q 58)
  obtain ⟨entries, p'', hentries, hrest⟩ := htail p'
  refine ⟨.entry (.ok k) q q node p' entries, p'', ?_, .entry k q q hspells p' hrest⟩
  rw [entriesTail, List.cons_append, List.append_assoc, memberBytes_append, readEntries,
    skip_cons (by decide)]
  simp only [show ¬ (44 : UInt8) = 125 by decide, if_false, Bool.false_or, if_true,
    Bool.false_eq_true, decide_true, skip_cons (show isBlankByte 34 = false by decide), hq,
    skip_cons (show isBlankByte 58 = false by decide), hnode,
    skip_of_ends (ends_entriesTail members rest), hentries]

/-! ### Values -/

theorem readsValue_null : ReadsValue (fuel + 1) .null rest := by
  intro p
  have hbytes : Value.bytes .null = [110, 117, 108, 108] := (Bytes.ofString_eq _).trans rfl
  rw [hbytes]
  exact ⟨_, _, rfl, .null _ _⟩

theorem readsValue_bool (b : Bool) : ReadsValue (fuel + 1) (.bool b) rest := by
  intro p
  cases b with
  | true =>
      have hbytes : Value.bytes (.bool true) = [116, 114, 117, 101] :=
        (Bytes.ofString_eq _).trans rfl
      rw [hbytes]
      exact ⟨_, _, rfl, .bool _ _ _⟩
  | false =>
      have hbytes : Value.bytes (.bool false) = [102, 97, 108, 115, 101] :=
        (Bytes.ofString_eq _).trans rfl
      rw [hbytes]
      exact ⟨_, _, rfl, .bool _ _ _⟩

theorem readsValue_number {n : Number} (hn : n.Plain) (hr : Ends rest) :
    ReadsValue (fuel + 1) (.number n) rest := by
  intro p
  cases n with
  | nat n =>
      obtain ⟨p', hp'⟩ := readNumber_nat hr p hn
      refine ⟨.number (.ok (.nat n)) p p', p', ?_, .number _ _ _⟩
      obtain ⟨b, bs, hbs, hdigit, -⟩ := digits_eq_cons n
      rw [hbs, List.cons_append] at hp'
      -- A digit opens no other kind of value.
      rw [bytes_nat, hbs, List.cons_append, readValue,
        skip_cons (opens_of_isDigitByte hdigit).1]
      have hne {m : UInt8} (hm : isDigitByte m = false) : b ≠ m := by
        rintro rfl
        rw [hm] at hdigit
        cases hdigit
      simp only [if_neg (hne (m := 91) (by decide)), if_neg (hne (m := 123) (by decide)),
        if_neg (hne (m := 34) (by decide)), if_neg (hne (m := 110) (by decide)),
        if_neg (hne (m := 116) (by decide)), if_neg (hne (m := 102) (by decide)), hdigit,
        Bool.or_true, if_true, hp']
  | negSucc n =>
      obtain ⟨p', hp'⟩ := readNumber_negSucc hr p hn
      refine ⟨.number (.ok (.negSucc n)) p p', p', ?_, .number _ _ _⟩
      rw [List.cons_append] at hp'
      rw [bytes_negSucc, List.cons_append, readValue, skip_cons (by decide)]
      simp only [show ¬ (45 : UInt8) = 91 by decide, show ¬ (45 : UInt8) = 123 by decide,
        show ¬ (45 : UInt8) = 34 by decide, show ¬ (45 : UInt8) = 110 by decide,
        show ¬ (45 : UInt8) = 116 by decide, show ¬ (45 : UInt8) = 102 by decide, if_false,
        decide_true, Bool.true_or, if_true, hp']
  | fraction x => exact hn.elim

theorem readsValue_text (s : String) : ReadsValue (fuel + 1) (.text s) rest := by
  intro p
  obtain ⟨p', hp'⟩ := readText_quote rest (Cursor.step p 34) s
  refine ⟨.text (.ok s) p p', p', ?_, .text s p p'⟩
  rw [bytes_text, List.cons_append, List.append_assoc, readValue, skip_cons (by decide)]
  simp only [show ¬ (34 : UInt8) = 91 by decide, show ¬ (34 : UInt8) = 123 by decide,
    if_false, if_true, List.singleton_append, hp']

theorem readsValue_array {vs : List Value}
    (h : ReadsItems fuel true (itemsBytes vs) vs rest) :
    ReadsValue (fuel + 1) (.array vs) rest := by
  intro p
  obtain ⟨items, p', hitems, hspells⟩ := h (Cursor.step p 91)
  refine ⟨.array p items, p', ?_, .array p hspells⟩
  rw [bytes_array, List.cons_append, readValue, skip_cons (by decide)]
  simp only [if_true, hitems]

theorem readsValue_object {members : List (String × Value)}
    (h : ReadsEntries fuel true (entriesBytes members) members rest) :
    ReadsValue (fuel + 1) (.object members) rest := by
  intro p
  obtain ⟨entries, p', hentries, hspells⟩ := h (Cursor.step p 123)
  refine ⟨.object p entries, p', ?_, .object p hspells⟩
  rw [bytes_object, List.cons_append, readValue, skip_cons (by decide)]
  simp only [show ¬ (123 : UInt8) = 91 by decide, if_false, if_true, hentries]

end Containers

theorem length_bytes_pos {v : Value} (hv : v.Plain) : 0 < v.bytes.length := by
  obtain ⟨b, bs, hbs, -⟩ := bytes_eq_cons hv
  rw [hbs]
  exact Nat.succ_pos _

mutual

/-- A value is read back with as much fuel as its text is long. -/
theorem readsValue : ∀ (v : Value), v.Plain → ∀ (fuel : Nat) (rest : Bytes),
    v.bytes.length ≤ fuel + 1 → Ends rest → ReadsValue (fuel + 1) v rest
  | .null, _, _, _, _, _ => readsValue_null
  | .bool b, _, _, _, _, _ => readsValue_bool b
  | .number _, hn, _, _, _, hr => readsValue_number hn hr
  | .text s, _, _, _, _, _ => readsValue_text s
  | .array vs, hvs, fuel, rest, hfuel, _ => by
      refine readsValue_array ?_
      rw [bytes_array, List.length_cons] at hfuel
      cases vs with
      | nil =>
          have hone : 1 ≤ fuel := Nat.le_of_succ_le_succ hfuel
          obtain ⟨f, rfl⟩ := Nat.exists_eq_succ_of_ne_zero (Nat.ne_of_gt hone)
          exact readsItems_nil true
      | cons v vs =>
          obtain ⟨hv, hvs⟩ := hvs
          -- Neither the first item nor what is left is empty, so that the fuel lasts for both.
          have hpos := length_bytes_pos hv
          have hpos' := length_itemsTail_pos vs
          rw [itemsBytes, List.length_append] at hfuel
          obtain ⟨f, rfl⟩ : ∃ f, fuel = f + 2 := ⟨fuel - 2, by omega⟩
          exact readsItems_first hv
            (readsValue v hv f _ (by omega) (ends_itemsTail vs rest))
            (readsItems vs hvs f rest (by omega))
  | .object members, hms, fuel, rest, hfuel, _ => by
      refine readsValue_object ?_
      rw [bytes_object, List.length_cons] at hfuel
      cases members with
      | nil =>
          have hone : 1 ≤ fuel := Nat.le_of_succ_le_succ hfuel
          obtain ⟨f, rfl⟩ := Nat.exists_eq_succ_of_ne_zero (Nat.ne_of_gt hone)
          exact readsEntries_nil true
      | cons m members =>
          obtain ⟨k, v⟩ := m
          obtain ⟨hv, hms⟩ := hms
          have hpos := length_bytes_pos hv
          have hpos' := length_entriesTail_pos members
          rw [entriesBytes, memberBytes, List.length_append, List.length_append,
            List.length_cons] at hfuel
          obtain ⟨f, rfl⟩ : ∃ f, fuel = f + 2 := ⟨fuel - 2, by omega⟩
          exact readsEntries_first k
            (readsValue v hv f _ (by omega) (ends_entriesTail members rest))
            (readsEntries members hms f rest (by omega))

/-- What is left of an array is read back with as much fuel as it is long. -/
theorem readsItems : ∀ (vs : List Value), PlainItems vs → ∀ (fuel : Nat) (rest : Bytes),
    (itemsTail vs).length ≤ fuel + 1 →
      ReadsItems (fuel + 1) false (itemsTail vs) vs rest
  | [], _, _, _, _ => readsItems_nil false
  | v :: vs, hvs, fuel, rest, hfuel => by
      obtain ⟨hv, hvs⟩ := hvs
      have hpos := length_bytes_pos hv
      have hpos' := length_itemsTail_pos vs
      rw [itemsTail, List.length_cons, List.length_append] at hfuel
      obtain ⟨f, rfl⟩ : ∃ f, fuel = f + 1 := ⟨fuel - 1, by omega⟩
      exact readsItems_cons hv
        (readsValue v hv f _ (by omega) (ends_itemsTail vs rest))
        (readsItems vs hvs f rest (by omega))

/-- What is left of an object is read back with as much fuel as it is long. -/
theorem readsEntries : ∀ (members : List (String × Value)), PlainMembers members →
    ∀ (fuel : Nat) (rest : Bytes), (entriesTail members).length ≤ fuel + 1 →
      ReadsEntries (fuel + 1) false (entriesTail members) members rest
  | [], _, _, _, _ => readsEntries_nil false
  | (k, v) :: members, hms, fuel, rest, hfuel => by
      obtain ⟨hv, hms⟩ := hms
      have hpos := length_bytes_pos hv
      have hpos' := length_entriesTail_pos members
      rw [entriesTail, memberBytes, List.length_cons, List.length_append, List.length_append,
        List.length_cons] at hfuel
      obtain ⟨f, rfl⟩ : ∃ f, fuel = f + 1 := ⟨fuel - 1, by omega⟩
      exact readsEntries_cons k
        (readsValue v hv f _ (by omega) (ends_entriesTail members rest))
        (readsEntries members hms f rest (by omega))

end

/-- **The text of a value is read back.** -/
theorem read_render {v : Value} (hv : v.Plain) :
    ∃ node, read (Bytes.ofString v.render) = ⟨node, none⟩ ∧ node.Spells v := by
  obtain ⟨node, p', hnode, hspells⟩ := readsValue v hv (2 * v.bytes.length + 2) []
    (by omega) ends_nil ⟨1, 0⟩
  rw [List.append_nil] at hnode
  refine ⟨node, ?_, hspells⟩
  show read v.bytes = _
  unfold read Cursor.ofBytes
  rw [hnode]
  rfl

end Rendezvous.Json
