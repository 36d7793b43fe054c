import Rendezvous.Proofs.Json.Untyped

/-!
# Rendezvous.Proofs.Json.Kept

Kept texts inside one another. What is quoted in a text is shorter than the text, so the reader
of kept texts is never short of fuel: a kept text is read like any other.

* `Json.length_readText`: a quoted text takes fewer bytes than it is read from;
* `Json.Node.Within`, `Json.read_within`: so do all texts in a node;
* `Json.Node.untyped_congr`: readers of kept texts that agree on short ones;
* `Json.kept_eq`, `Json.reads_kept`: what a kept text is read as.
-/

namespace Rendezvous.Json

/-! ### Quoted texts -/

theorem ofString_of_toString? {bs : Bytes} {s : String} (h : Bytes.toString? bs = some s) :
    Bytes.ofString s = bs := by
  rw [Bytes.toString?, String.fromUTF8?] at h
  split at h
  · cases h
    rw [Bytes.ofString, Bytes.toList_eq]
    rfl
  · cases h

theorem length_codePointBytes_le (n : Nat) : (codePointBytes n).length ≤ 4 := by
  have hlength : (codePointBytes n).length = (Char.ofNat n).utf8Size := by
    rw [codePointBytes, String.singleton_eq_ofList, Bytes.ofString_ofList, List.flatMap_singleton,
      Bytes.utf8, String.length_utf8EncodeChar]
  exact hlength.trans_le (Char.utf8Size_le_four _)

namespace TextState

variable (s : TextState) (place : Place)

@[simp] theorem reversed_settle (f : Fault) : (s.settle f).reversed = s.reversed := by
  unfold settle
  split <;> rfl

theorem length_push (bs : Bytes) :
    (s.push bs place).reversed.length = bs.length + s.reversed.length := by
  rw [push, List.length_append, List.length_reverse, reversed_settle]

/-- A unit that is written as six bytes gives four at the most. -/
theorem length_pushUnit_le (n : Nat) :
    (s.pushUnit n place).reversed.length ≤ s.reversed.length + 4 := by
  have hbytes (k : Nat) (bs : Bytes) :
      ((codePointBytes k).reverse ++ bs).length ≤ bs.length + 4 := by
    rw [List.length_append, List.length_reverse, Nat.add_comm]
    exact Nat.add_le_add_left (length_codePointBytes_le k) _
  unfold pushUnit
  split
  · split
    · exact hbytes _ _
    · exact Nat.le_add_right _ _
  · dsimp only
    split
    · exact (congrArg List.length (s.reversed_settle _)).trans_le (Nat.le_add_right _ _)
    · exact (hbytes _ _).trans_eq (by rw [reversed_settle])

theorem length_of_finish {t : String} (h : s.finish place = .ok t) :
    (Bytes.ofString t).length = s.reversed.length := by
  unfold finish at h
  dsimp only at h
  split at h
  · cases h
  · split at h
    · next hbytes =>
      cases h
      rw [ofString_of_toString? hbytes, List.length_reverse, reversed_settle]
    · cases h

end TextState

/-- A quoted text takes fewer bytes than it is read from, the closing quote among them. -/
theorem length_readText {s : TextState} {bs : Bytes} {p : Place} {r : Except Fault String}
    {after : Cursor} (h : readText s bs p = .ok (r, after)) :
    after.rest.length < bs.length ∧ ∀ t, r = .ok t →
      (Bytes.ofString t).length + after.rest.length < s.reversed.length + bs.length := by
  fun_induction readText s bs p with
  | case2 s rest =>
    cases h
    refine ⟨Nat.lt_succ_self _, fun t ht => ?_⟩
    rw [TextState.length_of_finish s _ ht]
    exact Nat.lt_succ_self _
  | case4 s p h1 h2 h3 h4 rest a b c d _ _ _ _ p₁ _ p₂ p₃ ih =>
    obtain ⟨hrest, htext⟩ := ih h
    have hunit := s.length_pushUnit_le p₃ (((a * 16 + b) * 16 + c) * 16 + d)
    simp only [List.length_cons]
    refine ⟨by omega, fun t ht => ?_⟩
    have := htext t ht
    omega
  | case7 s p e rest _ byte _ p₁ _ p₂ ih =>
    obtain ⟨hrest, htext⟩ := ih h
    have hbyte := s.length_push p₂ [byte]
    simp only [List.length_cons, List.length_nil] at hbyte ⊢
    refine ⟨by omega, fun t ht => ?_⟩
    have := htext t ht
    omega
  | case10 s b rest p p₁ _ _ _ ih =>
    obtain ⟨hrest, htext⟩ := ih h
    have hbyte := s.length_push p₁ [b]
    simp only [List.length_cons, List.length_nil] at hbyte ⊢
    refine ⟨by omega, fun t ht => ?_⟩
    have := htext t ht
    omega
  | _ => cases h

/-! ### Where a reader stands behind a part -/

theorem length_skipBlanks_le (bs : Bytes) (p : Place) :
    (skipBlanks bs p).rest.length ≤ bs.length := by
  fun_induction skipBlanks bs p with
  | case1 p => exact Nat.le_refl _
  | case2 p b rest _ ih => exact ih.trans (Nat.le_succ _)
  | case3 p b rest _ => exact Nat.le_refl _

theorem length_skip_le (c : Cursor) : c.skip.rest.length ≤ c.rest.length :=
  length_skipBlanks_le _ _

theorem length_word_le {expected : Bytes} {c after : Cursor} (h : word expected c = .ok after) :
    after.rest.length ≤ c.rest.length := by
  induction expected generalizing c with
  | nil =>
    cases h
    exact Nat.le_refl _
  | cons e expected ih =>
    unfold word at h
    split at h
    · cases h
    · next b rest hrest =>
      dsimp only at h
      split at h
      · rw [hrest]
        exact (ih h).trans (Nat.le_succ _)
      · cases h

theorem length_takeDigits_le (bs : Bytes) (p : Place) :
    (takeDigits bs p).2.rest.length ≤ bs.length := by
  induction bs generalizing p with
  | nil => exact Nat.le_refl _
  | cons b rest ih =>
    unfold takeDigits
    split
    · exact (ih _).trans (Nat.le_succ _)
    · exact Nat.le_refl _

theorem length_readWhole_le {c after : Cursor} {ds : Bytes} (h : readWhole c = .ok (ds, after)) :
    after.rest.length ≤ c.rest.length := by
  have hdigits := length_takeDigits_le c.rest c.place
  unfold readWhole at h
  split at h
  · cases h
  · cases h
  · next heq =>
    cases h
    rwa [heq] at hdigits

theorem length_readPlaces_le {c after : Cursor} {ds : Option Bytes}
    (h : readPlaces c = .ok (ds, after)) : after.rest.length ≤ c.rest.length := by
  unfold readPlaces at h
  split at h
  · next b rest hrest =>
    have hdigits := length_takeDigits_le rest (Cursor.step c.place b)
    split at h
    · split at h
      · cases h
      · next heq =>
        cases h
        rw [heq] at hdigits
        rw [hrest]
        exact hdigits.trans (Nat.le_succ _)
    · cases h
      exact Nat.le_refl _
  · cases h
    exact Nat.le_refl _

theorem length_readExponent_le {c after : Cursor} {e : Option (Bool × Bytes)}
    (h : readExponent c = .ok (e, after)) : after.rest.length ≤ c.rest.length := by
  unfold readExponent at h
  split at h
  · next b rest hrest =>
    split at h
    · extract_lets inner at h
      split at h
      next down c' hsign =>
      have hc' : c'.rest.length ≤ rest.length := by
        split at hsign
        · next sign rest' hrest' =>
          have hless : rest'.length ≤ rest.length := by
            rw [show rest = sign :: rest' from hrest']
            exact Nat.le_succ _
          split at hsign
          · cases hsign
            exact hless
          · split at hsign
            · cases hsign
              exact hless
            · cases hsign
              exact Nat.le_refl _
        · cases hsign
          exact Nat.le_refl _
      have hdigits := length_takeDigits_le c'.rest c'.place
      split at h
      · cases h
      · next heq =>
        cases h
        rw [heq] at hdigits
        rw [hrest]
        exact hdigits.trans (hc'.trans (Nat.le_succ _))
    · cases h
      exact Nat.le_refl _
  · cases h
    exact Nat.le_refl _

theorem length_readNumber_le {c after : Cursor} {node : Node}
    (h : readNumber c = .ok (node, after)) : after.rest.length ≤ c.rest.length := by
  unfold readNumber at h
  dsimp only at h
  obtain ⟨⟨whole, c₁⟩, hwhole, h⟩ := bind_eq_ok_iff.1 h
  obtain ⟨⟨places, c₂⟩, hplaces, h⟩ := bind_eq_ok_iff.1 h
  obtain ⟨⟨exponent, c₃⟩, hexponent, h⟩ := bind_eq_ok_iff.1 h
  cases h
  refine (length_readExponent_le hexponent).trans ((length_readPlaces_le hplaces).trans
    ((length_readWhole_le hwhole).trans ?_))
  split
  · next b rest hrest =>
    split
    · rw [hrest]
      exact Nat.le_succ _
    · exact Nat.le_refl _
  · exact Nat.le_refl _

/-! ### Texts in a node -/

mutual

/-- All texts in a node, those of keys left aside, take less than `n` bytes. -/
def Node.Within (n : Nat) : Node → Prop
  | .text (.ok s) _ _ => (Bytes.ofString s).length < n
  | .text (.error _) _ _ => True
  | .array _ items => items.Within n
  | .object _ entries => entries.Within n
  | .null _ _ => True
  | .bool _ _ _ => True
  | .number _ _ _ => True
  | .stump _ _ => True
  | .broken _ => True

/-- `Node.Within` for each of some items. -/
def Items.Within (n : Nat) : Items → Prop
  | .item v _ rest => v.Within n ∧ rest.Within n
  | .close _ => True
  | .broken _ => True

/-- `Node.Within` for the value of each member. -/
def Entries.Within (n : Nat) : Entries → Prop
  | .entry _ _ _ v _ rest => v.Within n ∧ rest.Within n
  | .close _ => True
  | .keyless _ _ => True
  | .broken _ => True

end

/-- What was read has a property, and no more than `n` bytes are left behind it. -/
def Read.Leaves {α : Type} (n : Nat) (P : α → Prop) (r : Read α) : Prop :=
  P r.1 ∧ ∀ after ∈ r.2, after.rest.length ≤ n

variable {fuel n : Nat}

section Leaves

variable {α : Type} {P : α → Prop} {a : α}

theorem leaves_broken (h : P a) : Read.Leaves n P (a, none) := ⟨h, by simp⟩

theorem leaves_whole (h : P a) {after : Cursor} (hafter : after.rest.length ≤ n) :
    Read.Leaves n P (a, some after) := ⟨h, by simpa using hafter⟩

end Leaves

theorem readNumber_within {c after : Cursor} {node : Node} (h : readNumber c = .ok (node, after)) :
    node.Within n := by
  obtain ⟨⟨whole, c₁⟩, -, h⟩ := bind_eq_ok_iff.1 h
  obtain ⟨⟨places, c₂⟩, -, h⟩ := bind_eq_ok_iff.1 h
  obtain ⟨⟨exponent, c₃⟩, -, h⟩ := bind_eq_ok_iff.1 h
  cases h
  trivial

theorem word_leaves {c : Cursor} (hc : c.rest.length ≤ n) (node : Cursor → Node)
    (hnode : ∀ after, (node after).Within n) (expected : Bytes) (start : Place) :
    Read.Leaves n (Node.Within n) (match word expected c with
      | .ok after => (node after, some after)
      | .error f => (.stump start (.both f), none)) := by
  split
  · next after hword =>
    exact leaves_whole (hnode after) ((length_word_le hword).trans hc)
  · exact leaves_broken trivial

theorem readValue_leaves
    (hitems : ∀ first c, c.rest.length ≤ n →
      (readItems fuel first c).Leaves n (Items.Within n))
    (hentries : ∀ first c, c.rest.length ≤ n →
      (readEntries fuel first c).Leaves n (Entries.Within n))
    {c : Cursor} (hc : c.rest.length ≤ n) :
    (readValue (fuel + 1) c).Leaves n (Node.Within n) := by
  have hskip : c.skip.rest.length ≤ n := (length_skip_le c).trans hc
  rw [readValue]
  dsimp only
  split
  · exact leaves_broken trivial
  · next b rest hrest =>
    have hinner : rest.length < n := by
      rw [hrest] at hskip
      exact hskip
    split_ifs
    · exact hitems true _ hinner.le
    · exact hentries true _ hinner.le
    · split
      · next s after htext =>
        obtain ⟨hafter, hs⟩ := length_readText htext
        refine leaves_whole ?_ (hafter.le.trans hinner.le)
        cases s with
        | ok s =>
          have hs := hs s rfl
          show (Bytes.ofString s).length < n
          simp only [List.length_nil] at hs
          omega
        | error f => trivial
      · exact leaves_broken trivial
    · exact word_leaves hinner.le (fun after => .null c.skip.place after.place)
        (fun _ => trivial) _ _
    · exact word_leaves hinner.le (fun after => .bool true c.skip.place after.place)
        (fun _ => trivial) _ _
    · exact word_leaves hinner.le (fun after => .bool false c.skip.place after.place)
        (fun _ => trivial) _ _
    · split
      · next node after hnumber =>
        exact leaves_whole (readNumber_within hnumber)
          ((length_readNumber_le hnumber).trans hskip)
      · exact leaves_broken trivial
    · exact leaves_broken trivial

/-- Where a part begins, behind a comma if it is not the first. -/
theorem length_start_le {c : Cursor} (hc : c.rest.length ≤ n) {rest : Bytes}
    (hrest : rest.length ≤ n) (p : Place) (first : Bool) :
    (if first = true then c else ⟨rest, p⟩).skip.rest.length ≤ n := by
  refine (length_skip_le _).trans ?_
  split
  · exact hc
  · exact hrest

theorem readItems_leaves
    (hvalue : ∀ c, c.rest.length ≤ n → (readValue fuel c).Leaves n (Node.Within n))
    (hitems : ∀ first c, c.rest.length ≤ n →
      (readItems fuel first c).Leaves n (Items.Within n))
    {first : Bool} {c : Cursor} (hc : c.rest.length ≤ n) :
    (readItems (fuel + 1) first c).Leaves n (Items.Within n) := by
  have hskip : c.skip.rest.length ≤ n := (length_skip_le c).trans hc
  rw [readItems]
  dsimp only
  split
  · exact leaves_broken trivial
  · next b rest hrest =>
    have hinner : rest.length ≤ n := by
      rw [hrest] at hskip
      exact Nat.le_of_succ_le hskip
    have hstart := length_start_le hskip hinner (Cursor.step c.skip.place b) first
    generalize (if first = true then c.skip else _).skip = start at hstart
    split_ifs
    · exact leaves_whole trivial hinner
    · exact leaves_broken trivial
    · obtain ⟨hnode, hafter⟩ := hvalue start hstart
      split
      · next v hread =>
        rw [hread] at hnode
        exact leaves_broken ⟨hnode, trivial⟩
      · next v after hread =>
        rw [hread] at hnode hafter
        obtain ⟨hmore, hlast⟩ := hitems false after.skip
          ((length_skip_le after).trans (hafter after rfl))
        exact ⟨⟨hnode, hmore⟩, hlast⟩
    · exact leaves_broken trivial

theorem readEntries_leaves
    (hvalue : ∀ c, c.rest.length ≤ n → (readValue fuel c).Leaves n (Node.Within n))
    (hentries : ∀ first c, c.rest.length ≤ n →
      (readEntries fuel first c).Leaves n (Entries.Within n))
    {first : Bool} {c : Cursor} (hc : c.rest.length ≤ n) :
    (readEntries (fuel + 1) first c).Leaves n (Entries.Within n) := by
  have hskip : c.skip.rest.length ≤ n := (length_skip_le c).trans hc
  rw [readEntries]
  dsimp only
  split
  · exact leaves_broken trivial
  · next b rest hrest =>
    have hinner : rest.length ≤ n := by
      rw [hrest] at hskip
      exact Nat.le_of_succ_le hskip
    have hstart := length_start_le hskip hinner (Cursor.step c.skip.place b) first
    generalize (if first = true then c.skip else _).skip = start at hstart
    split_ifs
    · exact leaves_whole trivial hinner
    · split
      · exact leaves_broken trivial
      · exact leaves_broken trivial
      · next rest' hrest' =>
        split
        · exact leaves_broken trivial
        · next key behind hkey =>
          have hbehind : behind.skip.rest.length ≤ n := by
            have hless := (length_readText hkey).1
            rw [hrest', List.length_cons] at hstart
            exact (length_skip_le behind).trans (by omega)
          split
          · exact leaves_broken ⟨trivial, trivial⟩
          · next colon rest'' hcolon =>
            rw [hcolon, List.length_cons] at hbehind
            split_ifs
            · obtain ⟨hnode, hafter⟩ := hvalue ⟨rest'', Cursor.step behind.skip.place colon⟩
                (Nat.le_of_succ_le hbehind)
              split
              · next v hread =>
                rw [hread] at hnode
                exact leaves_broken ⟨hnode, trivial⟩
              · next v done hread =>
                rw [hread] at hnode hafter
                obtain ⟨hmore, hlast⟩ := hentries false done.skip
                  ((length_skip_le done).trans (hafter done rfl))
                exact ⟨⟨hnode, hmore⟩, hlast⟩
            · exact leaves_broken ⟨trivial, trivial⟩
      · exact leaves_broken trivial
    · exact leaves_broken trivial

/-- However far a reader comes, the texts that it has met are shorter than what it reads. -/
theorem read_leaves (fuel n : Nat) :
    (∀ c, c.rest.length ≤ n → (readValue fuel c).Leaves n (Node.Within n)) ∧
    (∀ first c, c.rest.length ≤ n → (readItems fuel first c).Leaves n (Items.Within n)) ∧
    ∀ first c, c.rest.length ≤ n → (readEntries fuel first c).Leaves n (Entries.Within n) := by
  induction fuel with
  | zero =>
    simp only [readValue, readItems, readEntries]
    exact ⟨fun _ _ => leaves_broken trivial, fun _ _ _ => leaves_broken trivial,
      fun _ _ _ => leaves_broken trivial⟩
  | succ fuel ih =>
    obtain ⟨hvalue, hitems, hentries⟩ := ih
    exact ⟨fun _ => readValue_leaves hitems hentries, fun _ _ => readItems_leaves hvalue hitems,
      fun _ _ => readEntries_leaves hvalue hentries⟩

theorem read_within (bs : Bytes) : (read bs).node.Within bs.length := by
  have h := ((read_leaves (2 * bs.length + 3) bs.length).1 (.ofBytes bs) (Nat.le_refl _)).1
  unfold read
  split
  · next heq => rwa [heq] at h
  · next heq => rwa [heq] at h

/-! ### Readers of kept texts -/

section Congruence

variable {inner inner' : String → Except DecodeError Value} {m : Mode}

theorem keptValue_congr (h : ∀ s, (Bytes.ofString s).length < n → inner s = inner' s) {v : Node}
    (hv : v.Within n) (next : Place) (rest : Entries) :
    keptValue inner m v next rest = keptValue inner' m v next rest := by
  cases v with
  | text s start stop =>
    cases s with
    | ok s =>
      simp only [keptValue, parsedText, ofFault, Except.mapError, ok_bind, h s hv]
    | error f => rfl
  | number k start stop => cases k <;> rfl
  | _ => rfl

theorem Entries.within_of_kept? {entries rest : Entries} {v : Node} {next : Place}
    (hentries : entries.Within n) (hkept : entries.kept? = some (v, next, rest)) : v.Within n := by
  unfold Entries.kept? at hkept
  split at hkept
  · split at hkept
    · cases hkept
      exact hentries.1
    · cases hkept
  · cases hkept

mutual

/-- Readers of kept texts that agree on short ones make the same of a node with short texts. -/
theorem Node.untyped_congr (h : ∀ s, (Bytes.ofString s).length < n → inner s = inner' s) :
    (node : Node) → {m : Mode} → node.Within n → node.untyped inner m = node.untyped inner' m
  | .array start items, m, hnode => by
    simp only [Node.untyped, items.untyped_congr h hnode]
  | .object start entries, m, hnode => by
    simp only [Node.untyped, entries.untyped_congr h hnode]
    refine congrArg (m.enter start >>= ·) (funext fun within => ?_)
    split
    · next v next rest hkept => exact keptValue_congr h (entries.within_of_kept? hnode hkept) _ _
    · rfl
  | .null _ _, _, _ => rfl
  | .bool _ _ _, _, _ => rfl
  | .number _ _ _, _, _ => rfl
  | .text _ _ _, _, _ => rfl
  | .stump _ _, _, _ => rfl
  | .broken _, _, _ => rfl

theorem Items.untyped_congr (h : ∀ s, (Bytes.ofString s).length < n → inner s = inner' s) :
    (items : Items) → {m : Mode} → items.Within n → items.untyped inner m = items.untyped inner' m
  | .item v next rest, m, ⟨hv, hrest⟩ => by
    simp only [Items.untyped, v.untyped_congr h hv, rest.untyped_congr h hrest]
  | .close _, _, _ => rfl
  | .broken _, _, _ => rfl

theorem Entries.untyped_congr (h : ∀ s, (Bytes.ofString s).length < n → inner s = inner' s) :
    (entries : Entries) → {m : Mode} → entries.Within n →
    entries.untyped inner m = entries.untyped inner' m
  | .entry key keyStop keyNext v next rest, m, ⟨hv, hrest⟩ => by
    simp only [Entries.untyped, v.untyped_congr h hv, rest.untyped_congr h hrest]
  | .close _, _, _ => rfl
  | .keyless _ _, _, _ => rfl
  | .broken _, _, _ => rfl

end

theorem decode_untyped_congr {bs : Bytes}
    (h : ∀ s, (Bytes.ofString s).length < bs.length → inner s = inner' s) :
    decode (untyped inner) bs = decode (untyped inner') bs := by
  simp only [decode, untyped, Node.untyped_congr h _ (read_within bs)]

end Congruence

/-- Fuel for the length of a text is enough. -/
theorem keptWithin_eq {s : String} (h : (Bytes.ofString s).length < fuel) :
    keptWithin fuel s = kept s := by
  induction fuel using Nat.strongRecOn generalizing s with
  | ind fuel ih =>
    cases fuel with
    | zero => exact absurd h (Nat.not_lt_zero _)
    | succ fuel =>
      refine decode_untyped_congr fun t ht => ?_
      have hless := Nat.lt_of_lt_of_le ht (Nat.le_of_lt_succ h)
      exact (ih fuel (Nat.lt_succ_self fuel) hless).trans (ih _ h ht).symm

/-- **A kept text is read like any other.** -/
theorem kept_eq (s : String) : kept s = decode anything (Bytes.ofString s) :=
  decode_untyped_congr fun _ ht => keptWithin_eq ht

/-- An object whose only key marks a kept text is read as what the text says. -/
theorem reads_kept {levels : Nat} {s : String} {v : Value}
    (h : decode anything (Bytes.ofString s) = .ok v) :
    Reads (levels + 1) anything (.object [(keptKey, .text s)]) v := by
  have hordered : v.canonical = v := by
    obtain ⟨w, hw, hdone⟩ := bind_eq_ok_iff.1 h
    obtain ⟨read, -, rfl⟩ := map_eq_ok_iff.1 hw
    split at hdone
    · cases hdone
    · cases hdone
      exact (Value.canonical_ordered read).canonical_eq
  intro m node hm hs
  cases hs with
  | object start hentries =>
    cases hentries with
    | entry key keyStop keyNext hnode next hrest =>
      cases hnode
      cases hrest
      obtain ⟨within, henter, -⟩ := enter_of_lt hm start
      simp only [anything, untyped, Node.untyped, henter, ok_bind, kept?_entry, if_true, keptValue,
        parsedText, ofFault, Except.mapError, (kept_eq s).trans h, Entries.checkClosed]
      exact congrArg Except.ok hordered

end Rendezvous.Json
