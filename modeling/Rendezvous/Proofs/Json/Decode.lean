import Rendezvous.Json.Decode
import Rendezvous.Proofs.Json.Order

/-!
# Rendezvous.Proofs.Json.Decode

What decoders make of nodes that spell a value. A decoder *reads* a value as something if it
answers that for every node that spells the value, wherever it stands, so long as enough
containers may still open.

* `Json.Reads`: the property, with one lemma for each decoder;
* `Json.Fields.Reads`: the same of the fields of a record, in whatever order its members stand,
  put together from those of its parts;
* `Json.reads_record`, `Json.reads_tagged`: records, and those whose kind a member tells;
* `Json.decode_render`, `Json.decodeValue_of_reads`: a whole text, and a value that is apart.
-/

namespace Rendezvous.Json

/-- A decoder makes the same of every node that spells a value, if `levels` containers may
still open. -/
def Reads {α : Type} (levels : Nat) (d : Decoder α) (v : Value) (a : α) : Prop :=
  ∀ (m : Mode) (node : Node), levels < m.depth → node.Spells v → d m node = .ok a

variable {α β : Type} {levels : Nat}

theorem Reads.mono {more : Nat} {d : Decoder α} {v : Value} {a : α} (h : Reads levels d v a)
    (hle : levels ≤ more) : Reads more d v a :=
  fun m node hm hs => h m node (Nat.lt_of_le_of_lt hle hm) hs

/-! ### Texts and numbers -/

theorem reads_parsedText {expected : String} {parse : String → Except String α} {s : String}
    {a : α} (h : parse s = .ok a) : Reads levels (parsedText expected parse) (.text s) a := by
  intro m node _ hs
  cases hs
  simp only [parsedText, ofFault, Except.mapError, h, bind, Except.bind]

theorem reads_text (levels : Nat) (s : String) : Reads levels text (.text s) s :=
  reads_parsedText rfl

theorem reads_textThen {parse : String → Except String α} {s : String} {a : α}
    (h : parse s = .ok a) : Reads levels (textThen parse) (.text s) a := by
  intro m node hm hs
  simp only [textThen, reads_text levels s m node hm hs, h, bind, Except.bind]

theorem reads_natBelow {bound : Nat} (name : String) {n : Nat} (h : n < bound) :
    Reads levels (natBelow bound name) (.nat n) n := by
  intro m node _ hs
  cases hs
  simp only [natBelow, ofFault, Except.mapError, if_pos h, bind, Except.bind]

theorem reads_word64 (levels : Nat) {n : Nat} (h : n < 2 ^ 64) : Reads levels word64 (.nat n) n :=
  reads_natBelow "u64" h

/-! ### Choices -/

theorem reads_option_none {d : Decoder α} : Reads levels (option d) .null none := by
  intro m node _ hs
  cases hs
  rfl

theorem reads_option_some {d : Decoder α} {v : Value} {a : α} (hv : v ≠ .null)
    (h : Reads levels d v a) : Reads levels (option d) v (some a) := by
  intro m node hm hs
  have hd := h m node hm hs
  cases hs with
  | null => exact (hv rfl).elim
  | _ => simp only [option, hd, Except.map]

theorem reads_optionNat {bound : Nat} (name : String) {o : Option Nat} (h : ∀ n ∈ o, n < bound) :
    Reads levels (option (natBelow bound name)) (.optionNat o) o := by
  cases o with
  | none => exact reads_option_none
  | some n => exact reads_option_some nofun (reads_natBelow name (h n rfl))

theorem reads_choice {alternatives : List (String × α)} {name : String} {a : α}
    (h : alternatives.find? (·.1 == name) = some (name, a)) :
    Reads levels (choice alternatives) (.text name) a := by
  intro m node _ hs
  cases hs
  simp only [choice, ofFault, Except.mapError, h, bind, Except.bind]

/-! ### Containers -/

/-- A container may open where levels are left, and leaves one less to what is in it. -/
theorem enter_of_lt {m : Mode} (h : levels + 1 < m.depth) (start : Place) :
    ∃ inner, m.enter start = .ok inner ∧ levels < inner.depth := by
  obtain ⟨placed, depth⟩ := m
  change levels + 1 < depth at h
  cases placed with
  | false => exact ⟨⟨false, depth⟩, rfl, Nat.lt_of_succ_lt h⟩
  | true =>
      have hdepth : ¬ depth ≤ 1 := by omega
      refine ⟨⟨true, depth - 1⟩, ?_, Nat.lt_sub_of_add_lt h⟩
      simp only [Mode.enter, Bool.not_true, Bool.false_eq_true, if_false, if_neg hdepth]

theorem within_ok (m : Mode) (p : Place) (a : α) :
    m.within p (.ok a) = .ok a := by
  unfold Mode.within
  split <;> rfl

theorem reads_list {d : Decoder α} {toJson : α → Value} {as : List α}
    (h : ∀ a ∈ as, Reads levels d (toJson a) a) :
    Reads (levels + 1) (list d) (.array (as.map toJson)) as := by
  intro m node hm hs
  cases hs with
  | @array start items _ hitems =>
      obtain ⟨inner, henter, hinner⟩ := enter_of_lt hm start
      simp only [list, henter, bind, Except.bind]
      -- The items are told one by one from the values that they spell.
      induction as generalizing items with
      | nil =>
          cases hitems
          rfl
      | cons a as ih =>
          cases hitems with
          | @item node _ hnode next rest _ hrest =>
              rw [listItems, h a List.mem_cons_self inner node hinner hnode, within_ok]
              simp only [bind, Except.bind,
                ih (fun b hb => h b (List.mem_cons_of_mem a hb)) hrest]
              rfl

/-! ### Records -/

/-- Some members, one after the other, lead from one state of the fields to another. -/
inductive Fields.Path (levels : Nat) (f : Fields α) :
    f.State → List (String × Value) → f.State → Prop
  | nil (s : f.State) : Path levels f s [] s
  | cons {s t u : f.State} {key : String} {v : Value} {members : List (String × Value)}
    (hname : f.names.contains key = true) (hnew : f.has s key = false)
    (hput : ∀ m node, levels < m.depth → node.Spells v → f.put s key m node = .ok t)
    (hrest : Path levels f t members u) : Path levels f s ((key, v) :: members) u

/-- Some members make a record, in whatever order they stand. -/
def Fields.Reads (levels : Nat) (f : Fields α) (members : List (String × Value))
    (a : α) : Prop :=
  ∀ members', members'.Perm members →
    ∃ s, f.Path levels f.start members' s ∧ f.finish s = .ok a

namespace Fields

theorem Reads.perm {f : Fields α} {members members' : List (String × Value)} {a : α}
    (h : f.Reads levels members a) (hperm : members'.Perm members) : f.Reads levels members' a :=
  fun _ hother => h _ (hother.trans hperm)

theorem Path.names {f : Fields α} {members : List (String × Value)} {s s' : f.State}
    (h : f.Path levels s members s') : ∀ p ∈ members, f.names.contains p.1 = true := by
  induction h with
  | nil _ => simp
  | cons hname _ _ _ ih => exact List.forall_mem_cons.2 ⟨hname, ih⟩

theorem Reads.names {f : Fields α} {members : List (String × Value)} {a : α}
    (h : f.Reads levels members a) : ∀ p ∈ members, f.names.contains p.1 = true := by
  obtain ⟨s, hpath, -⟩ := h members (.refl _)
  exact hpath.names

theorem reads_pure (a : α) : (pure a).Reads levels [] a := by
  intro members hperm
  obtain rfl := List.perm_nil.1 hperm
  exact ⟨(), .nil _, rfl⟩

theorem reads_field {name : String} {d : Decoder α} {default? : Option α} {v : Value} {a : α}
    (h : Json.Reads levels d v a) : (field name d default?).Reads levels [(name, v)] a := by
  intro members hperm
  obtain rfl := List.perm_singleton.1 hperm
  refine ⟨some a, .cons (t := some a) (by simp [field]) rfl (fun m node hm hs => ?_)
    (.nil _), rfl⟩
  simp only [field, h m node hm hs, Except.map]

theorem reads_required (name : String) {d : Decoder α} {v : Value} {a : α}
    (h : Json.Reads levels d v a) : (required name d).Reads levels [(name, v)] a :=
  reads_field h

theorem reads_optional (name : String) (default : α) {d : Decoder α} {v : Value} {a : α}
    (h : Json.Reads levels d v a) :
    (optional name d default).Reads levels [(name, v)] a :=
  reads_field h

theorem path_map (g : α → β) {f : Fields α} {members : List (String × Value)}
    {s s' : f.State} (h : f.Path levels s members s') :
    (f.map g).Path levels s members s' := by
  induction h with
  | nil _ => exact .nil _
  | cons hname hnew hput _ ih => exact .cons hname hnew hput ih

theorem reads_map {f : Fields α} {members : List (String × Value)} {a : α} (g : α → β)
    (h : f.Reads levels members a) : (f.map g).Reads levels members (g a) := by
  intro members' hperm
  obtain ⟨s, hpath, hfinish⟩ := h members' hperm
  refine ⟨s, path_map g hpath, ?_⟩
  show (f.finish s).map g = _
  rw [hfinish]
  rfl

section Both

variable {γ : Type} {combine : α → β → γ} {f : Fields α} {g : Fields β} {m : Mode}
  {node : Node} {key : String}

theorem both_put_left {s s' : f.State} (hname : f.names.contains key = true)
    (hput : f.put s key m node = .ok s') (t : g.State) :
    (both combine f g).put (s, t) key m node = .ok (s', t) := by
  show (if f.names.contains key then (f.put s key m node).map fun a => (a, t)
    else (g.put t key m node).map fun b => (s, b)) =
      (.ok (s', t) : Except DecodeError (f.State × g.State))
  rw [if_pos hname, hput]
  rfl

theorem both_put_right {t t' : g.State} (hname : f.names.contains key = false)
    (hput : g.put t key m node = .ok t') (s : f.State) :
    (both combine f g).put (s, t) key m node = .ok (s, t') := by
  show (if f.names.contains key then (f.put s key m node).map fun a => (a, t)
    else (g.put t key m node).map fun b => (s, b)) =
      (.ok (s, t') : Except DecodeError (f.State × g.State))
  rw [hname, hput]
  rfl

/-- The members of both parts may be mixed: each is put where its name belongs, and does not
touch the other part. -/
theorem path_both {members : List (String × Value)} {s s' : f.State} {t t' : g.State}
    (hf : f.Path levels s (members.filter fun p => f.names.contains p.1) s')
    (hg : g.Path levels t (members.filter fun p => !f.names.contains p.1) t') :
    (both combine f g).Path levels (s, t) members (s', t') := by
  induction members generalizing s t with
  | nil =>
      cases hf
      cases hg
      exact .nil _
  | cons p rest ih =>
      cases hname : f.names.contains p.1 with
      | true =>
          simp only [List.filter_cons, hname, if_true, Bool.not_true, Bool.false_eq_true,
            if_false] at hf hg
          cases hf with
          | cons _ hnew hput hrest =>
              refine .cons ?_ ?_ (fun m node hm hs => both_put_left hname (hput m node hm hs) t)
                (ih hrest hg)
              · show (f.names ++ g.names).contains _ = true
                rw [List.contains_append, hname, Bool.true_or]
              · show (if f.names.contains _ then f.has _ _ else g.has t _) = false
                rw [if_pos hname, hnew]
      | false =>
          simp only [List.filter_cons, hname, if_true, Bool.not_false, Bool.false_eq_true,
            if_false] at hf hg
          cases hg with
          | cons hname' hnew hput hrest =>
              refine .cons ?_ ?_ (fun m node hm hs => both_put_right hname (hput m node hm hs) s)
                (ih hf hrest)
              · show (f.names ++ g.names).contains _ = true
                rw [List.contains_append, hname', Bool.or_true]
              · show (if f.names.contains _ then f.has s _ else g.has _ _) = false
                rw [hname, if_neg Bool.false_ne_true, hnew]

end Both

theorem reads_seq {f : Fields (α → β)} {g : Fields α} {members members' : List (String × Value)}
    {h : α → β} {a : α} (hf : f.Reads levels members h) (hg : g.Reads levels members' a)
    (hnames : ∀ k ∈ g.names, k ∉ f.names) :
    (seq f g).Reads levels (members ++ members') (h a) := by
  intro mixed hperm
  have hother : ∀ p ∈ members', f.names.contains p.1 = false := fun p hp =>
    Bool.eq_false_iff.2 (mt List.contains_iff_mem.1
      (hnames _ (List.contains_iff_mem.1 (hg.names p hp))))
  have hfirst : ((members ++ members').filter fun p => f.names.contains p.1) = members := by
    have hnone : (members'.filter fun p => f.names.contains p.1) = [] :=
      List.filter_eq_nil_iff.2 fun p hp => Bool.eq_false_iff.1 (hother p hp)
    rw [List.filter_append, List.filter_eq_self.2 hf.names, hnone, List.append_nil]
  have hsecond : ((members ++ members').filter fun p => !f.names.contains p.1) = members' := by
    have hnone : (members.filter fun p => !f.names.contains p.1) = [] :=
      List.filter_eq_nil_iff.2 fun p hp => by rw [hf.names p hp]; decide
    have hall : (members'.filter fun p => !f.names.contains p.1) = members' :=
      List.filter_eq_self.2 fun p hp => by rw [hother p hp]; rfl
    rw [List.filter_append, hnone, hall, List.nil_append]
  obtain ⟨s, hs, hfinish⟩ := hf _ (hfirst ▸ hperm.filter _)
  obtain ⟨t, ht, hfinish'⟩ := hg _ (hsecond ▸ hperm.filter _)
  refine ⟨(s, t), path_both hs ht, ?_⟩
  show (do let h ← f.finish s; let a ← g.finish t; return h a) = _
  rw [hfinish, hfinish']
  rfl

end Fields

/-- Members that lead from one state of the fields to another are read in that way. -/
theorem recordEntries_of_path {f : Fields α} {m : Mode} (hm : levels < m.depth)
    {members : List (String × Value)} {s s' : f.State} (h : f.Path levels s members s') {a : α} (hfinish : f.finish s' = .ok a)
    {entries : Entries} (hentries : entries.Spells members) :
    recordEntries f m s entries = .ok a := by
  induction h generalizing entries with
  | nil s =>
      cases hentries
      rw [recordEntries, hfinish]
  | cons hname hnew hput _ ih =>
      cases hentries with
      | entry key keyStop keyNext hnode next hrest =>
          rw [recordEntries]
          simp only [ofFault, Except.mapError, hname, if_true, hnew, Bool.false_eq_true,
            if_false, hput m _ hm hnode, within_ok, bind, Except.bind]
          exact ih hfinish hrest

theorem reads_record (expected : String) {f : Fields α} {members : List (String × Value)}
    {a : α} (h : f.Reads levels members a) :
    Reads (levels + 1) (record expected f) (.object members) a := by
  intro m node hm hs
  obtain ⟨s, hpath, hfinish⟩ := h members (.refl _)
  cases hs with
  | @object start entries _ hentries =>
      obtain ⟨inner, henter, hinner⟩ := enter_of_lt hm start
      simp only [record, henter, bind, Except.bind]
      exact recordEntries_of_path hinner hpath hfinish hentries

/-! ### Tagged records -/

section Tagged

variable {tagName tag : String} {variants : List (Variant α)} {found : Variant α} {m : Mode}
  {members : List (String × Value)} {entries : Entries}

/-- Members beside the tag can be set aside. -/
def Asides (levels : Nat) (tagName : String) (members : List (String × Value)) : Prop :=
  ∀ p ∈ members, p.1 ≠ tagName ∧ p.2.nesting ≤ levels

theorem setAside_ok {node : Node} {v : Value} (hs : node.Spells v) (h : v.nesting < m.depth) :
    setAside m node = .ok () := by
  unfold setAside
  split
  · simp only [Node.value_of_spells v hs h, ofFault, Except.mapError, Except.map]
  · rfl

/-- A member beside the tag is set aside, in front of what the others leave. -/
theorem splitTag_aside {sought : Option (Variant α)} {p : String × Value}
    {rest left : List (String × Value)} (hm : levels < m.depth) (hkey : p.1 ≠ tagName)
    (hdeep : p.2.nesting ≤ levels)
    (hsplit : ∀ {entries : Entries}, entries.Spells rest →
      ∃ others, splitTag tagName variants m sought entries = .ok (found, others) ∧
        others.Spells left)
    (hs : entries.Spells (p :: rest)) :
    ∃ others, splitTag tagName variants m sought entries = .ok (found, others) ∧
      others.Spells (p :: left) := by
  cases hs with
  | entry key keyStop keyNext hnode next hentries =>
      obtain ⟨others, hothers, hspells⟩ := hsplit hentries
      refine ⟨.entry (.ok key) keyStop keyNext _ next others, ?_,
        .entry key keyStop keyNext hnode next hspells⟩
      simp only [splitTag, ofFault, Except.mapError, bind, Except.bind, if_neg hkey,
        setAside_ok hnode (Nat.lt_of_le_of_lt hdeep hm), hothers]
      rfl

/-- Behind the tag all members are set aside. -/
theorem splitTag_found (hm : levels < m.depth) (hmembers : Asides levels tagName members)
    (hs : entries.Spells members) :
    ∃ others, splitTag tagName variants m (some found) entries = .ok (found, others) ∧
      others.Spells members := by
  induction members generalizing entries with
  | nil =>
      cases hs with
      | close stop => exact ⟨.close stop, rfl, .close stop⟩
  | cons p rest ih =>
      obtain ⟨⟨hkey, hdeep⟩, hrest⟩ := List.forall_mem_cons.1 hmembers
      exact splitTag_aside hm hkey hdeep (ih hrest) hs

/-- The tag is found among the members, wherever it stands, and the others stay in order. -/
theorem splitTag_tag (hfind : variants.find? (·.tag == tag) = some found) (hm : levels < m.depth)
    {before after : List (String × Value)} (hmembers : Asides levels tagName (before ++ after))
    (hs : entries.Spells (before ++ (tagName, .text tag) :: after)) :
    ∃ others, splitTag tagName variants m none entries = .ok (found, others) ∧
      others.Spells (before ++ after) := by
  induction before generalizing entries with
  | nil =>
      cases hs with
      | entry key keyStop keyNext hnode next hentries =>
          obtain ⟨others, hsplit, hspells⟩ := splitTag_found hm hmembers hentries
          refine ⟨others, ?_, hspells⟩
          cases hnode
          simp only [splitTag, ofFault, Except.mapError, bind, Except.bind, if_true, tagValue,
            hfind, within_ok, Option.isSome_none, Bool.false_eq_true, if_false]
          exact hsplit
  | cons p before ih =>
      obtain ⟨⟨hkey, hdeep⟩, hrest⟩ := List.forall_mem_cons.1 hmembers
      exact splitTag_aside hm hkey hdeep (ih hrest) hs

/-- A record is read as what its tag says it is, wherever the tag stands. -/
theorem reads_tagged (name : String) {expected : String} {f : Fields α}
    {others : List (String × Value)} {a : α}
    (hfind : variants.find? (·.tag == tag) = some (variant tag expected f))
    (hothers : Asides levels tagName others) (hf : f.Reads levels others a)
    (hlevels : levels < maxDepth) (hperm : members.Perm ((tagName, .text tag) :: others)) :
    Reads (levels + 1) (tagged name tagName variants) (.object members) a := by
  intro m node hm hs
  -- The tag stands somewhere, and what stands around it are the other members, mixed.
  obtain ⟨before, after, rfl⟩ :=
    List.append_of_mem (hperm.mem_iff.2 (List.mem_cons_self (a := (tagName, Value.text tag))))
  have hmixed : (before ++ after).Perm others :=
    (List.perm_middle.symm.trans hperm).cons_inv
  cases hs with
  | @object start entries _ hentries =>
      obtain ⟨inner, henter, hinner⟩ := enter_of_lt hm start
      obtain ⟨left, hsplit, hleft⟩ :=
        splitTag_tag hfind hinner (fun p hp => hothers p (hmixed.mem_iff.1 hp)) hentries
      obtain ⟨s, hpath, hfinish⟩ := hf _ hmixed
      simp only [tagged, henter, hsplit, bind, Except.bind]
      exact recordEntries_of_path hlevels hpath hfinish hleft

end Tagged

/-! ### Whole texts -/

/-- **A text is decoded to what its value is read as.** -/
theorem decode_render {d : Decoder α} {v : Value} {a : α} (hv : v.Plain)
    (h : Reads levels d v a) (hlevels : levels < maxDepth) :
    decode d (Bytes.ofString v.render) = .ok a := by
  obtain ⟨node, hread, hspells⟩ := read_render hv
  simp only [decode, hread, h .text node hlevels hspells, bind, Except.bind]
  rfl

mutual

theorem Node.ofValue_spells : (v : Value) → (Node.ofValue v).Spells v
  | .null => .null _ _
  | .bool _ => .bool _ _ _
  | .number _ => .number _ _ _
  | .text _ => .text _ _ _
  | .array items => .array _ (Items.ofValues_spells items)
  | .object members => .object _ (Entries.ofMembers_spells members)

theorem Items.ofValues_spells : (vs : List Value) → (Items.ofValues vs).Spells vs
  | [] => .close _
  | v :: rest => .item (Node.ofValue_spells v) _ (Items.ofValues_spells rest)

theorem Entries.ofMembers_spells :
    (members : List (String × Value)) → (Entries.ofMembers members).Spells members
  | [] => .close _
  | (k, v) :: rest => .entry k _ _ (Node.ofValue_spells v) _ (Entries.ofMembers_spells rest)

end

theorem decodeValue_of_reads {d : Decoder α} {v : Value} {a : α} (h : Reads levels d v a)
    (hlevels : levels < maxDepth) : decodeValue d v = .ok a :=
  h .aside _ hlevels (Node.ofValue_spells v)

end Rendezvous.Json
