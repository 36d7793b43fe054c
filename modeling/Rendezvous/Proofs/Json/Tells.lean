import Rendezvous.Proofs.Data.Outcome
import Rendezvous.Proofs.Json.Decode

/-!
# Rendezvous.Proofs.Json.Tells

What a record tells of its members once it was read, even if nothing is known of what a reader
makes of some of them. It is the converse of `Json.Fields.Reads`: the members are known, and so is
that they were read.

* `Json.Fields.Run`: the states that members have led through;
* `Json.Fields.Tells`: what is known of a record made of some members, put together from what is
  known of its parts;
* `Json.of_decode_render`, `Json.of_decode_render_tagged`: a whole text.
-/

namespace Rendezvous.Json

variable {α β : Type} {levels : Nat}

namespace Fields

/-- Nodes that spell some members, one after the other, have led from one state of the fields to
another. -/
def Run (f : Fields α) (m : Mode) : f.State → List (String × Value) → f.State → Prop
  | s, [], s' => s' = s
  | s, (key, v) :: members, s' => f.names.contains key = true ∧
    ∃ node t, node.Spells v ∧ f.put s key m node = .ok t ∧ f.Run m t members s'

/-- Members that were read have led to a state in which the record is complete. -/
theorem run_of_recordEntries {f : Fields α} {m : Mode} {s : f.State}
    {members : List (String × Value)} (hnames : ∀ p ∈ members, f.names.contains p.1 = true)
    {entries : Entries} (hs : entries.Spells members) {a : α}
    (h : recordEntries f m s entries = .ok a) :
    ∃ s', f.Run m s members s' ∧ f.finish s' = .ok a := by
  induction members generalizing s entries with
  | nil =>
      cases hs
      rw [recordEntries] at h
      refine ⟨s, rfl, ?_⟩
      cases hfinish : f.finish s with
      | ok b =>
          rw [hfinish] at h
          cases h
          rfl
      | error name =>
          rw [hfinish] at h
          cases h
  | cons p members ih =>
      obtain ⟨hname, hrest⟩ := List.forall_mem_cons.1 hnames
      cases hs with
      | @entry key _ _ node _ hnode next rest _ hentries =>
          rw [recordEntries] at h
          simp only [ofFault, Except.mapError, ok_bind, hname, if_true] at h
          cases hnew : f.has s key with
          | true =>
              rw [hnew] at h
              cases h
          | false =>
              rw [hnew] at h
              cases hput : f.put s key m node with
              | ok t =>
                  rw [hput, within_ok] at h
                  obtain ⟨s', hrun, hfinish⟩ := ih hrest hentries h
                  exact ⟨s', ⟨hname, node, t, hnode, hput, hrun⟩, hfinish⟩
              | error e =>
                  rw [hput, Mode.within] at h
                  cases hplaced : m.placed <;> simp [hplaced, Except.mapError] at h

/-- What led through the states of two parts has led through those of each: a member belongs to
one of them and leaves the other as it is. -/
theorem run_both {γ : Type} {combine : α → β → γ} {f : Fields α} {g : Fields β} {m : Mode}
    {s s' : f.State} {t t' : g.State} {members : List (String × Value)}
    (h : (both combine f g).Run m (s, t) members (s', t')) :
    f.Run m s (members.filter fun p => f.names.contains p.1) s' ∧
      g.Run m t (members.filter fun p => !f.names.contains p.1) t' := by
  induction members generalizing s t with
  | nil =>
      cases h
      exact ⟨rfl, rfl⟩
  | cons p members ih =>
      obtain ⟨key, v⟩ := p
      obtain ⟨hname, node, ⟨s₁, t₁⟩, hs, hput, hrest⟩ := h
      obtain ⟨hleft, hright⟩ := ih hrest
      change (if f.names.contains key then (f.put s key m node).map fun a => (a, t)
        else (g.put t key m node).map fun b => (s, b)) = .ok (s₁, t₁) at hput
      cases hmine : f.names.contains key with
      | true =>
          rw [if_pos hmine] at hput
          obtain ⟨a, ha, hsame⟩ := map_eq_ok_iff.1 hput
          cases hsame
          simp only [List.filter_cons, hmine, if_true, Bool.not_true, Bool.false_eq_true,
            if_false]
          exact ⟨⟨hmine, node, s₁, hs, ha, hleft⟩, hright⟩
      | false =>
          rw [if_neg (Bool.eq_false_iff.1 hmine)] at hput
          obtain ⟨b, hb, hsame⟩ := map_eq_ok_iff.1 hput
          cases hsame
          have hother : g.names.contains key = true := by
            change (f.names ++ g.names).contains key = true at hname
            rwa [List.contains_append, hmine, Bool.false_or] at hname
          simp only [List.filter_cons, hmine, if_true, Bool.not_false, Bool.false_eq_true,
            if_false]
          exact ⟨hleft, hother, node, t₁, hs, hb, hright⟩

theorem run_map {f : Fields α} {g : α → β} {m : Mode} {s s' : f.State}
    {members : List (String × Value)} (h : (f.map g).Run m s members s') :
    f.Run m s members s' := by
  induction members generalizing s with
  | nil => exact h
  | cons p members ih =>
      obtain ⟨hname, node, t, hs, hput, hrest⟩ := h
      exact ⟨hname, node, t, hs, hput, ih hrest⟩

/-- Whatever is made of some members has a property. -/
structure Tells (levels : Nat) (f : Fields α) (members : List (String × Value))
    (P : α → Prop) : Prop where
  names : ∀ p ∈ members, f.names.contains p.1 = true
  told : ∀ m s a, levels < m.depth → f.Run m f.start members s → f.finish s = .ok a → P a

theorem tells_field {name : String} {d : Decoder α} {default? : Option α} {v : Value}
    {P : α → Prop}
    (h : ∀ m node a, levels < m.depth → node.Spells v → d m node = .ok a → P a) :
    (field name d default?).Tells levels [(name, v)] P where
  names p hp := by
    rw [List.mem_singleton.1 hp]
    simp [field]
  told m s a hm hrun hfinish := by
    obtain ⟨-, node, t, hs, hput, rfl⟩ := hrun
    obtain ⟨b, hb, rfl⟩ := map_eq_ok_iff.1 hput
    cases hfinish
    exact h m node a hm hs hb

/-- What is read as something tells just that. -/
theorem eq_of_reads {d : Decoder α} {v : Value} {a : α} (h : Json.Reads levels d v a) (m : Mode)
    (node : Node) (b : α) (hm : levels < m.depth) (hs : node.Spells v) (hd : d m node = .ok b) :
    b = a := by
  rw [h m node hm hs] at hd
  exact (Except.ok.inj hd).symm

theorem tells_required (name : String) {d : Decoder α} {v : Value} {a : α}
    (h : Json.Reads levels d v a) : (required name d).Tells levels [(name, v)] (· = a) :=
  tells_field (eq_of_reads h)

theorem tells_optional (name : String) (default : α) {d : Decoder α} {v : Value} {a : α}
    (h : Json.Reads levels d v a) :
    (optional name d default).Tells levels [(name, v)] (· = a) :=
  tells_field (eq_of_reads h)

/-- What is read in some way tells nothing. -/
theorem tells_nothing (levels : Nat) (name : String) (d : Decoder α) (v : Value) :
    (required name d).Tells levels [(name, v)] fun _ => True :=
  tells_field fun _ _ _ _ _ _ => trivial

theorem tells_map (g : α → β) {f : Fields α} {members : List (String × Value)} {P : α → Prop}
    (h : f.Tells levels members P) :
    (f.map g).Tells levels members fun b => ∃ a, P a ∧ g a = b where
  names := h.names
  told m s b hm hrun hfinish := by
    obtain ⟨a, ha, hb⟩ := map_eq_ok_iff.1 hfinish
    exact ⟨a, h.told m s a hm (run_map hrun) ha, hb⟩

theorem tells_seq {f : Fields (α → β)} {g : Fields α} {members members' : List (String × Value)}
    {P : (α → β) → Prop} {Q : α → Prop} (hf : f.Tells levels members P)
    (hg : g.Tells levels members' Q) (hnames : ∀ k ∈ g.names, k ∉ f.names) :
    (seq f g).Tells levels (members ++ members') fun b => ∃ h a, P h ∧ Q a ∧ h a = b where
  names p hp := by
    show (f.names ++ g.names).contains p.1 = true
    rw [List.contains_append, Bool.or_eq_true]
    rcases List.mem_append.1 hp with hp | hp
    · exact .inl (hf.names p hp)
    · exact .inr (hg.names p hp)
  told m s b hm hrun hfinish := by
    have hother : ∀ p ∈ members', f.names.contains p.1 = false := fun p hp =>
      Bool.eq_false_iff.2 (mt List.contains_iff_mem.1
        (hnames _ (List.contains_iff_mem.1 (hg.names p hp))))
    obtain ⟨hleft, hright⟩ := run_both hrun
    rw [List.filter_append, List.filter_eq_self.2 hf.names,
      List.filter_eq_nil_iff.2 fun p hp => Bool.eq_false_iff.1 (hother p hp),
      List.append_nil] at hleft
    rw [List.filter_append, List.filter_eq_nil_iff.2 fun p hp => by rw [hf.names p hp]; decide,
      List.filter_eq_self.2 fun p hp => by rw [hother p hp]; rfl, List.nil_append] at hright
    obtain ⟨h, hh, hrest⟩ := bind_eq_ok_iff.1 hfinish
    obtain ⟨a, ha, hb⟩ := bind_eq_ok_iff.1 hrest
    exact ⟨h, a, hf.told m _ h hm hleft hh, hg.told m _ a hm hright ha, Except.ok.inj hb⟩

end Fields

/-- A record that was read from the text of its members. -/
theorem of_decode_render {expected : String} {f : Fields α} {members : List (String × Value)}
    {P : α → Prop} (h : f.Tells levels members P) (hlevels : levels + 1 < maxDepth)
    (hplain : (Value.object members).Plain) {a : α}
    (hread : decode (record expected f) (Bytes.ofString (Value.object members).render) = .ok a) :
    P a := by
  obtain ⟨node, hnode, hs⟩ := read_render hplain
  rw [decode, hnode] at hread
  obtain ⟨b, hb, hdone⟩ := bind_eq_ok_iff.1 hread
  obtain rfl : b = a := Except.ok.inj hdone
  cases hs with
  | @object start entries _ hentries =>
      obtain ⟨inner, henter, hinner⟩ := enter_of_lt (m := .text) hlevels start
      simp only [record, henter, ok_bind] at hb
      obtain ⟨s, hrun, hfinish⟩ := Fields.run_of_recordEntries h.names hentries hb
      exact h.told inner s b hinner hrun hfinish

/-- A record whose kind is told by its first member, and that was read from its text. -/
theorem of_decode_render_tagged {name tagName tag expected : String} {f : Fields α}
    {variants : List (Variant α)} {others : List (String × Value)} {P : α → Prop}
    (hfind : variants.find? (·.tag == tag) = some (variant tag expected f))
    (hothers : Asides levels tagName others) (h : f.Tells levels others P)
    (hlevels : levels + 1 < maxDepth)
    (hplain : (Value.object ((tagName, .text tag) :: others)).Plain) {a : α}
    (hread : decode (tagged name tagName variants)
      (Bytes.ofString (Value.object ((tagName, .text tag) :: others)).render) = .ok a) :
    P a := by
  obtain ⟨node, hnode, hs⟩ := read_render hplain
  rw [decode, hnode] at hread
  obtain ⟨b, hb, hdone⟩ := bind_eq_ok_iff.1 hread
  obtain rfl : b = a := Except.ok.inj hdone
  cases hs with
  | @object start entries _ hentries =>
      obtain ⟨inner, henter, hinner⟩ := enter_of_lt (m := .text) hlevels start
      obtain ⟨left, hsplit, hleft⟩ := splitTag_tag hfind hinner hothers
        (show entries.Spells ([] ++ (tagName, .text tag) :: others) from hentries)
      simp only [tagged, henter, hsplit, ok_bind] at hb
      obtain ⟨s, hrun, hfinish⟩ := Fields.run_of_recordEntries h.names hleft hb
      exact h.told .aside s b (Nat.lt_of_succ_lt hlevels) hrun hfinish

end Rendezvous.Json
