import Rendezvous.Proofs.Bytes.Varint
import Rendezvous.Proofs.Key.Envelope

/-!
# Rendezvous.Proofs.Key.Fields

What a message is, apart from how it is read: a sequence of fields, each a key and a content,
where the content of a group is again a sequence of fields. The lax reader of envelopes takes the
messages in which the two fields that it knows have the layouts that it expects, and finds the
last of each. Whatever the order of the fields, an envelope that is taken has data; a tag it need
not have, and without one its kind is the one that zero tags.

* `Envelope.Field`, `Envelope.Spells`: fields, and the bytes that spell them;
* `Envelope.skip?_append`, `Envelope.content_of_skip?`: fields that are dropped;
* `Envelope.fields_eq_some_iff`: what the lax reader finds;
* `Envelope.decode_eq_ok_iff`.
-/

namespace Rendezvous.Envelope

/-! ### Fields and their spellings -/

/-- A field of a message: its number and its content. -/
inductive Field where
  | varint (number value : Nat)
  | eightBytes (number : Nat) (content : Bytes)
  | counted (number : Nat) (content : Bytes)
  | group (number : Nat) (inner : List Field)
  | fourBytes (number : Nat) (content : Bytes)

namespace Field

/-- The number of a field. -/
def number : Field → Nat
  | varint n _ | eightBytes n _ | counted n _ | group n _ | fourBytes n _ => n

/-- How the content of a field is laid out. -/
def wire : Field → WireType
  | varint .. => .varint
  | eightBytes .. => .eightBytes
  | counted .. => .counted
  | group .. => .groupStart
  | fourBytes .. => .fourBytes

theorem wire_ne_groupEnd (f : Field) : f.wire ≠ .groupEnd := by
  cases f <;> exact WireType.noConfusion

end Field

/-- The lowest three bits of a key with this layout. -/
def WireType.code : WireType → Nat
  | .varint => 0
  | .eightBytes => 1
  | .counted => 2
  | .groupStart => 3
  | .groupEnd => 4
  | .fourBytes => 5

theorem WireType.ofNat?_eq_some_iff {n : Nat} {w : WireType} : ofNat? n = some w ↔ n = w.code := by
  constructor
  · intro h
    unfold ofNat? at h
    split at h <;> cases h <;> rfl
  · rintro rfl
    cases w <;> rfl

theorem WireType.code_lt (w : WireType) : w.code < 8 := by
  cases w <;> decide

/-- The key of a field: its number, which is not zero, and its layout in a word of 32 bits. -/
def IsKey (number : Nat) (w : WireType) (bs : Bytes) : Prop :=
  number ≠ 0 ∧ number * 8 + w.code < 2 ^ 32 ∧ Varint.Spells (number * 8 + w.code) bs

mutual

/-- The content of a field. `depth` is how many more groups may open. -/
inductive Content : (depth : Nat) → Field → Bytes → Prop where
  | varint {depth number value : Nat} {bs : Bytes} (hvalue : Varint.Spells value bs) :
      Content (depth + 1) (.varint number value) bs
  | eightBytes {depth number : Nat} {bs : Bytes} (hlength : bs.length = 8) :
      Content (depth + 1) (.eightBytes number bs) bs
  | counted {depth number : Nat} {count bs : Bytes} (hcount : Varint.Spells bs.length count) :
      Content (depth + 1) (.counted number bs) (count ++ bs)
  | group {depth number : Nat} {inner : List Field} {bs close : Bytes}
      (hinner : Spells depth inner bs) (hclose : IsKey number .groupEnd close) :
      Content (depth + 1) (.group number inner) (bs ++ close)
  | fourBytes {depth number : Nat} {bs : Bytes} (hlength : bs.length = 4) :
      Content (depth + 1) (.fourBytes number bs) bs

/-- A sequence of fields, each of them a key and a content. -/
inductive Spells : (depth : Nat) → List Field → Bytes → Prop where
  | nil {depth : Nat} : Spells depth [] []
  | cons {depth : Nat} {f : Field} {fs : List Field} {key content bs : Bytes}
      (hkey : IsKey f.number f.wire key) (hcontent : Content depth f content)
      (hrest : Spells depth fs bs) : Spells depth (f :: fs) (key ++ (content ++ bs))

end

/-! ### Keys and counts -/

theorem IsKey.ne_nil {number : Nat} {w : WireType} {bs : Bytes} (h : IsKey number w bs) :
    bs ≠ [] :=
  h.2.2.ne_nil

theorem fieldKey?_eq_some_iff {number : Nat} {w : WireType} {bs rest : Bytes} :
    fieldKey? bs = some ((number, w), rest) ↔ ∃ key, IsKey number w key ∧ bs = key ++ rest := by
  simp only [fieldKey?, Option.bind_eq_bind, Option.bind_eq_some_iff, Prod.exists,
    Varint.decode?_eq_some_iff, WireType.ofNat?_eq_some_iff, Option.ite_none_left_eq_some,
    Option.some.injEq, Prod.mk.injEq, not_or, Nat.not_le]
  constructor
  · rintro ⟨n, _, ⟨key, hkey, rfl⟩, w, hcode, ⟨hlt, hnumber⟩, ⟨rfl, rfl⟩, rfl⟩
    have hn : n / 8 * 8 + w.code = n := by omega
    exact ⟨key, ⟨hnumber, by rwa [hn], by rwa [hn]⟩, rfl⟩
  · rintro ⟨key, ⟨hnumber, hlt, hkey⟩, rfl⟩
    have hcode := w.code_lt
    exact ⟨_, _, ⟨key, hkey, rfl⟩, w, by omega, ⟨hlt, by omega⟩, ⟨by omega, rfl⟩, rfl⟩

theorem IsKey.fieldKey? {number : Nat} {w : WireType} {key : Bytes} (h : IsKey number w key)
    (rest : Bytes) : fieldKey? (key ++ rest) = some ((number, w), rest) :=
  fieldKey?_eq_some_iff.2 ⟨key, h, rfl⟩

theorem take?_eq_some_iff {n : Nat} {bs content rest : Bytes} :
    take? n bs = some (content, rest) ↔ content.length = n ∧ bs = content ++ rest := by
  constructor
  · intro h
    unfold take? at h
    split at h
    · cases h
      exact ⟨List.length_take_of_le ‹_›, (List.take_append_drop n bs).symm⟩
    · cases h
  · rintro ⟨rfl, rfl⟩
    exact take?_append content rest

theorem counted?_eq_some_iff {bs content rest : Bytes} :
    counted? bs = some (content, rest) ↔
      ∃ count, Varint.Spells content.length count ∧ bs = count ++ (content ++ rest) := by
  simp only [counted?, Option.bind_eq_bind, Option.bind_eq_some_iff, Prod.exists,
    Varint.decode?_eq_some_iff, take?_eq_some_iff]
  constructor
  · rintro ⟨_, _, ⟨count, hcount, rfl⟩, rfl, rfl⟩
    exact ⟨count, hcount, rfl⟩
  · rintro ⟨count, hcount, rfl⟩
    exact ⟨_, _, ⟨count, hcount, rfl⟩, rfl, rfl⟩

/-! ### Fields that are dropped -/

theorem skipGroup?_close {number : Nat} {close : Bytes} (hclose : IsKey number .groupEnd close)
    (fuel depth : Nat) (rest : Bytes) :
    skipGroup? (fuel + 1) depth number (close ++ rest) = some rest := by
  simp [skipGroup?, hclose.fieldKey?]

theorem skipGroup?_field {f : Field} {key : Bytes} (hkey : IsKey f.number f.wire key)
    (fuel depth number : Nat) (bs : Bytes) :
    skipGroup? (fuel + 1) depth number (key ++ bs) =
      (skip? fuel depth f.number f.wire bs).bind (skipGroup? fuel depth number) := by
  simp [skipGroup?, hkey.fieldKey?, f.wire_ne_groupEnd]

/-- An unknown field is dropped whole, and so are those of a group up to its end. The fuel
outlasts the content. -/
theorem skips_append (fuel : Nat) :
    (∀ {depth f content}, Content depth f content → content.length < fuel → ∀ rest,
      skip? fuel depth f.number f.wire (content ++ rest) = some rest) ∧
    (∀ {depth fs bs number close}, Spells depth fs bs → IsKey number .groupEnd close →
      bs.length + close.length ≤ fuel → ∀ rest,
      skipGroup? fuel depth number (bs ++ (close ++ rest)) = some rest) := by
  induction fuel with
  | zero =>
      refine ⟨fun _ hlength => absurd hlength (Nat.not_lt_zero _), ?_⟩
      intro depth fs bs number close _ hclose hlength
      have hpos := List.length_pos_iff.2 hclose.ne_nil
      omega
  | succ fuel ih =>
      obtain ⟨ihContent, ihGroup⟩ := ih
      refine ⟨?_, ?_⟩
      · intro depth f content hcontent hlength rest
        cases hcontent with
        | varint hvalue =>
            simp [skip?, Field.wire, Varint.decode?_eq_some_iff.2 ⟨_, hvalue, rfl⟩]
        | eightBytes hbytes | fourBytes hbytes =>
            simp [skip?, Field.wire, take?_eq_some_iff.2 ⟨hbytes, rfl⟩]
        | @counted _ _ count bs hcount =>
            simp [skip?, Field.wire, counted?_eq_some_iff.2 ⟨count, hcount, rfl⟩]
        | @group _ _ inner bs close hinner hclose =>
            rw [List.append_assoc]
            rw [List.length_append] at hlength
            exact ihGroup hinner hclose (Nat.le_of_lt_succ hlength) rest
      · intro depth fs bs number close hspells hclose hlength rest
        cases hspells with
        | nil => exact skipGroup?_close hclose fuel depth rest
        | @cons _ f fs key content bs hkey hcontent hrest =>
            -- The keys of the field and of the end leave room for the content.
            have hpos := List.length_pos_iff.2 hkey.ne_nil
            have hpos' := List.length_pos_iff.2 hclose.ne_nil
            simp only [List.length_append] at hlength
            rw [List.append_assoc, List.append_assoc, skipGroup?_field hkey,
              ihContent hcontent (by omega), Option.bind_some]
            exact ihGroup hrest hclose (by omega) rest

/-- Where only the rest of what is read matters, something was read in front of it. -/
theorem exists_of_map_snd {α : Type} {read : Option (α × Bytes)} {rest : Bytes}
    (h : read.map (·.2) = some rest) : ∃ a, read = some (a, rest) := by
  obtain ⟨⟨a, _⟩, hread, rfl⟩ := Option.map_eq_some_iff.1 h
  exact ⟨a, hread⟩

/-- What is dropped is the content of a field, and the rest of a group. -/
theorem of_skips (fuel : Nat) :
    (∀ {depth number w bs rest}, skip? fuel depth number w bs = some rest →
      ∃ f content, f.number = number ∧ f.wire = w ∧ Content depth f content ∧
        bs = content ++ rest) ∧
    (∀ {depth number bs rest}, skipGroup? fuel depth number bs = some rest →
      ∃ fs inner close, Spells depth fs inner ∧ IsKey number .groupEnd close ∧
        bs = inner ++ (close ++ rest)) := by
  induction fuel with
  | zero => exact ⟨fun h => by simp [skip?] at h, fun h => by simp [skipGroup?] at h⟩
  | succ fuel ih =>
      obtain ⟨ihContent, ihGroup⟩ := ih
      refine ⟨?_, ?_⟩
      · intro depth number w bs rest h
        cases depth with
        | zero => simp [skip?] at h
        | succ depth =>
            cases w with
            | varint =>
                obtain ⟨n, hread⟩ := exists_of_map_snd h
                obtain ⟨front, hfront, rfl⟩ := Varint.decode?_eq_some_iff.1 hread
                exact ⟨.varint number n, front, rfl, rfl, .varint hfront, rfl⟩
            | eightBytes =>
                obtain ⟨content, hread⟩ := exists_of_map_snd h
                obtain ⟨hlength, rfl⟩ := take?_eq_some_iff.1 hread
                exact ⟨.eightBytes number content, content, rfl, rfl, .eightBytes hlength, rfl⟩
            | fourBytes =>
                obtain ⟨content, hread⟩ := exists_of_map_snd h
                obtain ⟨hlength, rfl⟩ := take?_eq_some_iff.1 hread
                exact ⟨.fourBytes number content, content, rfl, rfl, .fourBytes hlength, rfl⟩
            | counted =>
                obtain ⟨content, hread⟩ := exists_of_map_snd h
                obtain ⟨count, hcount, rfl⟩ := counted?_eq_some_iff.1 hread
                exact ⟨.counted number content, count ++ content, rfl, rfl, .counted hcount,
                  (List.append_assoc ..).symm⟩
            | groupStart =>
                obtain ⟨fs, inner, close, hinner, hclose, rfl⟩ := ihGroup h
                exact ⟨.group number fs, inner ++ close, rfl, rfl, .group hinner hclose,
                  (List.append_assoc ..).symm⟩
            | groupEnd => simp [skip?] at h
      · intro depth number bs rest h
        simp only [skipGroup?, Option.bind_eq_bind, Option.bind_eq_some_iff, Prod.exists] at h
        obtain ⟨inner, w, bs', hread, h⟩ := h
        obtain ⟨key, hkey, rfl⟩ := fieldKey?_eq_some_iff.1 hread
        split at h
        · rename_i hw
          subst hw
          split at h
          · rename_i hinner
            cases h
            exact ⟨[], [], key, .nil, hinner ▸ hkey, rfl⟩
          · cases h
        · obtain ⟨bs'', hskip, hrest⟩ := Option.bind_eq_some_iff.1 h
          obtain ⟨f, content, rfl, rfl, hcontent, rfl⟩ := ihContent hskip
          obtain ⟨fs, inner, close, hinner, hclose, rfl⟩ := ihGroup hrest
          exact ⟨f :: fs, _, close, .cons hkey hcontent hinner, hclose, by
            simp only [List.append_assoc]⟩

/-! ### Messages -/

/-- The number that a field gives as the tag, if it is field 1. -/
def Field.tag? : Field → Option Nat
  | varint number value => if number = 1 then some value else none
  | eightBytes .. | counted .. | group .. | fourBytes .. => none

/-- What a field gives as the data, if it is field 2. -/
def Field.data? : Field → Option Bytes
  | counted number content => if number = 2 then some content else none
  | varint .. | eightBytes .. | group .. | fourBytes .. => none

/-- The two fields that are known have the layouts that are expected of them. -/
def Fitting (fs : List Field) : Prop :=
  ∀ f ∈ fs, (f.number = 1 → f.wire = .varint) ∧ (f.number = 2 → f.wire = .counted)

/-- The tag that is found: that of the last field 1, or else the one given. -/
def tagOr (tag : Int) (fs : List Field) : Int :=
  ((fs.filterMap Field.tag?).getLast?.map signed32).getD tag

/-- The data that are found: those of the last field 2, or else those given. -/
def dataOr (data : Bytes) (fs : List Field) : Bytes :=
  (fs.filterMap Field.data?).getLast?.getD data

theorem tagOr_cons (tag : Int) (f : Field) (fs : List Field) :
    tagOr tag (f :: fs) = tagOr (tagOr tag [f]) fs := by
  unfold tagOr
  rw [← List.singleton_append, List.filterMap_append, List.getLast?_append]
  cases (fs.filterMap _).getLast? <;> rfl

theorem dataOr_cons (data : Bytes) (f : Field) (fs : List Field) :
    dataOr data (f :: fs) = dataOr (dataOr data [f]) fs := by
  unfold dataOr
  rw [← List.singleton_append, List.filterMap_append, List.getLast?_append]
  cases (fs.filterMap _).getLast? <;> rfl

theorem tagOr_tag (tag : Int) (value : Nat) : tagOr tag [.varint 1 value] = signed32 value := by
  -- For any function, lest the word be computed with.
  have hlast (g : Nat → Int) :
      (([Field.varint 1 value].filterMap Field.tag?).getLast?.map g).getD tag = g value := rfl
  exact hlast signed32

theorem dataOr_data (data content : Bytes) : dataOr data [.counted 2 content] = content := rfl

theorem tagOr_of_ne (tag : Int) {f : Field} (h : f.number ≠ 1) : tagOr tag [f] = tag := by
  cases f <;> simp_all [tagOr, Field.tag?, Field.number]

theorem dataOr_of_ne (data : Bytes) {f : Field} (h : f.number ≠ 2) : dataOr data [f] = data := by
  cases f <;> simp_all [dataOr, Field.data?, Field.number]

/-- What is done about a field, by its number and its layout. -/
theorem fieldsFrom_key {number : Nat} {w : WireType} {key : Bytes} (hkey : IsKey number w key)
    (fuel : Nat) (tag : Int) (data bs : Bytes) :
    fieldsFrom (fuel + 1) tag data (key ++ bs) =
      if number = 1 then
        if w = .varint then
          (Varint.decode? bs).bind fun (n, bs) => fieldsFrom fuel (signed32 n) data bs
        else none
      else if number = 2 then
        if w = .counted then (counted? bs).bind fun (content, bs) => fieldsFrom fuel tag content bs
        else none
      else (skip? (bs.length + 1) maxDepth number w bs).bind (fieldsFrom fuel tag data) := by
  have hempty : (key ++ bs).isEmpty = false := by simp [hkey.ne_nil]
  simp only [fieldsFrom, hempty, hkey.fieldKey?, Bool.false_eq_true, if_false,
    Option.bind_eq_bind, Option.bind_some]

/-- Reading one field: what it gives takes the place of what was found so far. -/
theorem fieldsFrom_field {f : Field} {key content : Bytes} (hkey : IsKey f.number f.wire key)
    (hcontent : Content maxDepth f content) (hfit : Fitting [f]) (fuel : Nat) (tag : Int)
    (data bs : Bytes) :
    fieldsFrom (fuel + 1) tag data (key ++ (content ++ bs)) =
      fieldsFrom fuel (tagOr tag [f]) (dataOr data [f]) bs := by
  obtain ⟨hfirst, hsecond⟩ := hfit f List.mem_cons_self
  rw [fieldsFrom_key hkey]
  by_cases h1 : f.number = 1
  · have h2 : f.number ≠ 2 := by omega
    rw [if_pos h1, if_pos (hfirst h1), dataOr_of_ne data h2]
    cases hcontent with
    | varint hvalue =>
        obtain rfl : _ = 1 := h1
        rw [Varint.decode?_eq_some_iff.2 ⟨_, hvalue, rfl⟩, Option.bind_some, tagOr_tag]
    | _ => cases hfirst h1
  rw [if_neg h1, tagOr_of_ne tag h1]
  by_cases h2 : f.number = 2
  · rw [if_pos h2, if_pos (hsecond h2)]
    cases hcontent with
    | @counted _ _ count content hcount =>
        obtain rfl : _ = 2 := h2
        rw [counted?_eq_some_iff.2 ⟨count, hcount, List.append_assoc ..⟩, Option.bind_some,
          dataOr_data]
    | _ => cases hsecond h2
  · have hskip := (skips_append ((content ++ bs).length + 1)).1 hcontent
      (by rw [List.length_append]; omega) bs
    rw [if_neg h2, hskip, dataOr_of_ne data h2, Option.bind_some]

/-- What the lax reader finds if it begins with a tag and data. The fuel outlasts the bytes. -/
theorem fieldsFrom_of_spells {fs : List Field} {bs : Bytes} (hspells : Spells maxDepth fs bs)
    (hfit : Fitting fs) {fuel : Nat} (hfuel : bs.length < fuel) (tag : Int) (data : Bytes) :
    fieldsFrom fuel tag data bs = some (tagOr tag fs, dataOr data fs) := by
  induction fs generalizing bs fuel tag data with
  | nil =>
      cases hspells
      obtain ⟨fuel, rfl⟩ := Nat.exists_eq_add_one.2 hfuel
      rfl
  | cons f fs ih =>
      cases hspells with
      | @cons _ _ _ key content bs hkey hcontent hrest =>
          have hpos := List.length_pos_iff.2 hkey.ne_nil
          simp only [List.length_append] at hfuel
          obtain ⟨fuel, rfl⟩ : ∃ k, fuel = k + 1 := Nat.exists_eq_add_one.2 (by omega)
          have hfirst : Fitting [f] := by
            intro g hg
            exact hfit g (List.mem_singleton.1 hg ▸ List.mem_cons_self)
          have hothers : Fitting fs := fun g hg => hfit g (List.mem_cons_of_mem f hg)
          rw [fieldsFrom_field hkey hcontent hfirst, ih hrest hothers (by omega), ← tagOr_cons,
            ← dataOr_cons]

/-- What is read in front of the rest is a field that fits. -/
theorem field_of_fieldsFrom {number : Nat} {w : WireType} {key : Bytes}
    (hkey : IsKey number w key) {fuel : Nat} {tag tag' : Int} {data data' bs : Bytes}
    (h : fieldsFrom (fuel + 1) tag data (key ++ bs) = some (tag', data')) :
    ∃ f content rest, f.number = number ∧ f.wire = w ∧ Content maxDepth f content ∧
      Fitting [f] ∧ bs = content ++ rest := by
  rw [fieldsFrom_key hkey] at h
  split at h
  · rename_i h1
    split at h
    · rename_i hw
      obtain ⟨⟨n, rest⟩, hread, -⟩ := Option.bind_eq_some_iff.1 h
      obtain ⟨content, hvalue, rfl⟩ := Varint.decode?_eq_some_iff.1 hread
      refine ⟨.varint number n, content, rest, rfl, hw.symm, .varint hvalue, ?_, rfl⟩
      simp [Fitting, Field.number, Field.wire, h1]
    · cases h
  · rename_i h1
    split at h
    · rename_i h2
      split at h
      · rename_i hw
        obtain ⟨⟨data, rest⟩, hread, -⟩ := Option.bind_eq_some_iff.1 h
        obtain ⟨count, hcount, rfl⟩ := counted?_eq_some_iff.1 hread
        refine ⟨.counted number data, count ++ data, rest, rfl, hw.symm, .counted hcount, ?_,
          (List.append_assoc ..).symm⟩
        simp [Fitting, Field.number, Field.wire, h2]
      · cases h
    · rename_i h2
      obtain ⟨rest, hskip, -⟩ := Option.bind_eq_some_iff.1 h
      obtain ⟨f, content, rfl, rfl, hcontent, rfl⟩ := (of_skips _).1 hskip
      refine ⟨f, content, rest, rfl, rfl, hcontent, ?_, rfl⟩
      simp [Fitting, h1, h2]

/-- Nothing but a message is read. -/
theorem spells_of_fieldsFrom {fuel : Nat} {tag tag' : Int} {data data' bs : Bytes}
    (h : fieldsFrom fuel tag data bs = some (tag', data')) :
    ∃ fs, Spells maxDepth fs bs ∧ Fitting fs := by
  induction fuel generalizing tag data bs with
  | zero => cases h
  | succ fuel ih =>
      cases hempty : bs.isEmpty with
      | true =>
          obtain rfl := List.isEmpty_iff.1 hempty
          exact ⟨[], .nil, by simp [Fitting]⟩
      | false =>
          -- Where there are bytes there is a key, or the reader would have failed.
          obtain ⟨⟨⟨number, w⟩, rest⟩, hread⟩ : ∃ r, fieldKey? bs = some r := by
            refine Option.ne_none_iff_exists'.1 fun hnone => ?_
            simp [fieldsFrom, hempty, hnone] at h
          obtain ⟨key, hkey, rfl⟩ := fieldKey?_eq_some_iff.1 hread
          obtain ⟨f, content, rest, rfl, rfl, hcontent, hfit, rfl⟩ := field_of_fieldsFrom hkey h
          rw [fieldsFrom_field hkey hcontent hfit] at h
          obtain ⟨fs, hspells, hothers⟩ := ih h
          refine ⟨f :: fs, .cons hkey hcontent hspells, ?_⟩
          intro g hg
          rcases List.mem_cons.1 hg with rfl | hmem
          · exact hfit g List.mem_cons_self
          · exact hothers g hmem

/-- **What the lax reader finds** in bytes: the last tag and the last data of the message that
they are. -/
theorem fields_eq_some_iff {bs data : Bytes} {tag : Int} :
    fields bs = some (tag, data) ↔
      ∃ fs, Spells maxDepth fs bs ∧ Fitting fs ∧ tagOr 0 fs = tag ∧ dataOr [] fs = data := by
  constructor
  · intro h
    obtain ⟨fs, hspells, hfit⟩ := spells_of_fieldsFrom h
    rw [fields, fieldsFrom_of_spells hspells hfit (Nat.lt_succ_self _)] at h
    cases h
    exact ⟨fs, hspells, hfit, rfl, rfl⟩
  · rintro ⟨fs, hspells, hfit, rfl, rfl⟩
    exact fieldsFrom_of_spells hspells hfit (Nat.lt_succ_self _) 0 []

/-! ### Envelopes -/

/-- A message gives the tag of a kind. -/
def Tagged (fs : List Field) (kind : KeyKind) : Prop :=
  (fs.filterMap Field.tag?).getLast?.map signed32 = some (kind.tag : Int)

/-- A message has no field for a tag. -/
def Untagged (fs : List Field) : Prop := ∀ f ∈ fs, f.number ≠ 1

/-- A message gives data, and there are some. -/
def Supplied (fs : List Field) (data : Bytes) : Prop :=
  (fs.filterMap Field.data?).getLast? = some data ∧ data ≠ []

theorem kind?_eq_some_iff {tag : Int} {kind : KeyKind} :
    (if tag < 0 then none else KeyKind.ofTag? tag.toNat) = some kind ↔ tag = kind.tag := by
  constructor
  · intro h
    rw [Option.ite_none_left_eq_some] at h
    obtain ⟨hsign, hkind⟩ := h
    have htag : tag.toNat = kind.tag := by
      unfold KeyKind.ofTag? at hkind
      split at hkind <;> cases hkind <;> assumption
    omega
  · rintro rfl
    rw [if_neg (Int.not_lt.2 (Int.natCast_nonneg _)), Int.toNat_natCast, KeyKind.ofTag?_tag]

/-- Beyond what the lax reader finds, a tag has to be known and there have to be data. -/
theorem decode_eq_ok_iff_fields {bs : Bytes} {e : Envelope} :
    decode bs = .ok e ↔ fields bs = some ((e.kind.tag : Int), e.data) ∧ e.data ≠ [] := by
  constructor
  · intro h
    unfold decode at h
    split at h
    · cases h
    · rename_i tag data hfields
      split at h
      · cases h
      · rename_i kind hkind
        split at h
        · cases h
        · rename_i hdata
          cases h
          rw [hfields, kind?_eq_some_iff.1 hkind]
          exact ⟨rfl, by simpa using hdata⟩
  · rintro ⟨hfields, hdata⟩
    have hkind := kind?_eq_some_iff.2 (rfl : (e.kind.tag : Int) = e.kind.tag)
    unfold decode
    rw [hfields]
    simp only [hkind, List.isEmpty_iff, if_neg hdata]

theorem untagged_iff {fs : List Field} (hfit : Fitting fs) :
    Untagged fs ↔ fs.filterMap Field.tag? = [] := by
  rw [List.filterMap_eq_nil_iff]
  refine forall₂_congr fun f hf => ?_
  have hwire := (hfit f hf).1
  cases f <;> simp_all [Field.number, Field.wire, Field.tag?]

/-- Without a tag a message counts as one with the tag zero. -/
theorem tagOr_zero_eq_iff {fs : List Field} (hfit : Fitting fs) {kind : KeyKind} :
    tagOr 0 fs = kind.tag ↔ Tagged fs kind ∨ Untagged fs ∧ kind = .rsa := by
  have hlast (word : Nat → Int) (last : Option Nat) :
      (last.map word).getD 0 = kind.tag ↔
        last.map word = some (kind.tag : Int) ∨ last = none ∧ kind = .rsa := by
    cases last with
    | none => cases kind <;> simp [KeyKind.tag]
    | some n => simp
  rw [untagged_iff hfit, ← List.getLast?_eq_none_iff]
  exact hlast signed32 _

theorem supplied_iff {fs : List Field} {data : Bytes} (hdata : data ≠ []) :
    dataOr [] fs = data ↔ Supplied fs data := by
  rw [dataOr, Supplied]
  cases (fs.filterMap Field.data?).getLast? with
  | none => simp [hdata.symm]
  | some _ => simp [hdata]

/-- **Which bytes are the envelope of a private key.** They are those of a message, with its
fields in any order, in which the last field 2 gives the data, of which there are some, and the
last field 1 the tag of the kind; where there is no field 1, the kind is the one that zero
tags. -/
theorem decode_message_iff {bs : Bytes} {e : Envelope} :
    decode bs = .ok e ↔
      ∃ fs, Spells maxDepth fs bs ∧ Fitting fs ∧
        (Tagged fs e.kind ∨ Untagged fs ∧ e.kind = .rsa) ∧ Supplied fs e.data := by
  rw [decode_eq_ok_iff_fields, fields_eq_some_iff]
  constructor
  · rintro ⟨⟨fs, hspells, hfit, htag, hdata⟩, hne⟩
    exact ⟨fs, hspells, hfit, (tagOr_zero_eq_iff hfit).1 htag, (supplied_iff hne).1 hdata⟩
  · rintro ⟨fs, hspells, hfit, htag, hdata⟩
    exact ⟨⟨fs, hspells, hfit, (tagOr_zero_eq_iff hfit).2 htag, (supplied_iff hdata.2).2 hdata⟩,
      hdata.2⟩

theorem Spells.eq_nil {depth : Nat} {fs : List Field} (h : Spells depth fs []) : fs = [] := by
  generalize hbs : ([] : Bytes) = bs at h
  cases h with
  | nil => rfl
  | cons hkey => simp [hkey.ne_nil] at hbs

/-- A message of data alone is taken for the envelope of a key, although it tells of no kind. -/
theorem untagged_data_taken :
    decode [0x12, 0x01, 0x00] = .ok ⟨.rsa, [0x00]⟩ ∧
      ∀ fs kind, Spells maxDepth fs [0x12, 0x01, 0x00] → ¬ Tagged fs kind := by
  refine ⟨rfl, fun fs kind hspells htagged => ?_⟩
  generalize hbs : ([0x12, 0x01, 0x00] : Bytes) = bs at hspells
  cases hspells with
  | nil => cases hbs
  | @cons _ f fs key content rest hkey hcontent hrest =>
      -- The first key is that of field 2, and the count behind it leaves nothing over.
      have hread := hkey.fieldKey? (content ++ rest)
      rw [← hbs, fieldKey?_data] at hread
      simp only [Option.some.injEq, Prod.mk.injEq] at hread
      obtain ⟨⟨hnumber, hwire⟩, hbytes⟩ := hread
      cases hcontent with
      | @counted _ _ count data hcount =>
          have hread := counted?_eq_some_iff.2 ⟨count, hcount, List.append_assoc count data rest⟩
          rw [← hbytes] at hread
          obtain ⟨-, rfl⟩ : [0x00] = data ∧ [] = rest := by
            simpa using (show counted? [0x01, 0x00] = some ([0x00], []) from rfl).symm.trans hread
          obtain rfl := hrest.eq_nil
          cases htagged
      | _ => cases hwire

end Rendezvous.Envelope
