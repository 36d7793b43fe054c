import Mathlib.Data.List.TakeWhile
import Rendezvous.Cli.Execution
import Rendezvous.Proofs.Data.Outcome
import Rendezvous.Proofs.Store.Volume
import Rendezvous.Proofs.Text.Blank

/-!
# Rendezvous.Proofs.Config.FlagFile

What a line of a flag file says, by what stands in it: nothing, a name alone, or a name and what
follows the first separator. A line is cut one byte behind its name, which is within a character
if the separator has more than one byte; then the program does not go on. Nothing else keeps a
flag file from being read or refused.

* `Text.splitAt?_append`: cuts that count bytes;
* `FlagFile.Idle`, `FlagFile.Whole`, `FlagFile.Divided`: the kinds of lines; `FlagFile.line_cases`;
* `FlagFile.ofLine_idle`, `FlagFile.ofLine_whole`, `FlagFile.ofLine_divided`: what they give;
* `FlagFile.CutWithin`, `FlagFile.Nameless`: the lines that are not read;
* `FlagFile.ofLines_eq_cut_iff`, `FlagFile.load_crashes_iff`: the files that are not.
-/

namespace Rendezvous

/-! ### Cuts that count bytes -/

namespace Text

/-- How many bytes a text has. -/
def size (cs : List Char) : Nat := (cs.map Char.utf8Size).sum

/-- A place behind a front of a text is one of what follows the front. -/
theorem splitAt?_append (front back : List Char) (n : Nat) :
    splitAt? (size front + n) (front ++ back) =
      (splitAt? n back).map fun r => (front ++ r.1, r.2) := by
  induction front with
  | nil => simp [size]
  | cons c front ih =>
      have hpos := c.utf8Size_pos
      have hsize : size (c :: front) = c.utf8Size + size front := by simp [size]
      have hrest : c.utf8Size + size front + n - c.utf8Size = size front + n := by omega
      rw [hsize, List.cons_append, splitAt?, if_neg (by omega), if_neg (by omega), hrest, ih,
        Option.map_map]
      rfl

/-- One byte behind the start of a character is within it if it has several. -/
theorem splitAt?_one_eq_none_iff {c : Char} {rest : List Char} :
    splitAt? 1 (c :: rest) = none ↔ c.utf8Size ≠ 1 := by
  have hpos := c.utf8Size_pos
  rw [splitAt?, if_neg Nat.one_ne_zero]
  by_cases hwide : 1 < c.utf8Size
  · rw [if_pos hwide]
    exact iff_of_true rfl (by omega)
  · have hzero : 1 - c.utf8Size = 0 := by omega
    rw [if_neg hwide, hzero]
    cases rest <;> simp [splitAt?] <;> omega

end Text

namespace FlagFile

/-! ### Kinds of lines -/

variable {raw name rest : List Char} {separator : Char}

theorem not_isBlank (h : ∀ c ∈ name, isSeparator c = false) : ∀ c ∈ name, Text.isBlank c = false :=
  fun c hc => (Bool.or_eq_false_iff.1 (h c hc)).2

/-- A line that says nothing: it is blank or a comment. -/
def Idle (raw : List Char) : Prop :=
  Text.trimChars raw = [] ∨ ∃ rest, Text.trimChars raw = '#' :: rest

/-- A line that has no separator. -/
structure Whole (raw : List Char) : Prop where
  not_idle : ¬ Idle raw
  plain : ∀ c ∈ Text.trimChars raw, isSeparator c = false

/-- What stands on either side of the first separator of a line. -/
structure Divided (raw name : List Char) (separator : Char) (rest : List Char) : Prop where
  not_idle : ¬ Idle raw
  line_eq : Text.trimChars raw = name ++ separator :: rest
  plain : ∀ c ∈ name, isSeparator c = false
  separates : isSeparator separator = true

theorem line_cases (raw : List Char) :
    Idle raw ∨ Whole raw ∨ ∃ name separator rest, Divided raw name separator rest := by
  by_cases hidle : Idle raw
  · exact .inl hidle
  · refine .inr ?_
    cases hfind : (Text.trimChars raw).find? isSeparator with
    | none => exact .inl ⟨hidle, fun c hc => by simpa using List.find?_eq_none.1 hfind c hc⟩
    | some separator =>
        obtain ⟨hseparates, name, rest, hline, hname⟩ := List.find?_eq_some_iff_append.1 hfind
        exact .inr ⟨name, separator, rest, hidle, hline, fun c hc => by simpa using hname c hc,
          hseparates⟩

/-! ### What a line gives -/

/-- What a name and a value come to: a name of dashes alone is none. -/
def named (number : Nat) (name : List Char) (value : String) :
    Except ParseError (Option (String × String)) :=
  if (flagName name).isEmpty then .error (.missingName number)
  else .ok (some (flagName name, value))

theorem ofLine_idle (h : Idle raw) (number : Nat) : ofLine number raw = .ok none := by
  obtain h | ⟨rest, h⟩ := h <;> simp [ofLine, h]

/-- Any other line is taken apart at its first separator. -/
theorem ofLine_of_not_idle (h : ¬ Idle raw) (number : Nat) :
    ofLine number raw =
      match (Text.trimChars raw).dropWhile (!isSeparator ·) with
      | [] => named number ((Text.trimChars raw).takeWhile (!isSeparator ·)) ""
      | separator :: rest =>
        if separator.utf8Size ≠ 1 then .error (.cutCharacter number)
        else named number ((Text.trimChars raw).takeWhile (!isSeparator ·))
          (String.ofList (unquote (Text.trimChars rest))) := by
  dsimp only [ofLine]
  split
  · next hempty => exact absurd (.inl hempty) h
  · next hcomment => exact absurd (.inr ⟨_, hcomment⟩) h
  · rfl

theorem ofLine_whole (h : Whole raw) (number : Nat) :
    ofLine number raw = named number (Text.trimChars raw) "" := by
  have hname : ∀ c ∈ Text.trimChars raw, (!isSeparator c) = true := fun c hc => by
    rw [h.plain c hc, Bool.not_false]
  rw [ofLine_of_not_idle h.not_idle, List.dropWhile_eq_nil_iff.2 hname,
    List.takeWhile_eq_self_iff.2 hname]

theorem ofLine_divided (h : Divided raw name separator rest) (number : Nat) :
    ofLine number raw =
      if separator.utf8Size ≠ 1 then .error (.cutCharacter number)
      else named number name (String.ofList (unquote (Text.trimChars rest))) := by
  have hname : ∀ c ∈ name, (!isSeparator c) = true := fun c hc => by
    rw [h.plain c hc, Bool.not_false]
  have hfront : (Text.trimChars raw).takeWhile (!isSeparator ·) = name := by
    rw [h.line_eq, List.takeWhile_append_of_pos hname]
    simp [h.separates]
  have hback : (Text.trimChars raw).dropWhile (!isSeparator ·) = separator :: rest := by
    rw [h.line_eq, List.dropWhile_append_of_pos hname]
    simp [h.separates]
  rw [ofLine_of_not_idle h.not_idle, hback, hfront]

/-! ### Lines that are not read -/

/-- A line in which the place one byte behind the name is within a character. -/
def CutWithin (raw : List Char) : Prop :=
  ∃ name separator rest, Divided raw name separator rest ∧
    Text.splitAt? (Text.size name + 1) (Text.trimChars raw) = none

/-- A line that has nothing but dashes where its name should be. -/
def Nameless (raw : List Char) : Prop :=
  (Whole raw ∧ ∀ c ∈ Text.trimChars raw, c = '-') ∨
    ∃ name separator rest, Divided raw name separator rest ∧ separator.utf8Size = 1 ∧
      ∀ c ∈ name, c = '-'

/-- The separator is then a blank of several bytes. -/
theorem cutWithin_iff :
    CutWithin raw ↔
      ∃ name separator rest, Divided raw name separator rest ∧ separator.utf8Size ≠ 1 := by
  refine exists_congr fun name => exists_congr fun separator => exists_congr fun rest => ?_
  refine and_congr_right fun h => ?_
  rw [h.line_eq, Text.splitAt?_append, Option.map_eq_none_iff, Text.splitAt?_one_eq_none_iff]

/-- Dashes alone are no name. -/
theorem flagName_eq_empty_iff (h : ∀ c ∈ name, isSeparator c = false) :
    (flagName name).isEmpty = true ↔ ∀ c ∈ name, c = '-' := by
  rw [flagName, Text.trimChars_eq_self (not_isBlank h), String.isEmpty_iff, ← String.toList_inj,
    String.toList_ofList, String.toList_empty, List.dropWhile_eq_nil_iff]
  simp

theorem ofLine_cutWithin (h : CutWithin raw) (number : Nat) :
    ofLine number raw = .error (.cutCharacter number) := by
  obtain ⟨name, separator, rest, hdivided, hwide⟩ := cutWithin_iff.1 h
  rw [ofLine_divided hdivided, if_pos hwide]

theorem ofLine_nameless (h : Nameless raw) (number : Nat) :
    ofLine number raw = .error (.missingName number) := by
  obtain ⟨hwhole, hdashes⟩ | ⟨name, separator, rest, hdivided, hnarrow, hdashes⟩ := h
  · rw [ofLine_whole hwhole, named, if_pos ((flagName_eq_empty_iff hwhole.plain).2 hdashes)]
  · rw [ofLine_divided hdivided, if_neg (not_not.2 hnarrow), named,
      if_pos ((flagName_eq_empty_iff hdivided.plain).2 hdashes)]

/-- Every other line is read. -/
theorem ofLine_of_not (hcut : ¬ CutWithin raw) (hnameless : ¬ Nameless raw) (number : Nat) :
    ∃ found, ofLine number raw = .ok found := by
  obtain hidle | hwhole | ⟨name, separator, rest, hdivided⟩ := line_cases raw
  · exact ⟨_, ofLine_idle hidle number⟩
  · have hname := fun h => hnameless (.inl ⟨hwhole, (flagName_eq_empty_iff hwhole.plain).1 h⟩)
    exact ⟨_, by rw [ofLine_whole hwhole, named, if_neg hname]⟩
  · have hnarrow : separator.utf8Size = 1 :=
      not_not.1 fun hwide => hcut (cutWithin_iff.2 ⟨name, separator, rest, hdivided, hwide⟩)
    have hname := fun h => hnameless (.inr ⟨name, separator, rest, hdivided, hnarrow,
      (flagName_eq_empty_iff hdivided.plain).1 h⟩)
    exact ⟨_, by rw [ofLine_divided hdivided, if_neg (not_not.2 hnarrow), named, if_neg hname]⟩

/-! ### Files that are not read -/

/-- The first line that is not read decides. -/
theorem ofLines_eq_cut_iff {lines : List (List Char)} {number k : Nat} :
    ofLines number lines = .error (.cutCharacter k) ↔
      ∃ front raw back, lines = front ++ raw :: back ∧
        (∀ line ∈ front, ¬ CutWithin line ∧ ¬ Nameless line) ∧ CutWithin raw ∧
        k = number + front.length := by
  induction lines generalizing number with
  | nil => simp [ofLines]
  | cons line lines ih =>
      constructor
      · intro h
        by_cases hcut : CutWithin line
        · rw [ofLines, ofLine_cutWithin hcut] at h
          cases h
          exact ⟨[], line, lines, rfl, by simp, hcut, rfl⟩
        by_cases hnameless : Nameless line
        · rw [ofLines, ofLine_nameless hnameless] at h
          cases h
        obtain ⟨found, hfound⟩ := ofLine_of_not hcut hnameless number
        have hmore : ofLines (number + 1) lines = .error (.cutCharacter k) := by
          rw [ofLines, hfound, ok_bind, bind_eq_error_iff] at h
          obtain h | ⟨_, -, h⟩ := h
          · exact h
          · cases h
        obtain ⟨front, raw, back, rfl, hfront, hraw, rfl⟩ := ih.1 hmore
        refine ⟨line :: front, raw, back, rfl, ?_, hraw, by simp; omega⟩
        exact List.forall_mem_cons.2 ⟨⟨hcut, hnameless⟩, hfront⟩
      · rintro ⟨front, raw, back, hlines, hfront, hraw, rfl⟩
        obtain ⟨rfl, hline⟩ | ⟨front, rfl, hback⟩ := List.cons_eq_append_iff.1 hlines
        · cases hline
          rw [ofLines, ofLine_cutWithin hraw]
          rfl
        · have hline := hfront line List.mem_cons_self
          obtain ⟨found, hfound⟩ := ofLine_of_not hline.1 hline.2 number
          have hmore := (@ih (number + 1)).2 ⟨front, raw, back, hback,
            fun l hl => hfront l (List.mem_cons_of_mem line hl), hraw, by simp; omega⟩
          rw [ofLines, hfound, ok_bind, hmore, error_bind]

/-- A table has no name that is cut. -/
theorem ofTable_ne_cut (entries : List (String × Toml.Value)) (k : Nat) :
    ofTable entries ≠ .error (.cutCharacter k) := by
  intro h
  obtain ⟨⟨key, value⟩, -, hentry⟩ := exists_of_mapM_eq_error h
  dsimp only at hentry
  split at hentry <;> cases hentry

/-- A text that is a table with entries. -/
def IsTable (text : String) : Prop := ∃ entry entries, Toml.parse? text = some (entry :: entries)

variable {text : String}

theorem parse_table {entry : String × Toml.Value} {entries : List (String × Toml.Value)}
    (h : Toml.parse? text = some (entry :: entries)) : parse text = ofTable (entry :: entries) := by
  rw [parse, h]

theorem parse_lines (h : ¬ IsTable text) : parse text = ofLines 1 (splitLines text.toList) := by
  unfold parse
  split
  · next entry entries htable => exact absurd ⟨entry, entries, htable⟩ h
  · rfl

theorem parse_eq_cut_iff {k : Nat} :
    parse text = .error (.cutCharacter k) ↔
      ¬ IsTable text ∧ ofLines 1 (splitLines text.toList) = .error (.cutCharacter k) := by
  by_cases htable : IsTable text
  · obtain ⟨entry, entries, hentries⟩ := id htable
    rw [parse_table hentries]
    exact iff_of_false (ofTable_ne_cut _ k) fun h => h.1 htable
  · rw [parse_lines htable, and_iff_right htable]

/-- Loading a flag file crashes exactly if it can be read, is not a table, and has a line whose
name ends at a blank of several bytes, while every line in front of that one is read. -/
theorem load_crashes_iff {v : Volume} {known : List String} {path : String} {crash : Crash} :
    load v known path = .error (.crash crash) ↔
      crash = .cutCharacter ∧ ∃ text front raw back,
        v.readText path = .ok text ∧ ¬ IsTable text ∧
        splitLines text.toList = front ++ raw :: back ∧
        (∀ line ∈ front, ¬ CutWithin line ∧ ¬ Nameless line) ∧ CutWithin raw := by
  constructor
  · intro h
    unfold load at h
    split at h
    · cases h
    · next text hread =>
        split at h
        · next k hparse =>
            cases h
            obtain ⟨htable, hlines⟩ := parse_eq_cut_iff.1 hparse
            obtain ⟨front, raw, back, hsplit, hfront, hraw, -⟩ := ofLines_eq_cut_iff.1 hlines
            exact ⟨rfl, text, front, raw, back, hread, htable, hsplit, hfront, hraw⟩
        · cases h
        · split at h <;> cases h
  · rintro ⟨rfl, text, front, raw, back, hread, htable, hsplit, hfront, hraw⟩
    have hparse : parse text = .error (.cutCharacter (1 + front.length)) :=
      parse_eq_cut_iff.2 ⟨htable,
        ofLines_eq_cut_iff.2 ⟨front, raw, back, hsplit, hfront, hraw, rfl⟩⟩
    simp only [load, hread, hparse]

/-- A name that ends at a no-break space is enough. -/
theorem load_no_break_space :
    load (Volume.empty.write (Volume.path "f.conf") (.data (Bytes.ofString "db\u00a0x"))) ["db"]
      "f.conf" = .error (.crash .cutCharacter) := by
  have hread : (Volume.empty.write (Volume.path "f.conf")
      (.data (Bytes.ofString "db\u00a0x"))).readText "f.conf" = .ok "db\u00a0x" :=
    Volume.readText_write (by decide +kernel) (by decide +kernel) _
  have hparse : parse "db\u00a0x" = .error (.cutCharacter 1) := by decide +kernel
  simp only [load, hread, hparse]

end FlagFile

end Rendezvous
