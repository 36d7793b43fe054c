import Rendezvous.Proofs.Config.FlagFile

/-!
# Rendezvous.Proofs.Config.PlainFile

Flag files of plain lines, told without the reader. A line is blank, a comment, or a setting: a
name with dashes in front of it, an equals sign or blanks, and a value, which is quoted or bare.
Where such a file is not also a table, it is read as the settings of its lines, in their order.

* `FlagFile.ofLines_splitLines`: lines are read as what stands between line feeds;
* `FlagFile.IsName`, `FlagFile.Separates`, `FlagFile.Writes`: the parts of a setting;
* `FlagFile.Says`, `FlagFile.Plain`: what lines and files say; `FlagFile.exists_plain`;
* `FlagFile.Says.ofLine`, `FlagFile.load_plain`.
-/

namespace Rendezvous.FlagFile

/-! ### Lines -/

/-- Blanks around a line make no difference to what it says. -/
theorem ofLine_congr {raw raw' : List Char} (h : Text.trimChars raw = Text.trimChars raw')
    (number : Nat) : ofLine number raw = ofLine number raw' := by
  rw [ofLine, ofLine, h]

theorem ofLine_append_return (number : Nat) (line : List Char) :
    ofLine number (line ++ ['\r']) = ofLine number line :=
  ofLine_congr (Text.trimChars_append_blanks (List.forall_mem_singleton.2 rfl) line) number

theorem ofLine_withoutReturn (number : Nat) (line : List Char) :
    ofLine number (withoutReturn line) = ofLine number line := by
  unfold withoutReturn
  split
  · next hreturn =>
      obtain ⟨front, rfl⟩ := List.getLast?_eq_some_iff.1 hreturn
      rw [List.dropLast_concat, ofLine_append_return]
  · rfl

theorem ofLines_map_withoutReturn (number : Nat) (front back : List (List Char)) :
    ofLines number (front.map withoutReturn ++ back) = ofLines number (front ++ back) := by
  induction front generalizing number with
  | nil => rfl
  | cons line front ih =>
      rw [List.map_cons, List.cons_append, List.cons_append, ofLines, ofLines,
        ofLine_withoutReturn, ih]

/-- An empty line at the end says nothing. -/
theorem ofLines_concat_nil (number : Nat) (lines : List (List Char)) :
    ofLines number (lines ++ [[]]) = ofLines number lines := by
  induction lines generalizing number with
  | nil => rfl
  | cons line lines ih => rw [List.cons_append, ofLines, ofLines, ih]

/-- Lines are read as what stands between line feeds. -/
theorem ofLines_splitLines (number : Nat) (cs : List Char) :
    ofLines number (splitLines cs) = ofLines number (splitLines.split cs) := by
  unfold splitLines
  obtain hparts | ⟨front, last, hparts⟩ := (splitLines.split cs).eq_nil_or_concat
  · rw [hparts]
    rfl
  · simp only [hparts, List.concat_eq_append, List.dropLast_concat, List.getLast?_concat,
      ofLines_map_withoutReturn]
    cases last with
    | nil => simp [ofLines_concat_nil]
    | cons c last => rfl

theorem split_of_not_mem {line : List Char} (h : '\n' ∉ line) : splitLines.split line = [line] := by
  induction line with
  | nil => rfl
  | cons c line ih =>
      have hc : c = '\n' → False := fun e => h (e ▸ List.mem_cons_self)
      rw [splitLines.split.eq_3 _ _ hc, ih fun hmem => h (List.mem_cons_of_mem c hmem)]

theorem split_append {line : List Char} (h : '\n' ∉ line) (rest : List Char) :
    splitLines.split (line ++ '\n' :: rest) = line :: splitLines.split rest := by
  induction line with
  | nil => rfl
  | cons c line ih =>
      have hc : c = '\n' → False := fun e => h (e ▸ List.mem_cons_self)
      rw [List.cons_append, splitLines.split.eq_3 _ _ hc,
        ih fun hmem => h (List.mem_cons_of_mem c hmem)]

/-! ### Settings -/

/-- The names that can be written in a plain line. -/
structure IsName (name : String) : Prop where
  filled : name.toList ≠ []
  plain : ∀ c ∈ name.toList, isSeparator c = false
  undashed : name.toList.head? ≠ some '-'
  uncommented : name.toList.head? ≠ some '#'

/-- A name with dashes in front of it. -/
def dashed (dashes : Nat) (name : String) : List Char := List.replicate dashes '-' ++ name.toList

/-- What may stand between a name and a value. -/
inductive Separates : List Char → Prop where
  | sign : Separates ['=']
  | blanks {c cs} (blank : ∀ d ∈ c :: cs, Text.isBlank d = true ∧ d.toNat < 128) :
      Separates (c :: cs)

/-- How a value is written: in double quotes, or bare where it is not taken for something else. -/
inductive Writes (value : String) : List Char → Prop where
  | quoted : Writes value ('"' :: (value.toList ++ ['"']))
  | bare (trimmed : Text.trimChars value.toList = value.toList)
      (unquoted : ∀ inner, value.toList ≠ '"' :: (inner ++ ['"'])) : Writes value value.toList

/-- What a plain line says. -/
inductive Says : Option (String × String) → List Char → Prop where
  | blank {cs} (h : ∀ c ∈ cs, Text.isBlank c = true) : Says none cs
  | comment {indent} (hindent : ∀ c ∈ indent, Text.isBlank c = true) (cs : List Char) :
      Says none (indent ++ '#' :: cs)
  | setting {indent name separator value written}
      (hindent : ∀ c ∈ indent, Text.isBlank c = true) (dashes : Nat) (hname : IsName name)
      (hseparator : Separates separator) (hvalue : Writes value written) :
      Says (some (name, value))
        (indent ++ (dashed dashes name ++ (separator ++ written)))

/-- A file of plain lines with their settings. Each line ends with a line feed, in front of which
there may be a carriage return, or with the file. -/
inductive Plain : List (String × String) → List Char → Prop where
  | last {found line} (hline : Says found line) (hsingle : '\n' ∉ line) : Plain found.toList line
  | line {found line ending pairs text} (hline : Says found line) (hsingle : '\n' ∉ line)
      (hending : ending = ['\n'] ∨ ending = ['\r', '\n']) (more : Plain pairs text) :
      Plain (found.toList ++ pairs) (line ++ ending ++ text)

/-! ### What settings give -/

variable {line written : List Char} {found : Option (String × String)}
  {pairs : List (String × String)} {name value text : String}

theorem Writes.trimmed (h : Writes value written) : Text.trimChars written = written := by
  cases h with
  | bare trimmed _ => exact trimmed
  | quoted =>
      have hquote : Text.isBlank '"' = false := by decide
      rw [Text.trimChars, Text.trimStart_cons hquote, ← List.cons_append,
        Text.trimEnd_append hquote]
      rfl

theorem Writes.unquote (h : Writes value written) : unquote written = value.toList := by
  cases h with
  | quoted => simp [FlagFile.unquote]
  | bare _ unquoted =>
      unfold FlagFile.unquote
      split
      · next rest hvalue =>
          split
          · next hlast =>
              obtain ⟨inner, rfl⟩ := List.getLast?_eq_some_iff.1 hlast
              exact absurd hvalue (unquoted inner)
          · rfl
      · rfl

namespace IsName

variable (h : IsName name) (dashes number : Nat)
include h

theorem plain_dashed : ∀ c ∈ dashed dashes name, isSeparator c = false := by
  intro c hc
  obtain hdash | hname := List.mem_append.1 hc
  · rw [List.eq_of_mem_replicate hdash]
    rfl
  · exact h.plain c hname

theorem dashed_ne_nil : dashed dashes name ≠ [] :=
  List.append_ne_nil_of_right_ne_nil _ h.filled

/-- The dashes are dropped, and no more. -/
theorem flagName_dashed : flagName (dashed dashes name) = name := by
  have hdashes : ∀ c ∈ List.replicate dashes '-', (c == '-') = true := fun c hc =>
    beq_iff_eq.2 (List.eq_of_mem_replicate hc)
  have hname : name.toList.dropWhile (· == '-') = name.toList := by
    obtain ⟨c, cs, hcs⟩ := List.exists_cons_of_ne_nil h.filled
    have hc : c ≠ '-' := fun e => h.undashed (by rw [hcs, e]; rfl)
    rw [hcs, List.dropWhile_cons_of_neg (by simpa using hc)]
  rw [flagName, Text.trimChars_eq_self (not_isBlank (h.plain_dashed dashes)), dashed,
    List.dropWhile_append_of_pos hdashes, hname, String.ofList_toList]

theorem named_dashed : named number (dashed dashes name) value = .ok (some (name, value)) := by
  have hfilled : ¬ name.isEmpty = true := fun hempty =>
    h.filled (String.toList_eq_nil_iff.2 (String.isEmpty_iff.1 hempty))
  rw [named, h.flagName_dashed, if_neg hfilled]

/-- A line that starts with a name is no comment. -/
theorem not_idle {rest : List Char} (hline : Text.trimChars line = dashed dashes name ++ rest) :
    ¬ Idle line := by
  rintro (hempty | ⟨comment, hcomment⟩)
  · rw [hline] at hempty
    exact h.dashed_ne_nil dashes (List.append_eq_nil_iff.1 hempty).1
  · rw [hline] at hcomment
    have hhead := congrArg List.head? hcomment
    cases dashes with
    | zero =>
        obtain ⟨c, cs, hcs⟩ := List.exists_cons_of_ne_nil h.filled
        refine h.uncommented ?_
        simpa [dashed, hcs] using hhead
    | succ dashes =>
        rw [dashed, List.replicate_succ] at hhead
        cases hhead

end IsName

/-- Every list of settings can be written, with all values quoted. -/
theorem exists_plain (h : ∀ p ∈ pairs, IsName p.1 ∧ '\n' ∉ p.2.toList) :
    ∃ cs, Plain pairs cs := by
  induction pairs with
  | nil => exact ⟨[], .last (.blank (List.forall_mem_nil _)) List.not_mem_nil⟩
  | cons p pairs ih =>
      obtain ⟨cs, hcs⟩ := ih fun q hq => h q (List.mem_cons_of_mem p hq)
      obtain ⟨hname, hvalue⟩ := h p List.mem_cons_self
      have hdashed : '\n' ∉ dashed 0 p.1 := fun hmem =>
        Bool.false_ne_true ((hname.plain_dashed 0 _ hmem).symm.trans rfl)
      have hline : Says (some p)
          ([] ++ (dashed 0 p.1 ++ (['='] ++ '"' :: (p.2.toList ++ ['"'])))) :=
        .setting (List.forall_mem_nil _) 0 hname .sign .quoted
      exact ⟨_, .line hline (by simp [hdashed, hvalue]) (.inl rfl) hcs⟩

/-- A setting gives its name and its value. -/
theorem ofLine_setting {indent separator : List Char}
    (hindent : ∀ c ∈ indent, Text.isBlank c = true) (dashes : Nat) (hname : IsName name)
    (hseparator : Separates separator) (hvalue : Writes value written) (number : Nat) :
    ofLine number (indent ++ (dashed dashes name ++ (separator ++ written))) =
      .ok (some (name, value)) := by
  generalize hraw : indent ++ (dashed dashes name ++ (separator ++ written)) = raw
  have hplain := hname.plain_dashed dashes
  have htrim : Text.trimChars raw = dashed dashes name ++ Text.trimEnd (separator ++ written) := by
    rw [← hraw, Text.trimChars_blanks_append hindent,
      Text.trimChars_append (hname.dashed_ne_nil dashes) (not_isBlank hplain)]
  have hidle : ¬ Idle raw := hname.not_idle dashes htrim
  have hend : Text.trimEnd written = written := Text.trimEnd_of_trimChars hvalue.trimmed
  cases hseparator with
  | sign =>
      have hline : Text.trimChars raw = dashed dashes name ++ '=' :: written := by
        rw [htrim, List.singleton_append, ← List.nil_append ('=' :: written),
          Text.trimEnd_append (by decide), hend, List.nil_append]
      have hdivided : Divided raw (dashed dashes name) '=' written :=
        ⟨hidle, hline, hplain, rfl⟩
      rw [ofLine_divided hdivided, if_neg (by decide), hvalue.trimmed, hvalue.unquote,
        String.ofList_toList, hname.named_dashed]
  | @blanks c cs hblanks =>
      by_cases hwritten : written = []
      · -- Blanks in front of nothing are trimmed, and the name is left.
        subst hwritten
        have hnone : value = "" := (String.toList_eq_nil_iff.1 hvalue.unquote.symm)
        have hline : Text.trimChars raw = dashed dashes name := by
          rw [htrim, List.append_nil, Text.trimEnd_blanks fun d hd => (hblanks d hd).1,
            List.append_nil]
        rw [ofLine_whole ⟨hidle, hline ▸ hplain⟩, hline, hname.named_dashed, hnone]
      · have hline : Text.trimChars raw = dashed dashes name ++ c :: (cs ++ written) := by
          rw [htrim, Text.trimEnd_append_of_ne_nil (by rwa [hend]), hend, List.cons_append]
        have hc := hblanks c List.mem_cons_self
        have hnarrow : c.utf8Size = 1 := Char.utf8Size_eq_one_iff.2 (Nat.le_of_lt_succ hc.2)
        have hdivided : Divided raw (dashed dashes name) c (cs ++ written) :=
          ⟨hidle, hline, hplain, by rw [isSeparator, hc.1, Bool.or_true]⟩
        have hcs : ∀ d ∈ cs, Text.isBlank d = true := fun d hd =>
          (hblanks d (List.mem_cons_of_mem c hd)).1
        rw [ofLine_divided hdivided, if_neg (not_not.2 hnarrow), Text.trimChars_blanks_append hcs,
          hvalue.trimmed, hvalue.unquote, String.ofList_toList, hname.named_dashed]

/-- A line is read as what it says. -/
theorem Says.ofLine (h : Says found line) (number : Nat) : ofLine number line = .ok found := by
  cases h with
  | blank h => exact ofLine_idle (.inl (Text.trimChars_blanks h)) number
  | comment hindent cs =>
      refine ofLine_idle (.inr ⟨Text.trimEnd cs, ?_⟩) number
      rw [Text.trimChars_blanks_append hindent, Text.trimChars, Text.trimStart_cons (by decide)]
      exact Text.trimEnd_append (by decide) [] cs
  | setting hindent dashes hname hseparator hvalue =>
      exact ofLine_setting hindent dashes hname hseparator hvalue number

/-! ### What files give -/

theorem ofLines_plain {cs : List Char} (h : Plain pairs cs) (number : Nat) :
    ofLines number (splitLines.split cs) = .ok pairs := by
  induction h generalizing number with
  | last hline hsingle =>
      rw [split_of_not_mem hsingle, ofLines, hline.ofLine, ok_bind, ofLines, ok_bind,
        List.append_nil]
      rfl
  | @line found line ending pairs text hline hsingle hending hmore ih =>
      obtain ⟨part, hpart, hsplit⟩ : ∃ part, ofLine number part = .ok found ∧
          splitLines.split (line ++ ending ++ text) = part :: splitLines.split text := by
        obtain rfl | rfl := hending
        · refine ⟨line, hline.ofLine number, ?_⟩
          rw [List.append_assoc, List.singleton_append, split_append hsingle]
        · refine ⟨line ++ ['\r'], (ofLine_append_return number line).trans
            (hline.ofLine number), ?_⟩
          have hreturn : '\n' ∉ line ++ ['\r'] := by simp [hsingle]
          rw [← split_append hreturn]
          simp
      rw [hsplit, ofLines, hpart, ok_bind, ih, ok_bind]
      rfl

theorem unknown?_eq_none {known : List String} (h : ∀ p ∈ pairs, p.1 ∈ known) :
    unknown? known pairs = none := by
  rw [unknown?, List.find?_eq_none.2 fun p hp => by simpa using h p hp, Option.map_none]

theorem unknown?_append_cons {known : List String} (hknown : ∀ p ∈ pairs, p.1 ∈ known)
    (hname : name ∉ known) (value : String) (back : List (String × String)) :
    unknown? known (pairs ++ (name, value) :: back) = some name := by
  have hnone : pairs.find? (fun p => !known.contains p.1) = none :=
    List.find?_eq_none.2 fun p hp => by simpa using hknown p hp
  rw [unknown?, List.find?_append, hnone, Option.none_or, List.find?_cons_of_pos (by simpa)]
  rfl

/-- A file of plain lines that is no table is read as its settings, in their order. It is loaded
if all their names are known, and refused for the first one that is not. -/
theorem load_plain (h : Plain pairs text.toList) (htable : ¬ IsTable text) :
    parse text = .ok pairs ∧
      ∀ (v : Volume) (known : List String) (path : String), v.readText path = .ok text →
        ((∀ p ∈ pairs, p.1 ∈ known) → load v known path = .ok pairs) ∧
        ∀ front name value back, pairs = front ++ (name, value) :: back →
          (∀ p ∈ front, p.1 ∈ known) → name ∉ known →
          load v known path = .error (.error (.unknownFlag path name)) := by
  have hparse : parse text = .ok pairs := by
    rw [parse_lines htable, ofLines_splitLines, ofLines_plain h]
  refine ⟨hparse, fun v known path hread => ⟨fun hknown => ?_, ?_⟩⟩
  · simp only [load, hread, hparse, unknown?_eq_none hknown]
  · rintro front name value back rfl hfront hname
    simp only [load, hread, hparse, unknown?_append_cons hfront hname]

theorem load_plain_mixed :
    Plain [("db", "./a store"), ("log.format", "json=")]
        "# kept\r\n\n  --db=\"./a store\"\nlog.format\t json=\r\n".toList ∧
      ¬ IsTable "# kept\r\n\n  --db=\"./a store\"\nlog.format\t json=\r\n" ∧
      ∃ v : Volume, v.readText "f.conf"
          = .ok "# kept\r\n\n  --db=\"./a store\"\nlog.format\t json=\r\n" ∧
        load v ["db", "log.format"] "f.conf"
          = .ok [("db", "./a store"), ("log.format", "json=")] ∧
        load v ["db"] "f.conf" = .error (.error (.unknownFlag "f.conf" "log.format")) := by
  generalize htext : "# kept\r\n\n  --db=\"./a store\"\nlog.format\t json=\r\n" = text
  have hplain : ∀ name : String, name.toList.all (!isSeparator ·) = true →
      ∀ c ∈ name.toList, isSeparator c = false := fun name h c hc => by
    simpa using List.all_eq_true.1 h c hc
  have hcomment : Says none ([] ++ '#' :: " kept".toList) := .comment (List.forall_mem_nil _) _
  have hblank : Says none [] := .blank (List.forall_mem_nil _)
  have hdb : Says (some ("db", "./a store"))
      ([' ', ' '] ++ (dashed 2 "db" ++ (['='] ++ '"' :: ("./a store".toList ++ ['"'])))) :=
    .setting (List.forall_mem_cons.2 ⟨rfl, List.forall_mem_singleton.2 rfl⟩) 2
      ⟨by decide, hplain _ (by decide), by decide, by decide⟩ .sign .quoted
  have hformat : Says (some ("log.format", "json="))
      ([] ++ (dashed 0 "log.format" ++ (['\t', ' '] ++ "json=".toList))) :=
    .setting (List.forall_mem_nil _) 0
      ⟨by decide, hplain _ (by decide), by decide, by decide⟩
      (.blanks (List.forall_mem_cons.2 ⟨by decide, List.forall_mem_singleton.2 (by decide)⟩))
      (.bare (by decide) fun inner h => by cases h)
  have hlines : Plain [("db", "./a store"), ("log.format", "json=")] text.toList := by
    rw [← htext]
    exact .line hcomment (by decide) (.inr rfl) (.line hblank (by decide) (.inl rfl)
      (.line hdb (by decide) (.inl rfl) (.line hformat (by decide) (.inr rfl)
        (.last hblank (by decide)))))
  have htable : ¬ IsTable text := by
    rintro ⟨entry, entries, h⟩
    have hnone : (Toml.parse? text).isNone = true := by
      rw [← htext]
      decide +kernel
    rw [h] at hnone
    cases hnone
  have hread : (Volume.empty.write (Volume.path "f.conf") (.data (Bytes.ofString text))).readText
      "f.conf" = .ok text := Volume.readText_write (by decide +kernel) (by decide +kernel) text
  obtain ⟨-, hload⟩ := load_plain hlines htable
  refine ⟨hlines, htable, _, hread, (hload _ _ _ hread).1 (by decide), ?_⟩
  exact (hload _ _ _ hread).2 [("db", "./a store")] "log.format" "json=" [] rfl (by decide)
    (by decide)

end Rendezvous.FlagFile
