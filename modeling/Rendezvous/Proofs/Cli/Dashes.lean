import Rendezvous.Cli.Invocation
import Rendezvous.Proofs.Cli.Spelling

/-!
# Rendezvous.Proofs.Cli.Dashes

What becomes of long flags that are written behind one dash only: they get a second dash, and
nothing else is changed. The arguments are told apart by their places. Those behind the
program's name are looked at up to the first two dashes that stand alone; since no argument
becomes two such dashes, and none needs a third dash, arguments that were normalized once stay
as they are, also with the values of a flag file behind them.

* `Leads`, `SingleDashed`, `isSingleDashed_iff`: long flags behind one dash, told without a scan;
* `BeforeDashes`, `getElem?_normalizeArgs_of_before`, `getElem?_normalizeArgs_of_not`: what
  stands at each place;
* `Normalized`, `Normalized.normalizeArgs_eq`: arguments that are left alone;
* `withFlagFile_eq_parse`: arguments with a flag file are those that a parse would read;
* `normalizeArgs_doubles_dashes`: what changes and what does not.
-/

namespace Rendezvous.Cli

/-! ### Long flags behind one dash -/

/-- A name by which some command knows a flag: the long one or another, but not the letter. -/
def IsLongName (name : String) : Prop := ∃ c : Command, ∃ f ∈ c.flags, name ∈ f.names

/-- The part of a text in front of its first equality sign, or all of a text without one. -/
inductive Leads (name : String) : String → Prop where
  | alone (unsigned : '=' ∉ name.toList) : Leads name name
  | signed (unsigned : '=' ∉ name.toList) (value : String) : Leads name (name ++ "=" ++ value)

/-- An argument that writes a long flag, with a value or without, behind one dash only. -/
def SingleDashed (arg : String) : Prop :=
  ∃ text name, arg = "-" ++ text ∧ text.toList.head? ≠ some '-' ∧ Leads name text ∧
    IsLongName name

theorem mem_longNames_iff {name : String} : name ∈ longNames ↔ IsLongName name := by
  simp only [longNames, List.mem_flatMap, IsLongName, Command.mem_all, true_and]

/-- No long name is as short as a letter. -/
theorem IsLongName.size {name : String} (h : IsLongName name) : 1 < name.utf8ByteSize := by
  have table : ∀ name ∈ longNames, 1 < name.utf8ByteSize := by decide +kernel
  exact table name (mem_longNames_iff.2 h)

theorem Leads.eq_takeWhile {name text : String} (h : Leads name text) :
    name = String.ofList (text.toList.takeWhile (· != '=')) := by
  refine String.toList_inj.1 ?_
  cases h with
  | alone unsigned => simp [List.takeWhile_eq_self_iff.2 (unsigned_of_not_mem unsigned)]
  | signed unsigned value =>
    simp [List.takeWhile_append_of_pos (unsigned_of_not_mem unsigned)]

theorem exists_leads (text : String) : ∃ name, Leads name text := by
  by_cases hsign : '=' ∈ text.toList
  · obtain ⟨name, value, hcut, unsigned⟩ := List.eq_append_cons_of_mem hsign
    obtain rfl : text = String.ofList name ++ "=" ++ String.ofList value :=
      String.toList_inj.1 (by simpa using hcut)
    exact ⟨_, .signed (by simpa using unsigned) _⟩
  · exact ⟨text, .alone hsign⟩

theorem leads_iff {name text : String} :
    Leads name text ↔ name = String.ofList (text.toList.takeWhile (· != '=')) := by
  refine ⟨Leads.eq_takeWhile, ?_⟩
  rintro rfl
  obtain ⟨name, h⟩ := exists_leads text
  rwa [← h.eq_takeWhile]

theorem isSingleDashed_iff {arg : String} :
    isSingleDashed arg.toList = true ↔ SingleDashed arg := by
  constructor
  · intro h
    unfold isSingleDashed at h
    split at h
    case h_1 c rest harg =>
      simp only [Bool.and_eq_true, bne_iff_ne, ne_eq, decide_eq_true_eq,
        List.contains_iff_mem] at h
      obtain ⟨⟨hc, -⟩, hname⟩ := h
      refine ⟨String.ofList (c :: rest), _, ?_, ?_, ?_, mem_longNames_iff.1 hname⟩
      · exact String.toList_inj.1 (by simpa using harg)
      · simpa using hc
      · simp [leads_iff]
    case h_2 => contradiction
  · rintro ⟨text, name, rfl, hdash, hleads, hname⟩
    -- The scan also asks for two bytes behind the dash, which every name brings along.
    have hsize : 1 < text.utf8ByteSize := by
      have := hname.size
      cases hleads with
      | alone => exact this
      | signed _ value => simp only [String.utf8ByteSize_append]; omega
    have hmem := mem_longNames_iff.2 hname
    rw [leads_iff.1 hleads] at hmem
    cases htext : text.toList with
    | nil =>
      obtain rfl : text = "" := String.toList_inj.1 htext
      contradiction
    | cons c rest =>
      have hc : c ≠ '-' := by simpa [htext] using hdash
      have hwhole : String.ofList (c :: rest) = text := by rw [← htext, String.ofList_toList]
      rw [htext] at hmem
      simp [isSingleDashed, htext, hc, hwhole, hsize, hmem]

theorem not_singleDashed_dashes (text : String) : ¬ SingleDashed ("--" ++ text) := by
  rw [← isSingleDashed_iff]
  simp [isSingleDashed]

/-! ### One argument -/

theorem normalizeArg_of_singleDashed {arg : String} (h : SingleDashed arg) :
    normalizeArg arg = "-" ++ arg :=
  if_pos (isSingleDashed_iff.2 h)

theorem normalizeArg_of_not {arg : String} (h : ¬ SingleDashed arg) : normalizeArg arg = arg :=
  if_neg (mt isSingleDashed_iff.1 h)

theorem not_singleDashed_normalizeArg (arg : String) : ¬ SingleDashed (normalizeArg arg) := by
  by_cases h : SingleDashed arg
  · rw [normalizeArg_of_singleDashed h]
    obtain ⟨text, -, rfl, -⟩ := h
    rw [← String.append_assoc]
    exact not_singleDashed_dashes text
  · rwa [normalizeArg_of_not h]

/-- No argument becomes two dashes that stand alone, since one dash alone is no flag. -/
theorem normalizeArg_eq_dashes_iff {arg : String} : normalizeArg arg = "--" ↔ arg = "--" := by
  by_cases h : SingleDashed arg
  · rw [normalizeArg_of_singleDashed h]
    constructor
    · intro heq
      obtain rfl : arg = "-" := String.toList_inj.1 (by simpa using congrArg String.toList heq)
      exact absurd (isSingleDashed_iff.2 h) (by decide)
    · rintro rfl
      exact absurd h (not_singleDashed_dashes "")
  · rw [normalizeArg_of_not h]

theorem dash_append_ne (arg : String) : "-" ++ arg ≠ arg := by
  intro h
  simpa using congrArg String.length h

/-! ### All of them, by their places -/

/-- The argument at a place stands behind the program's name, and no two dashes stand alone
there or at a place between. -/
def BeforeDashes (args : List String) (i : Nat) : Prop :=
  0 < i ∧ ∀ j, 0 < j → j ≤ i → args[j]? ≠ some "--"

theorem length_normalizeRest (args : List String) : (normalizeRest args).length = args.length := by
  induction args with
  | nil => rfl
  | cons arg args ih => by_cases h : arg = "--" <;> simp [normalizeRest, h, ih]

theorem length_normalizeArgs (args : List String) : (normalizeArgs args).length = args.length := by
  cases args with
  | nil => rfl
  | cons program rest => simp [normalizeArgs, length_normalizeRest]

/-- Up to the first two dashes that stand alone each argument is looked at by itself. -/
theorem getElem?_normalizeRest (args : List String) (i : Nat) :
    (normalizeRest args)[i]?
      = if "--" ∈ args.take (i + 1) then args[i]? else args[i]?.map normalizeArg := by
  induction args generalizing i with
  | nil => simp [normalizeRest]
  | cons arg args ih =>
    by_cases h : arg = "--"
    · simp [normalizeRest, h]
    · cases i with
      | zero => simp [normalizeRest, h, Ne.symm h]
      | succ i => simp [normalizeRest, h, Ne.symm h, ih]

theorem beforeDashes_cons_iff {program : String} {rest : List String} {i : Nat} :
    BeforeDashes (program :: rest) (i + 1) ↔ "--" ∉ rest.take (i + 1) := by
  simp only [BeforeDashes, List.mem_iff_getElem?, List.getElem?_take]
  constructor
  · rintro ⟨-, h⟩ ⟨j, hj⟩
    split at hj
    · rename_i hlt
      exact h (j + 1) (by omega) (by omega) (by simpa using hj)
    · contradiction
  · refine fun h => ⟨by omega, fun j hpos hle heq => ?_⟩
    obtain ⟨k, rfl⟩ := Nat.exists_eq_succ_of_ne_zero hpos.ne'
    refine h ⟨k, ?_⟩
    rw [if_pos (by omega)]
    simpa using heq

theorem getElem?_normalizeArgs_of_before {args : List String} {i : Nat}
    (h : BeforeDashes args i) : (normalizeArgs args)[i]? = args[i]?.map normalizeArg := by
  cases args with
  | nil => rfl
  | cons program rest =>
    obtain ⟨i, rfl⟩ := Nat.exists_eq_succ_of_ne_zero h.1.ne'
    rw [normalizeArgs, List.getElem?_cons_succ, List.getElem?_cons_succ, getElem?_normalizeRest,
      if_neg (beforeDashes_cons_iff.1 h)]

theorem getElem?_normalizeArgs_of_not {args : List String} {i : Nat}
    (h : ¬ BeforeDashes args i) : (normalizeArgs args)[i]? = args[i]? := by
  cases args with
  | nil => rfl
  | cons program rest =>
    cases i with
    | zero => rfl
    | succ i =>
      rw [normalizeArgs, List.getElem?_cons_succ, List.getElem?_cons_succ,
        getElem?_normalizeRest, if_pos (not_not.1 (mt beforeDashes_cons_iff.2 h))]

/-- Two dashes stand alone where they did. -/
theorem getElem?_normalizeArgs_eq_dashes_iff {args : List String} {i : Nat} :
    (normalizeArgs args)[i]? = some "--" ↔ args[i]? = some "--" := by
  by_cases h : BeforeDashes args i
  · simp [getElem?_normalizeArgs_of_before h, normalizeArg_eq_dashes_iff]
  · rw [getElem?_normalizeArgs_of_not h]

theorem beforeDashes_normalizeArgs_iff {args : List String} {i : Nat} :
    BeforeDashes (normalizeArgs args) i ↔ BeforeDashes args i := by
  simp only [BeforeDashes, ne_eq, getElem?_normalizeArgs_eq_dashes_iff]

/-! ### Arguments that are left alone -/

/-- Arguments none of which needs a second dash. -/
def Normalized (args : List String) : Prop :=
  ∀ i arg, BeforeDashes args i → args[i]? = some arg → ¬ SingleDashed arg

theorem normalized_normalizeArgs (args : List String) : Normalized (normalizeArgs args) := by
  intro i arg hbefore harg
  rw [beforeDashes_normalizeArgs_iff] at hbefore
  rw [getElem?_normalizeArgs_of_before hbefore, Option.map_eq_some_iff] at harg
  obtain ⟨arg, -, rfl⟩ := harg
  exact not_singleDashed_normalizeArg arg

theorem Normalized.normalizeArgs_eq {args : List String} (h : Normalized args) :
    normalizeArgs args = args := by
  refine List.ext_getElem? fun i => ?_
  by_cases hbefore : BeforeDashes args i
  · rw [getElem?_normalizeArgs_of_before hbefore]
    cases harg : args[i]? with
    | none => rfl
    | some arg => rw [Option.map_some, normalizeArg_of_not (h i arg hbefore harg)]
  · exact getElem?_normalizeArgs_of_not hbefore

theorem Normalized.append {args more : List String} (h : Normalized args)
    (hmore : ∀ arg ∈ more, ¬ SingleDashed arg) : Normalized (args ++ more) := by
  intro i arg hbefore harg
  by_cases hi : i < args.length
  · rw [List.getElem?_append_left hi] at harg
    refine h i arg ⟨hbefore.1, fun j hpos hle => ?_⟩ harg
    have hj := hbefore.2 j hpos hle
    rwa [List.getElem?_append_left (by omega)] at hj
  · rw [List.getElem?_append_right (by omega)] at harg
    exact hmore arg (List.mem_of_getElem? harg)

theorem not_singleDashed_of_fileArgument? {m : Matches} {name value arg : String}
    (h : fileArgument? m name value = some arg) : ¬ SingleDashed arg := by
  unfold fileArgument? at h
  split at h
  · contradiction
  · split at h
    · contradiction
    · split at h <;> injection h with h <;> subst h
      · exact not_singleDashed_dashes _
      · rw [String.append_assoc, String.append_assoc]
        exact not_singleDashed_dashes _

/-- **Arguments with a flag file are read as if they had been given so.** The values of the file
stand behind arguments that were normalized; a parse, which normalizes all of them once more,
would read the same. -/
theorem withFlagFile_eq_parse (m : Matches) (env : Environment) {args : List String}
    (pairs : List (String × String)) (h : args ≠ []) :
    m.withFlagFile env args pairs
      = parse env (normalizeArgs args ++ pairs.filterMap fun p => fileArgument? m p.1 p.2) := by
  have hmore : ∀ arg ∈ pairs.filterMap fun p => fileArgument? m p.1 p.2, ¬ SingleDashed arg := by
    intro arg hmem
    obtain ⟨p, -, harg⟩ := List.mem_filterMap.1 hmem
    exact not_singleDashed_of_fileArgument? harg
  have hprogram : normalizeArgs args ≠ [] := by
    rwa [← List.length_pos_iff, length_normalizeArgs, List.length_pos_iff]
  rw [parse, ((normalized_normalizeArgs args).append hmore).normalizeArgs_eq,
    List.tail_append_of_ne_nil hprogram, Matches.withFlagFile]

/-- **Long flags get the dash that they lack, and nothing else is changed.** There are as many
arguments as before, in their order. The program's name stays, and so does all from the first
two dashes on that stand alone behind it. Any other argument stays too, or has one more dash in
front, just if it is a dash and a text that begins with no dash and is, up to its first equality
sign, a long name of a flag. Done again, this changes nothing. -/
theorem normalizeArgs_doubles_dashes (args : List String) :
    (normalizeArgs args).length = args.length ∧
    (normalizeArgs args)[0]? = args[0]? ∧
    (∀ i, 0 < i → args[i]? = some "--" → (normalizeArgs args).drop i = args.drop i) ∧
    (∀ i arg, args[i]? = some arg →
      ((normalizeArgs args)[i]? = some arg ∨ (normalizeArgs args)[i]? = some ("-" ++ arg)) ∧
      ((normalizeArgs args)[i]? = some ("-" ++ arg) ↔ BeforeDashes args i ∧ SingleDashed arg)) ∧
    normalizeArgs (normalizeArgs args) = normalizeArgs args := by
  refine ⟨length_normalizeArgs args, ?program, ?ended, ?changed,
    (normalized_normalizeArgs args).normalizeArgs_eq⟩
  case program => exact getElem?_normalizeArgs_of_not fun h => absurd h.1 (by omega)
  case ended =>
    intro i hpos hdashes
    refine List.ext_getElem? fun k => ?_
    rw [List.getElem?_drop, List.getElem?_drop]
    exact getElem?_normalizeArgs_of_not fun h => h.2 i hpos (by omega) hdashes
  case changed =>
    intro i arg harg
    -- An argument is never itself with a dash in front, so that only one of the two can stand.
    have hne := dash_append_ne arg
    by_cases hbefore : BeforeDashes args i
    · rw [getElem?_normalizeArgs_of_before hbefore, harg, Option.map_some]
      by_cases h : SingleDashed arg
      · simp [normalizeArg_of_singleDashed h, hbefore, h]
      · simp [normalizeArg_of_not h, h, hne.symm]
    · rw [getElem?_normalizeArgs_of_not hbefore, harg]
      simp [hbefore, hne.symm]

example : normalizeArgs ["rdvp", "genkey", "-type=rsa", "-l", "--", "-pk"]
    = ["rdvp", "genkey", "--type=rsa", "-l", "--", "-pk"] := by
  decide +kernel

end Rendezvous.Cli
