import Mathlib.Data.List.TakeWhile
import Mathlib.Data.String.Basic
import Rendezvous.Cli.Parse
import Rendezvous.Proofs.Data.Outcome

/-!
# Rendezvous.Proofs.Cli.Spelling

How values are given on a command line, told without the reader: an argument opens a flag by
one of its names or by its letter, and the value is attached to it, stands behind it, or is
left out where the flag allows that.

* `IsValue`, `Opens`: arguments that are values, and those that open a flag;
* `Argument.Says`, `Argument.says_of`: how an argument is written that says something;
* `Spells`: arguments that give values to flags, one after another;
* `Spells.run_append`: what is spelled is read as the values that it gives;
* `spells_of_readLine`: what is read was spelled, but for two dashes at its end;
* `readArgs_dashes_append`: behind two dashes nothing more may stand.
-/

namespace Rendezvous.Cli

/-! ### Single arguments -/

/-- An argument that may be the value of the flag in front of it. -/
def IsValue (arg : String) : Prop := arg = "-" ∨ arg.toList.head? ≠ some '-'

/-- The arguments that open a flag, with the value that is attached to them, if one is. -/
inductive Opens (f : Flag) : Option String → String → Prop where
  | long {name} (mem : name ∈ f.names) : Opens f none ("--" ++ name)
  | longWith {name} (mem : name ∈ f.names) (value : String) :
      Opens f (some value) ("--" ++ name ++ "=" ++ value)
  | letter {l} (short : f.short = some l) : Opens f none ("-" ++ String.singleton l)
  | letterWith {l c} (short : f.short = some l) (unsigned : c ≠ '=') (cs : List Char) :
      Opens f (some (String.ofList (c :: cs)))
        ("-" ++ String.singleton l ++ String.ofList (c :: cs))
  | letterWithSign {l} (short : f.short = some l) (value : String) :
      Opens f (some value) ("-" ++ String.singleton l ++ "=" ++ value)

theorem unsigned_of_not_mem {cs : List Char} (unsigned : '=' ∉ cs) :
    ∀ c ∈ cs, (c != '=') = true :=
  fun _ hc => bne_iff_ne.2 fun h => unsigned (h ▸ hc)

namespace Argument

theorem of_long {name : String} (filled : name ≠ "") (unsigned : '=' ∉ name.toList) :
    of ("--" ++ name) = .long name none := by
  obtain ⟨c, cs, hname⟩ : ∃ c cs, name.toList = c :: cs :=
    List.exists_cons_of_ne_nil (by simpa using filled)
  have hsafe := unsigned_of_not_mem (hname ▸ unsigned)
  simp only [of, String.toList_append, show "--".toList = ['-', '-'] from rfl, hname,
    List.cons_append, List.nil_append, List.takeWhile_eq_self_iff.2 hsafe,
    List.dropWhile_eq_nil_iff.2 hsafe]
  rw [← hname, String.ofList_toList]

theorem of_longWith {name : String} (unsigned : '=' ∉ name.toList) (value : String) :
    of ("--" ++ name ++ "=" ++ value) = .long name (some value) := by
  have hsafe := unsigned_of_not_mem unsigned
  have hne : name.toList ++ '=' :: value.toList ≠ [] := by simp
  obtain ⟨c, cs, hrest⟩ := List.exists_cons_of_ne_nil hne
  have harg : ("--" ++ name ++ "=" ++ value).toList = '-' :: '-' :: c :: cs := by
    simp [String.toList_append, ← hrest]
  simp only [of, harg]
  rw [← hrest, List.takeWhile_append_of_pos hsafe, List.dropWhile_append_of_pos hsafe]
  simp

theorem of_short {l : Char} (hl : l ≠ '-') (cs : List Char) :
    of ("-" ++ String.singleton l ++ String.ofList cs) = .short l cs := by
  simp [of, hl]

/-- How an argument is written that says something. -/
inductive Says : Argument → String → Prop where
  | dashes : Says .dashes "--"
  | long (name : String) : Says (.long name none) ("--" ++ name)
  | longWith (name value : String) :
      Says (.long name (some value)) ("--" ++ name ++ "=" ++ value)
  | short (l : Char) (cs : List Char) :
      Says (.short l cs) ("-" ++ String.singleton l ++ String.ofList cs)
  | plain {arg : String} (isValue : IsValue arg) : Says .plain arg

theorem says_of (arg : String) : Says (of arg) arg := by
  unfold of
  split
  case h_1 harg =>
    obtain rfl : arg = "--" := String.toList_inj.1 harg
    exact .dashes
  case h_2 cs _ harg =>
    have hcut := List.takeWhile_append_dropWhile (p := (· != '=')) (l := cs)
    have hsign := List.head?_dropWhile_not (· != '=') cs
    cases hrest : cs.dropWhile (· != '=') with
    | nil =>
      rw [hrest, List.append_nil] at hcut
      obtain rfl : arg = "--" ++ String.ofList cs := String.toList_inj.1 (by simpa using harg)
      rw [hcut]
      exact .long _
    | cons c value =>
      simp only [hrest] at hcut hsign
      obtain rfl : c = '=' := by simpa using hsign
      obtain rfl : arg = "--" ++ String.ofList (cs.takeWhile (· != '=')) ++ "="
          ++ String.ofList value := String.toList_inj.1 (by simpa [harg] using hcut.symm)
      exact .longWith _ _
  case h_3 l rest _ _ harg =>
    obtain rfl : arg = "-" ++ String.singleton l ++ String.ofList rest :=
      String.toList_inj.1 (by simpa using harg)
    exact .short l rest
  case h_4 hdashes hlong hshort =>
    refine .plain ?_
    cases harg : arg.toList with
    | nil => exact .inr (by simp [harg])
    | cons c cs =>
      by_cases hc : c = '-'
      · subst hc
        cases cs with
        | nil => exact .inl (String.toList_inj.1 harg)
        | cons l rest => exact (hshort l rest harg).elim
      · exact .inr (by simpa [harg] using hc)

theorem of_eq_plain {arg : String} (h : IsValue arg) : of arg = .plain := by
  have hsays := says_of arg
  cases harg : of arg with
  | plain => rfl
  | _ =>
    rw [harg] at hsays
    cases hsays
    all_goals simp [IsValue, ← String.toList_inj] at h

end Argument

/-! ### The flags of a command -/

theorem Command.mem_all (c : Command) : c ∈ Command.all := by cases c <;> decide

theorem Command.names_spelled {c : Command} {f : Flag} {name : String} (hf : f ∈ c.flags)
    (hname : name ∈ f.names) : name ≠ "" ∧ name ≠ "help" ∧ '=' ∉ name.toList := by
  have table : ∀ c ∈ Command.all, ∀ f ∈ c.flags, ∀ name ∈ f.names,
      name ≠ "" ∧ name ≠ "help" ∧ '=' ∉ name.toList := by decide +kernel
  exact table c c.mem_all f hf name hname

theorem Command.letter_spelled {c : Command} {f : Flag} {l : Char} (hf : f ∈ c.flags)
    (hl : f.short = some l) : l ≠ '-' ∧ l ≠ 'h' := by
  have table : ∀ c ∈ Command.all, ∀ f ∈ c.flags, f.short ≠ some '-' ∧ f.short ≠ some 'h' := by
    decide +kernel
  have hfree := table c c.mem_all f hf
  constructor <;> rintro rfl
  exacts [hfree.1 hl, hfree.2 hl]

/-- No name belongs to two flags of a command. -/
theorem Command.find?_name {c : Command} {f : Flag} {name : String} (hf : f ∈ c.flags)
    (hname : name ∈ f.names) : (c.flags.find? fun g => g.names.contains name) = some f := by
  have table : ∀ c ∈ Command.all, ∀ f ∈ c.flags, ∀ name ∈ f.names,
      (c.flags.find? fun g => g.names.contains name) = some f := by decide +kernel
  exact table c c.mem_all f hf name hname

theorem Command.find?_letter {c : Command} {f : Flag} {l : Char} (hf : f ∈ c.flags)
    (hl : f.short = some l) : (c.flags.find? fun g => g.short == some l) = some f := by
  have table : ∀ c ∈ Command.all, ∀ f ∈ c.flags, f.short = none ∨
      (c.flags.find? fun g => g.short == f.short) = some f := by decide +kernel
  rcases table c c.mem_all f hf with hnone | hfind
  · simp [hl] at hnone
  · rw [hl] at hfind
    exact hfind

/-! ### Reading one argument -/

variable {env : Environment} {c : Command} {f : Flag} {vs : Values} {w : Option Waiting}

theorem attached_of_ne {d : Char} (hd : d ≠ '=') (cs : List Char) :
    attached (d :: cs) = some (String.ofList (d :: cs)) := by
  unfold attached
  split <;> simp_all

theorem readArg_long {name : String} {value : Option String} {arg : String} (hf : f ∈ c.flags)
    (hname : name ∈ f.names) (harg : Argument.of arg = .long name value) :
    readArg env c vs w arg = flagGiven vs w f value := by
  have hhelp := (Command.names_spelled hf hname).2.1
  unfold readArg
  split
  case h_3 name' value' _ _ h =>
    obtain ⟨rfl, rfl⟩ : name = name' ∧ value = value' := by simpa [harg] using h
    rw [Command.find?_name hf hname]
  all_goals simp_all

theorem readArg_letter {l : Char} {cs : List Char} {arg : String} (hf : f ∈ c.flags)
    (hl : f.short = some l) (harg : Argument.of arg = .short l cs) :
    readArg env c vs w arg = flagGiven vs w f (attached cs) := by
  have hhelp := (Command.letter_spelled hf hl).2
  unfold readArg
  split
  case h_4 h =>
    obtain ⟨rfl, -⟩ : l = 'h' ∧ _ := by simpa [harg] using h
    contradiction
  case h_5 l' cs' _ h =>
    obtain ⟨rfl, rfl⟩ : l = l' ∧ cs = cs' := by simpa [harg] using h
    rw [Command.find?_letter hf hl]
  all_goals simp_all

theorem Opens.readArg {value : Option String} {arg : String} (h : Opens f value arg)
    (hf : f ∈ c.flags) : readArg env c vs w arg = flagGiven vs w f value := by
  cases h with
  | long hname =>
    obtain ⟨filled, -, unsigned⟩ := Command.names_spelled hf hname
    exact readArg_long hf hname (Argument.of_long filled unsigned)
  | longWith hname value =>
    obtain ⟨-, -, unsigned⟩ := Command.names_spelled hf hname
    exact readArg_long hf hname (Argument.of_longWith unsigned value)
  | @letter l hl =>
    have harg := Argument.of_short (Command.letter_spelled hf hl).1 []
    rw [String.ofList_nil, String.append_empty] at harg
    exact readArg_letter hf hl harg
  | @letterWith l d hl unsigned cs =>
    have harg := Argument.of_short (Command.letter_spelled hf hl).1 (d :: cs)
    rw [readArg_letter hf hl harg, attached_of_ne unsigned]
  | @letterWithSign l hl value =>
    have harg := Argument.of_short (Command.letter_spelled hf hl).1 ('=' :: value.toList)
    have hwritten : "-" ++ String.singleton l ++ String.ofList ('=' :: value.toList)
        = "-" ++ String.singleton l ++ "=" ++ value :=
      String.toList_inj.1 (by simp)
    rw [hwritten] at harg
    rw [readArg_letter hf hl harg, attached, String.ofList_toList]

theorem Opens.ne_dashes {value : Option String} {arg : String} (h : Opens f value arg)
    (hf : f ∈ c.flags) : arg ≠ "--" := by
  intro hdashes
  have hchars := congrArg String.toList hdashes
  cases h with
  | long hname => simp [(Command.names_spelled hf hname).1] at hchars
  | longWith hname => simp at hchars
  | letter hl => simp [(Command.letter_spelled hf hl).1] at hchars
  | letterWith hl => simp [(Command.letter_spelled hf hl).1] at hchars
  | letterWithSign hl => simp at hchars

theorem IsValue.ne_dashes {arg : String} (h : IsValue arg) : arg ≠ "--" := by
  rintro rfl
  simp [IsValue] at h

theorem IsValue.readArg {arg : String} (h : IsValue arg) :
    readArg env c vs (some ⟨f, none⟩) arg = .ok (vs, some ⟨f, some arg⟩) := by
  simp [Cli.readArg, Argument.of_eq_plain h]

/-- An argument that is taken opens a flag, or it is the value of the flag that waits. -/
theorem opens_or_isValue {arg : String} {r : Values × Option Waiting}
    (h : readArg env c vs w arg = .ok r) (hne : arg ≠ "--") :
    (∃ f ∈ c.flags, ∃ value, Opens f value arg ∧ flagGiven vs w f value = .ok r) ∨
      IsValue arg ∧ ∃ f, w = some ⟨f, none⟩ ∧ r = (vs, some ⟨f, some arg⟩) := by
  have hsays := Argument.says_of arg
  unfold readArg at h
  split at h
  case h_3 name value _ _ harg =>
    split at h
    case h_1 f hfind =>
      refine .inl ⟨f, List.mem_of_find?_eq_some hfind, value, ?_, h⟩
      have hname : name ∈ f.names := by simpa using List.find?_some hfind
      rw [harg] at hsays
      cases hsays with
      | long => exact .long hname
      | longWith _ v => exact .longWith hname v
    case h_2 => contradiction
  case h_5 l cs _ harg =>
    split at h
    case h_1 f hfind =>
      refine .inl ⟨f, List.mem_of_find?_eq_some hfind, attached cs, ?_, h⟩
      have hl : f.short = some l := by simpa using List.find?_some hfind
      rw [harg] at hsays
      obtain ⟨⟩ := hsays
      cases cs with
      | nil => simpa [attached] using Opens.letter hl
      | cons d cs =>
        by_cases hd : d = '='
        · subst hd
          have hwritten : "-" ++ String.singleton l ++ String.ofList ('=' :: cs)
              = "-" ++ String.singleton l ++ "=" ++ String.ofList cs :=
            String.toList_inj.1 (by simp)
          rw [hwritten]
          exact .letterWithSign hl _
        · rw [attached_of_ne hd]
          exact .letterWith hl hd cs
    case h_2 => contradiction
  case h_6 harg =>
    rw [harg] at hsays
    cases hsays
    contradiction
  case h_7 harg =>
    split at h
    case h_1 f =>
      injection h with h
      rw [harg] at hsays
      cases hsays with
      | plain isValue => exact .inr ⟨isValue, f, rfl, h.symm⟩
    case h_2 => contradiction
  -- Help is asked for, or a flag for it has a value.
  all_goals cases hsettle : settle vs w <;> simp [hsettle] at h

/-! ### Reading all of them -/

/-- What stands behind the arguments of flags: nothing, or two dashes that end them. -/
def ending (ended : Bool) : List String := if ended then ["--"] else []

/-- Arguments that give values to flags of a command, one after another. -/
inductive Spells (c : Command) : List (Flag × String) → List String → Prop where
  | nil : Spells c [] []
  | joined {f value arg given args} (mem : f ∈ c.flags) (opens : Opens f (some value) arg)
      (rest : Spells c given args) : Spells c ((f, value) :: given) (arg :: args)
  | apart {f value arg given args} (mem : f ∈ c.flags) (opens : Opens f none arg)
      (isValue : IsValue value) (rest : Spells c given args) :
      Spells c ((f, value) :: given) (arg :: value :: args)
  | alone {f arg given args} (mem : f ∈ c.flags) (opens : Opens f none arg)
      (allowed : f.valueOptional = true) (rest : Spells c given args) :
      Spells c ((f, "true") :: given) (arg :: args)

theorem Spells.append {given more : List (Flag × String)} {args others : List String}
    (h : Spells c given args) (hmore : Spells c more others) :
    Spells c (given ++ more) (args ++ others) := by
  induction h with
  | nil => exact hmore
  | joined mem opens _ ih => exact .joined mem opens ih
  | apart mem opens isValue _ ih => exact .apart mem opens isValue ih
  | alone mem opens allowed _ ih => exact .alone mem opens allowed ih

theorem Spells.mem_flags {given : List (Flag × String)} {args : List String}
    (h : Spells c given args) : ∀ p ∈ given, p.1 ∈ c.flags := by
  induction h with
  | nil => simp
  | joined mem _ _ ih | apart mem _ _ _ ih | alone mem _ _ _ ih =>
    exact List.forall_mem_cons.2 ⟨mem, ih⟩

/-- Each value takes an argument at least. -/
theorem Spells.eq_nil_iff {given : List (Flag × String)} {args : List String}
    (h : Spells c given args) : given = [] ↔ args = [] := by
  cases h <;> simp

/-- Gives values to flags, one after another. -/
def giveAll (vs : Values) (given : List (Flag × String)) : Except UsageError Values :=
  given.foldlM (fun vs p => give vs p.1 p.2) vs

@[simp] theorem giveAll_cons {p : Flag × String} {given : List (Flag × String)} :
    giveAll vs (p :: given) = give vs p.1 p.2 >>= fun vs => giveAll vs given := rfl

/-- The values on a command line from some point on, where a flag may wait. -/
def run (env : Environment) (c : Command) (vs : Values) (w : Option Waiting)
    (args : List String) : Except UsageError Values := do
  let (vs, w) ← readArgs env c vs w args
  settle vs w

theorem readLine_eq_run (args : List String) : readLine env c args = run env c [] none args := rfl

theorem readArgs_cons {arg : String} (h : arg ≠ "--") (args : List String) :
    readArgs env c vs w (arg :: args)
      = readArg env c vs w arg >>= fun r => readArgs env c r.1 r.2 args := by
  rw [readArgs.eq_def]
  split <;> simp_all

theorem run_cons {arg : String} (h : arg ≠ "--") (args : List String) :
    run env c vs w (arg :: args)
      = readArg env c vs w arg >>= fun r => run env c r.1 r.2 args := by
  simp [run, readArgs_cons h]

theorem run_ending (ended : Bool) : run env c vs w (ending ended) = settle vs w := by
  cases ended <;> rfl

/-- A flag that opens settles the one that waits; what is behind it is read after that. -/
theorem Opens.run_cons {value : Option String} {arg : String} (h : Opens f value arg)
    (hf : f ∈ c.flags) (args : List String) :
    run env c vs w (arg :: args)
      = settle vs w >>= fun vs => match value with
        | some v => give vs f v >>= fun vs => run env c vs none args
        | none => run env c vs (some ⟨f, none⟩) args := by
  rw [Cli.run_cons (h.ne_dashes hf), h.readArg hf]
  cases value <;> simp [flagGiven]

/-- What arguments spell is what they are read as, by the reader that settles one flag late. -/
theorem Spells.run_append {given : List (Flag × String)} {args : List String}
    (h : Spells c given args) (ended : Bool) :
    run env c vs w (args ++ ending ended)
      = settle vs w >>= fun vs => giveAll vs given := by
  induction h generalizing vs w with
  | nil =>
    rw [List.nil_append, run_ending]
    exact (bind_pure _).symm
  | joined mem opens _ ih => simp [opens.run_cons mem, ih, settle]
  | apart mem opens isValue _ ih =>
    simp [opens.run_cons mem, Cli.run_cons isValue.ne_dashes, isValue.readArg, ih, settle]
  | alone mem opens allowed _ ih => simp [opens.run_cons mem, ih, settle, allowed]

/-- What follows the flag that waits, if one does: its value, unless it can do without. -/
def Continues (c : Command) (w : Option Waiting) (args : List String) : Prop :=
  match w with
  | some ⟨f, none⟩ => f ∈ c.flags → ∀ arg, Opens f none arg → ∃ given, Spells c given (arg :: args)
  | _ => ∃ given, Spells c given args

/-- What follows a flag that is settled may follow it at once. -/
theorem continues_of_settle {given : List (Flag × String)} {args : List String} {vs' : Values}
    (hsettle : settle vs w = .ok vs') (h : Spells c given args) : Continues c w args := by
  unfold Continues
  split
  case h_1 f =>
    intro hf arg opens
    have allowed : f.valueOptional = true := by
      by_contra hnot
      simp [settle, hnot] at hsettle
    exact ⟨_, .alone hf opens allowed h⟩
  case h_2 => exact ⟨given, h⟩

/-- What is read was spelled. The induction is on the arguments that are left; it carries what
the flag that waits still needs. -/
theorem continues_of_run {args : List String} {line : Values}
    (h : run env c vs w args = .ok line) :
    ∃ spelled ended, args = spelled ++ ending ended ∧ Continues c w spelled := by
  induction args generalizing vs w with
  | nil => exact ⟨[], false, rfl, continues_of_settle (by simpa [run, readArgs] using h) .nil⟩
  | cons arg args ih =>
    by_cases hne : arg = "--"
    · subst hne
      cases args with
      | nil =>
        exact ⟨[], true, rfl, continues_of_settle (by simpa [run, readArgs] using h) .nil⟩
      | cons other _ => simp [run, readArgs] at h
    · rw [run_cons hne] at h
      obtain ⟨⟨vs', w'⟩, hread, hrest⟩ := bind_eq_ok_iff.1 h
      obtain ⟨spelled, ended, rfl, hcont⟩ := ih hrest
      refine ⟨arg :: spelled, ended, rfl, ?_⟩
      rcases opens_or_isValue hread hne with ⟨f, hf, value, opens, hgiven⟩ | ⟨isValue, f, rfl, hr⟩
      · obtain ⟨vs₁, hsettle, hvalue⟩ := bind_eq_ok_iff.1 hgiven
        obtain ⟨given, hspells⟩ : ∃ given, Spells c given (arg :: spelled) := by
          cases value with
          | none =>
            obtain ⟨rfl, rfl⟩ : vs₁ = vs' ∧ some ⟨f, none⟩ = w' := by
              simpa [pure, Except.pure] using hvalue
            exact hcont hf arg opens
          | some v =>
            obtain ⟨vs₂, -, hr⟩ := bind_eq_ok_iff.1 hvalue
            obtain ⟨rfl, rfl⟩ : vs₂ = vs' ∧ none = w' := by simpa [pure, Except.pure] using hr
            obtain ⟨given, hspells⟩ := hcont
            exact ⟨_, .joined hf opens hspells⟩
        exact continues_of_settle hsettle hspells
      · injection hr with hvs hw
        subst hvs hw
        obtain ⟨given, hspells⟩ := hcont
        exact fun hf a opens => ⟨_, .apart hf opens isValue hspells⟩

/-- What is read was spelled, but for two dashes at its end. -/
theorem spells_of_readLine {args : List String} {line : Values}
    (h : readLine env c args = .ok line) :
    ∃ given spelled ended, args = spelled ++ ending ended ∧ Spells c given spelled := by
  obtain ⟨spelled, ended, hargs, given, hspells⟩ := continues_of_run (w := none) h
  exact ⟨given, spelled, ended, hargs, hspells⟩

/-- What is spelled is read as what it gives. -/
theorem Spells.readLine_append {given : List (Flag × String)} {args : List String}
    (h : Spells c given args) (ended : Bool) :
    readLine env c (args ++ ending ended) = giveAll [] given := by
  rw [readLine_eq_run, h.run_append]
  simp [settle]

/-- Behind two dashes nothing more may stand. -/
theorem readArgs_dashes_append (args more : List String) (arg : String) :
    ∃ e, readArgs env c vs w (args ++ "--" :: arg :: more) = .error e := by
  induction args generalizing vs w with
  | nil => exact ⟨_, rfl⟩
  | cons first args ih =>
    by_cases hne : first = "--"
    · subst hne
      cases args <;> exact ⟨_, rfl⟩
    · rw [List.cons_append, readArgs_cons hne]
      cases readArg env c vs w first with
      | error e => exact ⟨e, rfl⟩
      | ok r => exact ih

theorem readLine_dashes_append (args more : List String) (arg : String) :
    ∃ e, readLine env c (args ++ "--" :: arg :: more) = .error e := by
  obtain ⟨e, h⟩ : ∃ e, readArgs env c [] none (args ++ "--" :: arg :: more) = .error e :=
    readArgs_dashes_append args more arg
  exact ⟨e, by rw [readLine, h, error_bind]⟩

end Rendezvous.Cli
