import Rendezvous.Cli.Execution
import Rendezvous.Proofs.Bytes.Basic
import Rendezvous.Proofs.Cli.Spelling

/-!
# Rendezvous.Proofs.Cli.Precedence

Which of its values a flag takes when a flag file is named: the last one on the command line,
else its variable's, else that of the last line of the file that names it, else its usual one.
The values of the file are put behind the arguments, and everything is read again; so they are
taken unless the arguments end with two dashes, behind which no flag may stand.

* `lastGiven`, `stated`, `lastFiled`, `chosen`: the values that a flag may take, and which one
  it does;
* `matchesOf`, `Command.read_spelled`: arguments that spell values, read;
* `filed`, `Spells.filed`: what a file puts behind the arguments spells the values that it gives;
* `withFlagFile_of_open`, `withFlagFile_of_ended`: the arguments with the file;
* `withNamedFile_chosen_iff`: which value a flag takes.
-/

namespace Rendezvous.Cli

/-! ### Values of a flag -/

/-- The last value that the command line gives to a flag. -/
def lastGiven (given : List (Flag × String)) (f : Flag) : Option String := given.reverse.lookup f

/-- The value that the command line gives to a flag, or else its variable. -/
def stated (env : Environment) (given : List (Flag × String)) (f : Flag) : Option String :=
  (lastGiven given f).or (env.lookup f.env)

/-- The value that a line of a file gives to a flag. One that may stand alone is then true. -/
def Flag.filed (f : Flag) (value : String) : String :=
  if value = "" ∧ f.valueOptional then "true" else value

/-- The value that the last line of a file gives to a flag, by any of its names. -/
def lastFiled (pairs : List (String × String)) (f : Flag) : Option String :=
  (pairs.reverse.find? fun p => f.isNamed p.1).map fun p => f.filed p.2

/-- The value that a flag takes. -/
def chosen (env : Environment) (given : List (Flag × String)) (pairs : List (String × String))
    (f : Flag) : Option String :=
  (stated env given f).or ((lastFiled pairs f).or f.default)

/-! ### The tables that a reading leaves -/

variable {env : Environment} {c : Command} {f : Flag} {vs line : Values}

theorem Command.find?_long {c : Command} {f : Flag} (hf : f ∈ c.flags) :
    (c.flags.find? fun g => g.long == f.long) = some f := by
  have table : ∀ c ∈ Command.all, ∀ f ∈ c.flags,
      (c.flags.find? fun g => g.long == f.long) = some f := by decide +kernel
  exact table c c.mem_all f hf

theorem Command.long_injective {c : Command} {f g : Flag} (hf : f ∈ c.flags) (hg : g ∈ c.flags)
    (h : f.long = g.long) : f = g := by
  have hfind := Command.find?_long hf
  rw [h, Command.find?_long hg] at hfind
  exact (Option.some.inj hfind).symm

/-- The table of values that were given one after another. -/
def lineOf (given : List (Flag × String)) : Values :=
  (given.map fun p => (p.1.long, p.2)).reverse

theorem giveAll_eq_ok_iff {given : List (Flag × String)} :
    giveAll vs given = .ok line ↔
      (∀ p ∈ given, checkValue p.1 p.2 = .ok ()) ∧ line = lineOf given ++ vs := by
  induction given generalizing vs with
  | nil => simp [giveAll, lineOf, pure, Except.pure, eq_comm]
  | cons p given ih =>
    rw [giveAll_cons]
    simp only [bind_eq_ok_iff, ih, List.forall_mem_cons]
    cases hcheck : checkValue p.1 p.2 with
    | error e => simp [give, hcheck, Except.map]
    | ok u => simp [give, hcheck, Except.map, lineOf]

theorem lookup_lineOf {given : List (Flag × String)} (hgiven : ∀ p ∈ given, p.1 ∈ c.flags)
    (hf : f ∈ c.flags) : (lineOf given).lookup f.long = lastGiven given f := by
  -- The table is keyed by long names, which tell the flags of one command apart.
  have general : ∀ l : List (Flag × String), (∀ p ∈ l, p.1 ∈ c.flags) →
      (l.map fun p => (p.1.long, p.2)).lookup f.long = l.lookup f := by
    intro l hl
    induction l with
    | nil => rfl
    | cons p l ih =>
      obtain ⟨g, value⟩ := p
      obtain ⟨hg, hl⟩ := List.forall_mem_cons.1 hl
      by_cases h : f = g
      · simp [h]
      · have hlong : f.long ≠ g.long := fun heq => h (Command.long_injective hf hg heq)
        simp [List.lookup_cons, beq_eq_false_iff_ne.2 h, beq_eq_false_iff_ne.2 hlong, ih hl]
  rw [lineOf, ← List.map_reverse, lastGiven]
  exact general _ (by simpa using hgiven)

/-- The entry that a variable makes for a flag without a value on the command line. -/
def fromVariable (env : Environment) (line : Values) (f : Flag) : Option (String × String) :=
  match line.lookup f.long, env.lookup f.env with
  | none, some v => some (f.long, v)
  | _, _ => none

theorem fromVariable_eq_some {v : String} (hline : line.lookup f.long = none)
    (henv : env.lookup f.env = some v) : fromVariable env line f = some (f.long, v) := by
  rw [fromVariable, hline, henv]

theorem fromVariable_key {p : String × String} (h : fromVariable env line f = some p) :
    p.1 = f.long := by
  unfold fromVariable at h
  split at h
  · injection h with h
    rw [← h]
  · contradiction

theorem readVariables_eq_ok_iff {vars : Values} {fs : List Flag} :
    readVariables env line fs = .ok vars ↔
      (∀ f ∈ fs, ∀ v, line.lookup f.long = none → env.lookup f.env = some v →
        checkValue f v = .ok ()) ∧ vars = fs.filterMap (fromVariable env line) := by
  induction fs generalizing vars with
  | nil =>
    rw [readVariables, Except.ok.injEq, List.filterMap_nil]
    exact ⟨fun h => ⟨by simp, h.symm⟩, fun h => h.2.symm⟩
  | cons f fs ih =>
    rw [List.forall_mem_cons]
    unfold readVariables
    split
    case h_1 v hline henv =>
      simp only [List.filterMap_cons_some (fromVariable_eq_some hline henv), hline, henv,
        Option.some.injEq, forall_const, forall_eq']
      cases hcheck : checkValue f v with
      | error e => simp
      | ok u =>
        simp only [ok_bind, bind_eq_ok_iff, ih, pure, Except.pure, Except.ok.injEq, true_and]
        constructor
        · rintro ⟨vs, ⟨hfit, rfl⟩, rfl⟩
          exact ⟨hfit, rfl⟩
        · rintro ⟨hfit, rfl⟩
          exact ⟨_, ⟨hfit, rfl⟩, rfl⟩
    case h_2 hother =>
      have hentry : fromVariable env line f = none := by
        unfold fromVariable
        split
        case h_1 v hline henv => exact (hother v hline henv).elim
        case h_2 => rfl
      rw [ih, List.filterMap_cons_none hentry, and_assoc]
      exact (and_iff_right fun v hline henv => (hother v hline henv).elim).symm

theorem eq_of_fromVariable {g : Flag} {p : String × String} (hf : f ∈ c.flags) (hg : g ∈ c.flags)
    (h : fromVariable env line g = some p) (hkey : f.long = p.1) : f = g :=
  Command.long_injective hf hg (hkey.trans (fromVariable_key h))

theorem lookup_fromVariable (hf : f ∈ c.flags) (hline : line.lookup f.long = none) :
    (c.flags.filterMap (fromVariable env line)).lookup f.long = env.lookup f.env := by
  cases henv : env.lookup f.env with
  | none =>
    refine List.lookup_eq_none_iff.2 fun p hp => bne_iff_ne.2 fun hkey => ?_
    obtain ⟨g, hg, hentry⟩ := List.mem_filterMap.1 hp
    obtain rfl := eq_of_fromVariable hf hg hentry hkey
    simp [fromVariable, hline, henv] at hentry
  | some v =>
    -- Flags in front of this one make entries of their own, under other names.
    have general : ∀ fs : List Flag, (∀ g ∈ fs, g ∈ c.flags) → f ∈ fs →
        (fs.filterMap (fromVariable env line)).lookup f.long = some v := by
      intro fs hfs hmem
      induction fs with
      | nil => contradiction
      | cons g fs ih =>
        obtain ⟨hg, hfs⟩ := List.forall_mem_cons.1 hfs
        by_cases h : f = g
        · subst h
          simp [List.filterMap_cons_some (fromVariable_eq_some hline henv)]
        · have hrest := ih hfs ((List.mem_cons.1 hmem).resolve_left h)
          cases hentry : fromVariable env line g with
          | none => rw [List.filterMap_cons_none hentry, hrest]
          | some p =>
            have hkey : (f.long == p.1) = false :=
              beq_eq_false_iff_ne.2 fun heq => h (eq_of_fromVariable hf hg hentry heq)
            rw [List.filterMap_cons_some hentry, List.lookup_cons, hkey, hrest]
    exact general c.flags (fun _ => id) hf

/-! ### Arguments that spell values -/

/-- What arguments and variables give, where the arguments spell some values. -/
def matchesOf (env : Environment) (given : List (Flag × String)) : Matches :=
  ⟨.serve, lineOf given, Command.serve.flags.filterMap (fromVariable env (lineOf given))⟩

/-- Values fit their flags: those that are given, and those that variables have for others. -/
structure Fitting (env : Environment) (given : List (Flag × String)) : Prop where
  onLine : ∀ p ∈ given, checkValue p.1 p.2 = .ok ()
  byVariable : ∀ f ∈ Command.serve.flags, ∀ v, lastGiven given f = none →
    env.lookup f.env = some v → checkValue f v = .ok ()

theorem Command.read_eq_ok {args : List String} {m : Matches} (h : c.read env args = .ok m) :
    ∃ line vars, readLine env c args = .ok line ∧
      readVariables env line c.flags = .ok vars ∧ m = ⟨c, line, vars⟩ := by
  obtain ⟨line, hline, h⟩ := bind_eq_ok_iff.1 h
  obtain ⟨vars, hvars, h⟩ := bind_eq_ok_iff.1 h
  refine ⟨line, vars, hline, hvars, ?_⟩
  dsimp only at h
  split at h
  · injection h with h
    exact h.symm
  · contradiction

/-- Arguments that spell values are read if all values fit, and then as just these values. -/
theorem Command.read_spelled {given : List (Flag × String)} {args : List String} {m : Matches}
    (h : Spells .serve given args) (ended : Bool) :
    Command.serve.read env (args ++ ending ended) = .ok m ↔
      Fitting env given ∧ m = matchesOf env given := by
  have hvariables : ∀ vars, readVariables env (lineOf given) Command.serve.flags = .ok vars ↔
      (∀ f ∈ Command.serve.flags, ∀ v, lastGiven given f = none → env.lookup f.env = some v →
        checkValue f v = .ok ()) ∧
      vars = Command.serve.flags.filterMap (fromVariable env (lineOf given)) := by
    intro vars
    rw [readVariables_eq_ok_iff]
    refine and_congr_left' (forall₂_congr fun f hf => ?_)
    rw [lookup_lineOf h.mem_flags hf]
  constructor
  · intro hread
    obtain ⟨line, vars, hline, hvars, rfl⟩ := Command.read_eq_ok hread
    rw [h.readLine_append, giveAll_eq_ok_iff, List.append_nil] at hline
    obtain ⟨hgiven, rfl⟩ := hline
    obtain ⟨hfit, rfl⟩ := (hvariables vars).1 hvars
    exact ⟨⟨hgiven, hfit⟩, rfl⟩
  · rintro ⟨hfit, rfl⟩
    have hline : readLine env .serve (args ++ ending ended) = .ok (lineOf given) := by
      rw [h.readLine_append, giveAll_eq_ok_iff, List.append_nil]
      exact ⟨hfit.onLine, rfl⟩
    have hvars := (hvariables _).2 ⟨hfit.byVariable, rfl⟩
    -- No flag of a node is required, so that nothing can be missing.
    have hrequired : ∀ m : Matches,
        (Command.serve.flags.filter fun f => f.required && (m.value? f).isNone) = [] := by
      intro m
      have table : ∀ f ∈ Command.serve.flags, f.required = false := by decide
      exact List.filter_eq_nil_iff.2 fun f hf => by simp [table f hf]
    simp only [Command.read, hline, ok_bind, hvars, hrequired]
    rfl

theorem Matches.value?_eq (m : Matches) (f : Flag) :
    (m.value? f).map (·.2)
      = (m.line.lookup f.long).or ((m.environment.lookup f.long).or f.default) := by
  unfold value?
  split
  case h_1 hline => rw [hline]; rfl
  case h_2 hline henv => rw [hline, henv]; rfl
  case h_3 hline henv husual => rw [hline, henv, husual]; rfl
  case h_4 hline henv husual => rw [hline, henv, husual]; rfl

/-- A flag without a value on the command line has its variable's. -/
theorem lookup_matchesOf {given : List (Flag × String)}
    (hgiven : ∀ p ∈ given, p.1 ∈ Command.serve.flags) (hf : f ∈ Command.serve.flags) :
    ((matchesOf env given).line.lookup f.long).or ((matchesOf env given).environment.lookup f.long)
      = stated env given f := by
  have hline := lookup_lineOf hgiven hf
  cases hlast : lastGiven given f with
  | some v => simp [matchesOf, hline, hlast, stated]
  | none =>
    rw [hlast] at hline
    simp only [matchesOf, hline, lookup_fromVariable hf hline, stated, hlast]

theorem matchesOf_get? {given : List (Flag × String)}
    (hgiven : ∀ p ∈ given, p.1 ∈ Command.serve.flags) (hf : f ∈ Command.serve.flags) :
    (matchesOf env given).get? f.long = (stated env given f).or f.default := by
  have hfind : (matchesOf env given).command.flags.find? (·.long == f.long) = some f :=
    Command.find?_long hf
  rw [Matches.get?, hfind, Option.bind_some, Matches.value?_eq, ← Option.or_assoc,
    lookup_matchesOf hgiven hf]

theorem matchesOf_isExplicit (env : Environment) {given : List (Flag × String)}
    (hgiven : ∀ p ∈ given, p.1 ∈ Command.serve.flags) (hf : f ∈ Command.serve.flags) :
    (matchesOf env given).isExplicit f = (stated env given f).isSome := by
  rw [Matches.isExplicit, ← lookup_matchesOf hgiven hf, Option.isSome_or]

/-! ### What a file puts behind the arguments -/

/-- The value that a line of a file gives, if its flag has none but its usual one. -/
def filedFor (env : Environment) (given : List (Flag × String)) (p : String × String) :
    Option (Flag × String) :=
  (fileFlags.find? (·.isNamed p.1)).bind fun f =>
    if (stated env given f).isSome then none else some (f, f.filed p.2)

/-- The values that a file gives. -/
def filed (env : Environment) (given : List (Flag × String)) (pairs : List (String × String)) :
    List (Flag × String) :=
  pairs.filterMap (filedFor env given)

theorem mem_flags_of_fileFlags (hf : f ∈ fileFlags) : f ∈ Command.serve.flags :=
  (List.mem_filter.1 hf).1

/-- The flags that may be named in a file are told apart by their names. -/
theorem find?_isNamed_iff {name : String} (hname : name ∈ fileNames)
    (hf : f ∈ Command.serve.flags) :
    fileFlags.find? (·.isNamed name) = some f ↔ f.isNamed name = true := by
  have table : ∀ name ∈ fileNames, ∀ f ∈ Command.serve.flags,
      (fileFlags.find? (·.isNamed name) = some f ↔ f.isNamed name = true) := by decide +kernel
  exact table name hname f hf

theorem of_filedFor {given : List (Flag × String)} {p : String × String} {q : Flag × String}
    (h : filedFor env given p = some q) :
    q.1 ∈ fileFlags ∧ q.1.isNamed p.1 = true ∧ stated env given q.1 = none ∧
      q.2 = q.1.filed p.2 := by
  obtain ⟨g, hfind, hentry⟩ := Option.bind_eq_some_iff.1 h
  split at hentry
  · contradiction
  · rename_i hnone
    injection hentry with hentry
    subst hentry
    exact ⟨List.mem_of_find?_eq_some hfind, by simpa using List.find?_some hfind,
      by simpa using hnone, rfl⟩

theorem Spells.filed (env : Environment) {given : List (Flag × String)}
    (hgiven : ∀ p ∈ given, p.1 ∈ Command.serve.flags) (pairs : List (String × String)) :
    Spells .serve (filed env given pairs)
      (pairs.filterMap fun p => fileArgument? (matchesOf env given) p.1 p.2) := by
  induction pairs with
  | nil => exact .nil
  | cons p pairs ih =>
    cases hfind : fileFlags.find? (·.isNamed p.1) with
    | none => simpa [Cli.filed, filedFor, fileArgument?, hfind] using ih
    | some g =>
      have hg := mem_flags_of_fileFlags (List.mem_of_find?_eq_some hfind)
      have hexplicit := matchesOf_isExplicit env hgiven hg
      have hlong : g.long ∈ g.names := List.mem_cons_self
      cases hstated : (stated env given g).isSome with
      | true =>
        simpa [Cli.filed, filedFor, fileArgument?, hfind, hexplicit, hstated] using ih
      | false =>
        have hentry : filedFor env given p = some (g, g.filed p.2) := by
          simp [filedFor, hfind, hstated]
        rw [Cli.filed, List.filterMap_cons_some hentry]
        by_cases hempty : p.2 = "" ∧ g.valueOptional = true
        · have harg : fileArgument? (matchesOf env given) p.1 p.2 = some ("--" ++ g.long) := by
            simp [fileArgument?, hfind, hexplicit, hstated, hempty]
          simp only [List.filterMap_cons, harg, Flag.filed, if_pos hempty]
          exact .alone hg (.long hlong) hempty.2 ih
        · have harg : fileArgument? (matchesOf env given) p.1 p.2
              = some ("--" ++ g.long ++ "=" ++ p.2) := by
            simp [fileArgument?, hfind, hexplicit, hstated, hempty]
          simp only [List.filterMap_cons, harg, Flag.filed, if_neg hempty]
          exact .joined hg (.longWith hlong _) ih

theorem lastGiven_append (given more : List (Flag × String)) (f : Flag) :
    lastGiven (given ++ more) f = (lastGiven more f).or (lastGiven given f) := by
  rw [lastGiven, List.reverse_append, List.lookup_append]
  rfl

/-- A file whose names are known gives a flag the value of the last line that names it. -/
theorem lastGiven_filed {given : List (Flag × String)} {pairs : List (String × String)}
    (hpairs : ∀ p ∈ pairs, p.1 ∈ fileNames) (hf : f ∈ Command.serve.flags)
    (hnone : stated env given f = none) :
    lastGiven (filed env given pairs) f = lastFiled pairs f := by
  have general : ∀ l : List (String × String), (∀ p ∈ l, p.1 ∈ fileNames) →
      (l.filterMap (filedFor env given)).lookup f
        = (l.find? fun p => f.isNamed p.1).map fun p => f.filed p.2 := by
    intro l hl
    induction l with
    | nil => rfl
    | cons p l ih =>
      obtain ⟨hp, hl⟩ := List.forall_mem_cons.1 hl
      cases hnamed : f.isNamed p.1 with
      | true =>
        have hentry : filedFor env given p = some (f, f.filed p.2) := by
          simp [filedFor, (find?_isNamed_iff hp hf).2 hnamed, hnone]
        simp [List.filterMap_cons_some hentry, hnamed]
      | false =>
        cases hentry : filedFor env given p with
        | none => simp [List.filterMap_cons_none hentry, hnamed, ih hl]
        | some q =>
          have hne : f ≠ q.1 := by
            rintro rfl
            simp [(of_filedFor hentry).2.1] at hnamed
          obtain ⟨g, value⟩ := q
          simp [List.filterMap_cons_some hentry, List.lookup_cons, beq_eq_false_iff_ne.2 hne,
            hnamed, ih hl]
  rw [lastGiven, filed, ← List.filterMap_reverse]
  exact general _ (by simpa using hpairs)

theorem lastGiven_filed_of_stated {given : List (Flag × String)} {pairs : List (String × String)}
    (hsome : (stated env given f).isSome) : lastGiven (filed env given pairs) f = none := by
  refine List.lookup_eq_none_iff.2 fun q hq => bne_iff_ne.2 ?_
  rintro rfl
  obtain ⟨p, -, hentry⟩ := List.mem_filterMap.1 (List.mem_reverse.1 hq)
  simp [(of_filedFor hentry).2.2.1] at hsome

/-- Behind the arguments the values of a file leave each flag with the value it is to take. -/
theorem stated_append_filed {given : List (Flag × String)} {pairs : List (String × String)}
    (hpairs : ∀ p ∈ pairs, p.1 ∈ fileNames) (hf : f ∈ Command.serve.flags) :
    (stated env (given ++ filed env given pairs) f).or f.default = chosen env given pairs f := by
  rw [chosen, stated, lastGiven_append]
  cases hstated : stated env given f with
  | some v =>
    rw [lastGiven_filed_of_stated (by simp [hstated]), Option.none_or]
    rw [stated] at hstated
    simp [hstated]
  | none =>
    rw [lastGiven_filed hpairs hf hstated]
    obtain ⟨hlast, henv⟩ := Option.or_eq_none_iff.1 hstated
    simp [hlast, henv]

/-- The values of a file that fit their flags fit behind the arguments too. -/
theorem Fitting.append_filed {given : List (Flag × String)} {pairs : List (String × String)}
    (h : Fitting env given)
    (hpairs : ∀ p ∈ pairs, ∀ f ∈ fileFlags, f.isNamed p.1 →
      checkValue f (f.filed p.2) = .ok ()) :
    Fitting env (given ++ filed env given pairs) where
  onLine p hp := by
    rcases List.mem_append.1 hp with hp | hp
    · exact h.onLine p hp
    · obtain ⟨q, hq, hentry⟩ := List.mem_filterMap.1 hp
      obtain ⟨hfile, hnamed, -, hvalue⟩ := of_filedFor hentry
      rw [hvalue]
      exact hpairs q hq p.1 hfile hnamed
  byVariable f hf v hlast := by
    rw [lastGiven_append, Option.or_eq_none_iff] at hlast
    exact h.byVariable f hf v hlast.2

/-- A file gives no values if all its flags have values already. -/
theorem filed_eq_nil_iff {given : List (Flag × String)} {pairs : List (String × String)}
    (hpairs : ∀ p ∈ pairs, p.1 ∈ fileNames) :
    filed env given pairs = [] ↔
      ∀ p ∈ pairs, ∀ f ∈ fileFlags, f.isNamed p.1 → (stated env given f).isSome := by
  rw [filed, List.filterMap_eq_nil_iff]
  refine forall₂_congr fun p hp => ⟨fun h f hf hnamed => ?_, fun h => ?_⟩
  · have hfind := (find?_isNamed_iff (hpairs p hp) (mem_flags_of_fileFlags hf)).2 hnamed
    simpa [filedFor, hfind, Option.isSome_iff_ne_none] using h
  · cases hentry : filedFor env given p with
    | none => rfl
    | some q =>
      obtain ⟨hfile, hnamed, hnone, -⟩ := of_filedFor hentry
      simpa [hnone] using h q.1 hfile hnamed

/-! ### The arguments with the file -/

theorem readCommand_serve (rest : List String) :
    readCommand env ("serve" :: rest) = Command.serve.read env rest := rfl

theorem Command.eq_of_ofName? {name : String} (h : Command.ofName? name = some c) :
    name = c.name := by
  have hname := List.find?_some h
  exact (beq_iff_eq.1 hname).symm

/-- Arguments that ask for a node name that command first. -/
theorem parse_serve {args : List String} {m : Matches} (h : parse env args = .ok m)
    (hserve : m.command = .serve) :
    ∃ rest, (normalizeArgs args).tail = "serve" :: rest ∧
      Command.serve.read env rest = .ok m := by
  unfold parse at h
  unfold readCommand at h
  split at h
  case h_4 arg rest _ _ hargs =>
    split at h
    case h_1 c hname =>
      obtain ⟨line, vars, -, -, rfl⟩ := Command.read_eq_ok h
      obtain rfl : c = .serve := hserve
      exact ⟨rest, by rw [hargs, Command.eq_of_ofName? hname]; rfl, h⟩
    case h_2 =>
      split at h
      · contradiction
      · split at h <;> contradiction
  case h_3 => split at h <;> contradiction
  all_goals contradiction

theorem mem_of_load {v : Volume} {known : List String} {path : String}
    {pairs : List (String × String)} (h : FlagFile.load v known path = .ok pairs) :
    ∀ p ∈ pairs, p.1 ∈ known := by
  unfold FlagFile.load at h
  split at h
  · contradiction
  · split at h
    · contradiction
    · contradiction
    · split at h
      · contradiction
      · rename_i hunknown
        injection h with h
        subst h
        simpa [FlagFile.unknown?] using hunknown

/-- Where flags may still stand behind the arguments, the values of the file are taken. -/
theorem withFlagFile_of_open {given : List (Flag × String)} {spelled args : List String}
    {pairs : List (String × String)} (hspells : Spells .serve given spelled) {ended : Bool}
    (hargs : (normalizeArgs args).tail = "serve" :: (spelled ++ ending ended))
    (hopen : ended = false ∨ filed env given pairs = [])
    (hfit : Fitting env (given ++ filed env given pairs)) :
    (matchesOf env given).withFlagFile env args pairs
      = .ok (matchesOf env (given ++ filed env given pairs)) := by
  have hmore := Spells.filed env hspells.mem_flags pairs
  rw [Matches.withFlagFile, hargs, List.cons_append, readCommand_serve]
  rcases hopen with rfl | hnil
  · have hread := (Command.read_spelled (hspells.append hmore) false).2 ⟨hfit, rfl⟩
    simpa [ending] using hread
  · have hread := (Command.read_spelled (hspells.append hmore) ended).2 ⟨hfit, rfl⟩
    simpa [hmore.eq_nil_iff.1 hnil] using hread

/-- Behind two dashes the values of a file are refused. -/
theorem withFlagFile_of_ended {given : List (Flag × String)} {spelled args : List String}
    {pairs : List (String × String)} (hspells : Spells .serve given spelled)
    (hargs : (normalizeArgs args).tail = "serve" :: (spelled ++ ending true))
    (hsome : filed env given pairs ≠ []) :
    ∃ e, (matchesOf env given).withFlagFile env args pairs = .error e := by
  have hmore := Spells.filed env hspells.mem_flags pairs
  obtain ⟨arg, more, hcons⟩ := List.exists_cons_of_ne_nil (mt hmore.eq_nil_iff.2 hsome)
  obtain ⟨e, he⟩ : ∃ e, readLine env .serve (spelled ++ "--" :: arg :: more) = .error e :=
    readLine_dashes_append spelled more arg
  refine ⟨e, ?_⟩
  rw [Matches.withFlagFile, hargs, List.cons_append, readCommand_serve, hcons, Command.read]
  simp only [ending, if_true, List.append_assoc, List.cons_append, List.nil_append, he, error_bind]

/-- Arguments that ask for a node and give these values to its flags; two dashes may end them. -/
def AsksNode (args : List String) (given : List (Flag × String)) (ended : Bool) : Prop :=
  ∃ spelled, (normalizeArgs args).tail = "serve" :: (spelled ++ ending ended) ∧
    Spells .serve given spelled

/-- Such arguments are read if all values fit, and then as just these values. -/
theorem AsksNode.parse_eq_ok_iff {args : List String} {given : List (Flag × String)} {ended : Bool}
    {m : Matches} (h : AsksNode args given ended) :
    parse env args = .ok m ↔ Fitting env given ∧ m = matchesOf env given := by
  obtain ⟨spelled, hargs, hspells⟩ := h
  rw [Cli.parse, hargs, readCommand_serve]
  exact Command.read_spelled hspells ended

/-- Arguments that ask for a node spell values. -/
theorem asksNode_of_parse {args : List String} {m : Matches} (h : parse env args = .ok m)
    (hserve : m.command = .serve) : ∃ given ended, AsksNode args given ended := by
  obtain ⟨rest, hargs, hread⟩ := parse_serve h hserve
  obtain ⟨line, vars, hline, -, -⟩ := Command.read_eq_ok hread
  obtain ⟨given, spelled, ended, rfl, hspells⟩ := spells_of_readLine hline
  exact ⟨given, ended, spelled, hargs, hspells⟩

/-- **Which value a flag takes when a node is started with a flag file.** Whatever way the
command line gives values to flags, every flag has the last of its own, else its variable's,
else that of the last line of the file by which it is named, else its usual one. For files
whose values fit, that is so just where flags may still stand behind the arguments, or where
all flags that the file names have values already. -/
theorem withNamedFile_chosen_iff {env : Environment} {v : Volume} {args : List String}
    {m : Matches} {path : String} {pairs : List (String × String)}
    (hparse : parse env args = .ok m) (hserve : m.command = .serve)
    (hconfig : m.get? "config" = some path)
    (hload : FlagFile.load v fileNames path = .ok pairs)
    (hvalues : ∀ p ∈ pairs, ∀ f ∈ fileFlags, f.isNamed p.1 →
      checkValue f (f.filed p.2) = .ok ()) :
    (∃ given ended, AsksNode args given ended) ∧
    ∀ given ended, AsksNode args given ended →
      ((∃ m', m.withNamedFile env v args = .ok m' ∧ m'.command = .serve ∧
          ∀ f ∈ Command.serve.flags, m'.get? f.long = chosen env given pairs f) ↔
        ended = false ∨
          ∀ p ∈ pairs, ∀ f ∈ fileFlags, f.isNamed p.1 → (stated env given f).isSome) := by
  refine ⟨asksNode_of_parse hparse hserve, fun given ended hasks => ?_⟩
  obtain ⟨hfit, rfl⟩ := hasks.parse_eq_ok_iff.1 hparse
  obtain ⟨spelled, hargs, hspells⟩ := hasks
  have hnames := mem_of_load hload
  have hnamed : (matchesOf env given).withNamedFile env v args
      = orStop (((matchesOf env given).withFlagFile env args pairs).mapError (.flags path)) := by
    simp only [Matches.withNamedFile, hconfig, hload, ok_bind]
  rw [← filed_eq_nil_iff hnames, hnamed]
  constructor
  -- A file that gives something is refused behind two dashes.
  · rintro ⟨m', hm', -, -⟩
    by_contra hnot
    obtain ⟨hended, hsome⟩ := not_or.1 hnot
    obtain rfl : ended = true := by simpa using hended
    obtain ⟨e, he⟩ := withFlagFile_of_ended hspells hargs hsome
    simp [he, orStop, Except.mapError] at hm'
  -- Otherwise its values are read behind the arguments. They belong to flags that had none, so
  -- that they take nothing away from the command line or a variable.
  · intro hopen
    have hfit' := hfit.append_filed hvalues
    have hmore := Spells.filed env hspells.mem_flags pairs
    refine ⟨matchesOf env (given ++ filed env given pairs), ?_, rfl, fun f hf => ?_⟩
    · rw [withFlagFile_of_open hspells hargs hopen hfit']
      rfl
    · rw [matchesOf_get? (hspells.append hmore).mem_flags hf, stated_append_filed hnames hf]

/-- A volume with a flag file. -/
def volumeWith (text : String) : Volume := ⟨[], [(["f.conf"], .data (Bytes.ofString text))]⟩

theorem load_volumeWith {text : String} {pairs : List (String × String)}
    (hparse : FlagFile.parse text = .ok pairs)
    (hknown : FlagFile.unknown? fileNames pairs = none) :
    FlagFile.load (volumeWith text) fileNames "f.conf" = .ok pairs := by
  have hpath : Volume.path "f.conf" = ["f.conf"] := by decide +kernel
  have hread : (volumeWith text).readText "f.conf" = .ok text := by
    unfold Volume.readText
    rw [hpath]
    simp [volumeWith, Volume.isDirectory, Table.get?, Bytes.toString?_ofString, Volume.up,
      Volume.root]
  simp only [FlagFile.load, hread, hparse, hknown]

/-- The flag of a node with a long name. -/
def serveFlag (long : String) : Flag :=
  (Command.serve.flags.find? fun f => f.long == long).getD default

/-- Arguments that name a flag file, a variable, and what the arguments give. -/
def mixedArgs : List String :=
  ["rdvp", "serve", "-l", "/ip4/127.0.0.1/tcp/0", "--config=f.conf"]

def mixedEnv : Environment := [("RDVP_DB", "kept")]

def mixedGiven : List (Flag × String) :=
  [(serveFlag "listen", "/ip4/127.0.0.1/tcp/0"), (serveFlag "config", "f.conf")]

def mixedText : String := "max-ttl 60\ndb other\nmax-ttl 3600\n"

theorem withNamedFile_chosen_iff_mixed :
    ∃ m', (matchesOf mixedEnv mixedGiven).withNamedFile mixedEnv (volumeWith mixedText) mixedArgs
        = .ok m' ∧
      m'.get? "listen" = some "/ip4/127.0.0.1/tcp/0" ∧ m'.get? "db" = some "kept" ∧
      m'.get? "max-ttl" = some "3600" ∧ m'.get? "sweep-interval" = some "30" := by
  have hload : FlagFile.load (volumeWith mixedText) fileNames "f.conf"
      = .ok [("max-ttl", "60"), ("db", "other"), ("max-ttl", "3600")] :=
    load_volumeWith (by decide +kernel) (by decide +kernel)
  have hlisten : Opens (serveFlag "listen") none ("-" ++ String.singleton 'l') := .letter rfl
  have hconfig : Opens (serveFlag "config") (some "f.conf") ("--" ++ "config" ++ "=" ++ "f.conf") :=
    .longWith (by decide) "f.conf"
  have hasks : AsksNode mixedArgs mixedGiven false :=
    ⟨["-l", "/ip4/127.0.0.1/tcp/0", "--config=f.conf"], by decide +kernel,
      .apart (by decide) hlisten (.inr (by decide)) (.joined (by decide) hconfig .nil)⟩
  have hparse : parse mixedEnv mixedArgs = .ok (matchesOf mixedEnv mixedGiven) := by rfl
  obtain ⟨m', hm', -, hvalues⟩ :=
    ((withNamedFile_chosen_iff hparse rfl (by decide +kernel) hload (by decide +kernel)).2 _ _
      hasks).2 (.inl rfl)
  refine ⟨m', hm', ?_, ?_, ?_, ?_⟩
  · exact hvalues (serveFlag "listen") (by decide)
  · exact hvalues (serveFlag "db") (by decide)
  · exact hvalues (serveFlag "max-ttl") (by decide)
  · exact hvalues (serveFlag "sweep-interval") (by decide)

/-- A file with one value that fits is refused where two dashes end the arguments. -/
theorem fitting_file_refused :
    ∃ m pairs, parse [] (mixedArgs ++ ["--"]) = .ok m ∧ m.command = .serve ∧
      m.get? "config" = some "f.conf" ∧
      FlagFile.load (volumeWith "max-ttl 3600\n") fileNames "f.conf" = .ok pairs ∧
      (∀ p ∈ pairs, ∀ f ∈ fileFlags, f.isNamed p.1 → checkValue f (f.filed p.2) = .ok ()) ∧
      ∀ m', m.withNamedFile [] (volumeWith "max-ttl 3600\n") (mixedArgs ++ ["--"]) ≠ .ok m' := by
  have hload : FlagFile.load (volumeWith "max-ttl 3600\n") fileNames "f.conf"
      = .ok [("max-ttl", "3600")] :=
    load_volumeWith (by decide +kernel) (by decide +kernel)
  refine ⟨matchesOf [] mixedGiven, _, by rfl, rfl, by decide +kernel, hload, by decide +kernel, ?_⟩
  intro m' hm'
  have hconfig : (matchesOf [] mixedGiven).get? "config" = some "f.conf" := by decide +kernel
  simp only [Matches.withNamedFile, hconfig, hload, ok_bind] at hm'
  have hrefused : (matchesOf [] mixedGiven).withFlagFile [] (mixedArgs ++ ["--"])
      [("max-ttl", "3600")] = .error (.unknownArgument "--max-ttl=3600") := by rfl
  simp [hrefused, orStop, Except.mapError] at hm'

end Rendezvous.Cli
