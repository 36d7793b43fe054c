import Rendezvous.Cli.Usage
import Rendezvous.Logging.Settings
import Rendezvous.Number.Decimal

/-!
# Rendezvous.Cli.Parse

The arguments of a command, read from left to right. A flag may wait for its value, which is
the next argument unless that begins with a dash; it is looked at when the next flag comes.
Behind two dashes nothing is a flag.

What the command line does not give, a variable may, and then the flag's usual value counts.

* `readArgs`: the values on the command line;
* `Matches`, `Command.read`: all values and where they come from;
* `parse`: the command and its values.
-/

namespace Rendezvous.Cli

/-! ### Values -/

/-- Checks a value of a flag. -/
def checkValue (f : Flag) (value : String) : Except UsageError Unit :=
  match f.kind with
  | .text => .ok ()
  | .path => if value.isEmpty then .error (.missingValue f) else .ok ()
  | .number =>
    match Decimal.parseBelow (Nat.pow 2 64) value with
    | .ok _ => .ok ()
    | .error e => .error (.badValue value f e.message)
  | .truth =>
    if value = "true" ∨ value = "false" then .ok ()
    else if value.isEmpty then .error (.missingValue f)
    else .error (.badChoice value f)
  | .logFormat =>
    match LogFormat.parse? value with
    | some _ => .ok ()
    | none => .error (.badValue value f (LogFormat.unknownMessage value))

/-- Values by the long names of flags, the last given in front. -/
abbrev Values : Type := List (String × String)

/-- Gives a flag a value, in place of the one it had. -/
def give (vs : Values) (f : Flag) (value : String) : Except UsageError Values :=
  (checkValue f value).map fun _ => (f.long, value) :: vs

/-- A flag whose value has not been looked at: it was not read yet, or it is known. -/
structure Waiting where
  flag : Flag
  value : Option String

/-- Looks at the value of a flag that waits. One that may stand alone is then true. -/
def settle (vs : Values) : Option Waiting → Except UsageError Values
  | none => .ok vs
  | some ⟨f, some value⟩ => give vs f value
  | some ⟨f, none⟩ => if f.valueOptional then give vs f "true" else .error (.missingValue f)

/-! ### Arguments -/

/-- What an argument is. -/
inductive Argument where
  /-- Two dashes alone. -/
  | dashes
  /-- A long name and the value behind the equals sign. -/
  | long (name : String) (value : Option String)
  /-- A letter and what follows it. -/
  | short (letter : Char) (rest : List Char)
  | plain

/-- What an argument is. -/
def Argument.of (arg : String) : Argument :=
  match arg.toList with
  | ['-', '-'] => .dashes
  | '-' :: '-' :: cs =>
    .long (String.ofList (cs.takeWhile (· != '=')))
      (match cs.dropWhile (· != '=') with
        | _ :: value => some (String.ofList value)
        | [] => none)
  | '-' :: c :: rest => .short c rest
  | _ => .plain

/-- The value behind a letter: without the equals sign, and none if there is nothing. -/
def attached : List Char → Option String
  | [] => none
  | '=' :: rest => some (String.ofList rest)
  | rest => some (String.ofList rest)

/-- A flag with the value that is attached to it, if one is. -/
def flagGiven (vs : Values) (waiting : Option Waiting) (f : Flag) (value : Option String) :
    Except UsageError (Values × Option Waiting) := do
  let vs ← settle vs waiting
  match value with
  | some v => return (← give vs f v, none)
  | none => return (vs, some ⟨f, none⟩)

/-- One argument of a command. -/
def readArg (env : Environment) (c : Command) (vs : Values) (waiting : Option Waiting)
    (arg : String) : Except UsageError (Values × Option Waiting) :=
  match Argument.of arg with
  | .long "help" none => do
    let _ ← settle vs waiting
    .error (.help (c.help env))
  | .long "help" (some value) => .error (.unneededValue value "--help")
  | .long name value =>
    match c.flags.find? fun f => f.names.contains name with
    | some f => flagGiven vs waiting f value
    | none => .error (.unknownArgument ("--" ++ name))
  | .short 'h' _ => do
    let _ ← settle vs waiting
    .error (.help (c.help env))
  | .short letter rest =>
    match c.flags.find? fun f => f.short == some letter with
    | some f => flagGiven vs waiting f (attached rest)
    | none => .error (.unknownArgument ("-" ++ String.singleton letter))
  | .dashes | .plain =>
    match waiting with
    | some ⟨f, none⟩ => .ok (vs, some ⟨f, some arg⟩)
    | _ => .error (.unknownArgument arg)

/-- The values that arguments give, and the flag that still waits. -/
def readArgs (env : Environment) (c : Command) (vs : Values) (waiting : Option Waiting) :
    List String → Except UsageError (Values × Option Waiting)
  | [] => .ok (vs, waiting)
  | "--" :: [] => .ok (vs, waiting)
  | "--" :: arg :: _ => .error (.unknownArgument arg)
  | arg :: rest => do
    let (vs, waiting) ← readArg env c vs waiting arg
    readArgs env c vs waiting rest

/-- The values that the command line gives. -/
def readLine (env : Environment) (c : Command) (args : List String) :
    Except UsageError Values := do
  let (vs, waiting) ← readArgs env c [] none args
  settle vs waiting

/-! ### Commands -/

/-- Where a value comes from. -/
inductive Source where
  | commandLine
  | environment
  | usual
deriving Repr, DecidableEq, Inhabited

/-- A command and what the command line and the variables give. -/
structure Matches where
  command : Command
  line : Values
  environment : Values

namespace Matches

/-- The value of a flag, and where it comes from. -/
def value? (m : Matches) (f : Flag) : Option (Source × String) :=
  match m.line.lookup f.long, m.environment.lookup f.long, f.default with
  | some v, _, _ => some (.commandLine, v)
  | none, some v, _ => some (.environment, v)
  | none, none, some v => some (.usual, v)
  | none, none, none => none

/-- The value of the flag with a long name. -/
def get? (m : Matches) (long : String) : Option String :=
  ((m.command.flags.find? (·.long == long)).bind m.value?).map (·.2)

/-- The value of a flag that always has one. -/
def get (m : Matches) (long : String) : String := (m.get? long).getD ""

/-- The number that a flag has as its value. -/
def number? (m : Matches) (long : String) : Option Nat :=
  (m.get? long).bind fun v => (Decimal.parseBelow (Nat.pow 2 64) v).toOption

/-- Whether a flag was given on the command line or by a variable. -/
def isExplicit (m : Matches) (f : Flag) : Bool :=
  (m.line.lookup f.long).isSome || (m.environment.lookup f.long).isSome

end Matches

/-- The values that variables give to flags without one. -/
def readVariables (env : Environment) (line : Values) : List Flag → Except UsageError Values
  | [] => .ok []
  | f :: fs => do
    match line.lookup f.long, env.lookup f.env with
    | none, some v =>
      let _ ← checkValue f v
      return (f.long, v) :: (← readVariables env line fs)
    | _, _ => readVariables env line fs

/-- Reads the arguments of a command. -/
def Command.read (env : Environment) (c : Command) (args : List String) :
    Except UsageError Matches := do
  let line ← readLine env c args
  let m : Matches := ⟨c, line, ← readVariables env line c.flags⟩
  match c.flags.filter fun f => f.required && (m.value? f).isNone with
  | [] => return m
  | missing => .error (.missingFlags missing)

/-- What the command that shows help answers. -/
def helpFor (env : Environment) : List String → UsageError
  | [] => .help topHelp
  | ["help"] => .help helpHelp
  | "help" :: name :: _ => .unknownCommand name
  | name :: rest =>
    match Command.ofName? name, rest with
    | some c, [] => .help (c.help env)
    | some _, other :: _ => .unknownCommand other
    | none, _ => .unknownCommand name

/-- Reads the arguments behind the program's name. -/
def readCommand (env : Environment) : List String → Except UsageError Matches
  | [] | ["--"] => .error .noCommand
  | "--" :: name :: _ =>
    if name = "help" ∨ (Command.ofName? name).isSome then .error (.unknownArgument name)
    else .error (.unknownCommand name)
  | arg :: rest =>
    match Command.ofName? arg with
    | some c => c.read env rest
    | none =>
      if arg = "help" then .error (helpFor env rest)
      else
        match Argument.of arg with
        | .long "help" none | .short 'h' _ => .error (.help topHelp)
        | .long "version" none | .short 'V' _ => .error .version
        | .long "help" (some value) => .error (.unneededValue value "--help")
        | .long "version" (some value) => .error (.unneededValue value "--version")
        | .long name _ => .error (.unknownArgument ("--" ++ name))
        | .short letter _ => .error (.unknownArgument ("-" ++ String.singleton letter))
        | .dashes | .plain => .error (.unknownCommand arg)

/-- Reads arguments, the first of which names the program; long flags may have one dash. -/
def parse (env : Environment) (args : List String) : Except UsageError Matches :=
  readCommand env (normalizeArgs args).tail

end Rendezvous.Cli
