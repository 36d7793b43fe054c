import Rendezvous.Cli.Flag
import Rendezvous.Text.Plain
import Rendezvous.Text.Quoted

/-!
# Rendezvous.Cli.Usage

What the command line shows instead of running: help, the version, and what is wrong with
the arguments. All of it is made for a terminal, with what stands for itself emphasised.

* `Environment`: the variables;
* `Command.help`, `topHelp`: the help, which shows what the variables hold;
* `UsageError`, with its text and exit code.
-/

namespace Rendezvous.Cli

/-- The variables that are set. -/
abbrev Environment : Type := List (String × String)

/-! ### Help -/

namespace Help

/-- A flag or command in a list, and what is said of it. -/
structure Row where
  indentation : Nat
  /-- The ways to write it. -/
  terms : List String
  /-- The value behind it. -/
  value : String
  text : String

/-- So many blanks. -/
def blanks (n : Nat) : String := String.ofList (List.replicate n ' ')

namespace Row

/-- The columns up to what is said, but for the first two. -/
def width (r : Row) : Nat := r.indentation + (", ".intercalate r.terms ++ r.value).length - 2

/-- What stands before that. -/
def head (r : Row) : String :=
  blanks r.indentation ++ ", ".intercalate (r.terms.map Text.emphasis) ++ r.value

/-- What is said, with its lines below each other in a column. -/
def textAt (column : Nat) (r : Row) : String := r.text.replace "\n" ("\n" ++ blanks column)

end Row

/-- The columns of a line. -/
def columns : Nat := 100

/-- Whether a row is too long for one line, with heads of a width: these take more than two
fifths of it, and the rest is too short. -/
def isLong (longest : Nat) (r : Row) : Bool :=
  let taken := longest + 8
  taken ≤ columns && columns * 2 < taken * 5 && columns - taken < r.text.length

/-- The lines of rows: what is said stands behind the heads, or for all rows below them if
one of them is too long. -/
def rows (rs : List Row) : List String :=
  let longest := (rs.map (·.width)).foldl Nat.max 2
  if rs.any (isLong longest) then rs.flatMap fun r => [r.head, blanks 10 ++ r.textAt 10]
  else rs.map fun r => r.head ++ blanks (longest + 2 - r.width) ++ r.textAt (longest + 4)

/-- A value, quoted where it could not be seen otherwise. -/
def shownValue (v : String) : String :=
  if v.isEmpty || v.toList.any Text.isBlank then Text.quoted v else v

/-- What is said of a flag's values. -/
def notes (env : Environment) (f : Flag) : List String :=
  let held := if f.secret then "" else "=" ++ (env.lookup f.env).getD ""
  ["[env: " ++ f.env ++ held ++ "]"]
    ++ (f.default.map fun v => "[default: " ++ shownValue v ++ "]").toList
    ++ (if f.kind = .truth then ["[possible values: true, false]"] else [])

/-- The row of a flag. -/
def flagRow (env : Environment) (f : Flag) : Row :=
  let letter := f.short.map fun c => "-" ++ String.singleton c
  { indentation := if letter.isSome then 2 else 6
    terms := letter.toList ++ ["--" ++ f.long]
    value := f.valueDisplay
    text := " ".intercalate (f.help :: notes env f) }

/-- The row of the flag that asks for help. -/
def helpRow : Row := ⟨2, ["-h", "--help"], "", "Print help"⟩

/-- The row of the flag that asks for the version. -/
def versionRow : Row := ⟨2, ["-V", "--version"], "", "Print version"⟩

/-- What the command that shows help does. -/
def about : String := "Print this message or the help of the given subcommand(s)"

/-- The row of a command. -/
def commandRow (name text : String) : Row := ⟨2, [name], "", text⟩

/-- Lines as a text. -/
def text (lines : List String) : String := String.join (lines.map (· ++ "\n"))

end Help

/-- The name of the program. -/
def program : String := "rdvp"

/-- The version, on a line. -/
def versionText : String := program ++ " 0.1.0\n"

/-- The help of the program. -/
def topHelp : String :=
  Help.text (["Rendezvous and relay node", "", "Usage: " ++ program ++ " <COMMAND>", "",
      "Commands:"]
    ++ Help.rows ((Command.all.map fun c => Help.commandRow c.name c.about)
      ++ [Help.commandRow "help" Help.about])
    ++ ["", "Options:"] ++ Help.rows [Help.helpRow, Help.versionRow])

/-- The help of the command that shows help. -/
def helpHelp : String :=
  Help.text [Help.about, "", "Usage: " ++ program ++ " help [COMMAND]...", "", "Arguments:",
    "  [COMMAND]...  Print help for the subcommand(s)"]

/-- What stands below the help of a command. -/
def Command.example : Command → List String
  | .serve => ["", "EXAMPLE", "  rdvp genkey > rdvp.key",
      "  rdvp serve -pk `cat rdvp.key` -db ./rdvp-store"]
  | .genkey | .sharekey => []

/-- The help of a command. -/
def Command.help (env : Environment) (c : Command) : String :=
  let demanded := (c.flags.filter (·.required)).map fun f => " " ++ f.display
  Help.text ([c.about, "",
      "Usage: " ++ program ++ " " ++ c.name ++ " [OPTIONS]" ++ String.join demanded, "",
      "Options:"]
    ++ Help.rows (c.flags.map (Help.flagRow env) ++ [Help.helpRow])
    ++ c.example)

/-! ### Errors -/

/-- Why arguments are not taken, or what they ask for instead of a command. -/
inductive UsageError where
  /-- There is no such flag, or no argument is taken there. -/
  | unknownArgument (arg : String)
  | missingValue (flag : Flag)
  /-- The value is none of those that can be given. -/
  | badChoice (value : String) (flag : Flag)
  | badValue (value : String) (flag : Flag) (reason : String)
  /-- A flag that takes no value was given one. -/
  | unneededValue (value flag : String)
  | unknownCommand (name : String)
  | missingFlags (flags : List Flag)
  /-- No command was given. -/
  | noCommand
  | help (text : String)
  | version
deriving Repr, DecidableEq

namespace UsageError

/-- A part of a message that stands for itself, between quotes. -/
def quote (s : String) : String := "'" ++ Text.emphasis s ++ "'"

/-- What is wrong, for those that are errors. -/
def message : UsageError → String
  | .unknownArgument arg => "unexpected argument " ++ quote arg ++ " found"
  | .missingValue f => "a value is required for " ++ quote f.display ++ " but none was supplied"
  | .badChoice value f => "invalid value " ++ quote value ++ " for " ++ quote f.display
  | .badValue value f reason =>
    "invalid value " ++ quote value ++ " for " ++ quote f.display ++ ": " ++ reason
  | .unneededValue value flag =>
    "unexpected value " ++ quote value ++ " for " ++ quote flag
      ++ " found; no more were expected"
  | .unknownCommand name => "unrecognized subcommand " ++ quote name
  | .missingFlags _ => "the following required arguments were not provided:"
  | .noCommand | .help _ | .version => ""

/-- What stands below the message. -/
def details : UsageError → String
  | .badChoice _ _ => "\n  [possible values: true, false]"
  | .missingFlags flags => String.join (flags.map fun f => "\n  " ++ f.display)
  | _ => ""

/-- The whole text for a terminal. -/
def styled : UsageError → String
  | .noCommand => topHelp
  | .help text => text
  | .version => versionText
  | e =>
    Text.emphasis "error:" ++ " " ++ e.message ++ e.details
      ++ "\n\nFor more information, try " ++ quote "--help" ++ ".\n"

/-- The whole text as part of another. -/
def toText (e : UsageError) : String := Text.plain false e.styled

/-- The whole text as it is written where there is no terminal. -/
def printed (e : UsageError) : String := Text.plain true e.styled

/-- Whether the text is what was asked for. -/
def isAnswer : UsageError → Bool
  | .help _ | .version => true
  | _ => false

/-- The exit code. -/
def exitCode (e : UsageError) : Nat := if e.isAnswer then 0 else 2

end UsageError

end Rendezvous.Cli
