import Rendezvous.Text.Quoted
import Rendezvous.Text.Blank
import Rendezvous.Json.Decode

/-!
# Rendezvous.Logging.Settings

How log lines look and where they go.

* `LogFormat`, `LogDestination`, `LogSettings`.
-/

namespace Rendezvous

/-- The look of a log line. -/
inductive LogFormat where
  | json
  | console
  | color
  | lightConsole
  | lightColor
deriving Repr, DecidableEq, Inhabited

namespace LogFormat

/-- The word for a format. -/
def name : LogFormat → String
  | .json => "json"
  | .console => "console"
  | .color => "color"
  | .lightConsole => "light-console"
  | .lightColor => "light-color"

/-- The word for a format in messages. -/
def debug : LogFormat → String
  | .json => "Json"
  | .console => "Console"
  | .color => "Color"
  | .lightConsole => "LightConsole"
  | .lightColor => "LightColor"

/-- All formats. -/
def all : List LogFormat := [.json, .console, .color, .lightConsole, .lightColor]

/-- The format with a word. -/
def parse? (s : String) : Option LogFormat := all.find? fun f => f.name == s

/-- The wording for a text that is no word for a format. -/
def unknownMessage (s : String) : String :=
  "unknown log format '" ++ s
    ++ "': expected json, console, color, light-console or light-color"

/-- Reads a format. -/
def decoder : Json.Decoder LogFormat := Json.choice (all.map fun f => (f.name, f))

end LogFormat

/-- Where log lines go. -/
inductive LogDestination where
  | stderr
  | stdout
  | file (path : String)
deriving Repr, DecidableEq, Inhabited

namespace LogDestination

/-- The destination that a text names: a file, unless it is a word for another. -/
def parse (s : String) : LogDestination :=
  if s = "" ∨ s = "stderr" then .stderr else if s = "stdout" then .stdout else .file s

/-- The text that names a destination. -/
def toText : LogDestination → String
  | .stderr => "stderr"
  | .stdout => "stdout"
  | .file path => path

/-- The text of a destination in messages. -/
def debug : LogDestination → String
  | .stderr => "Stderr"
  | .stdout => "Stdout"
  | .file path => "File(" ++ Text.quoted path ++ ")"

end LogDestination

/-- All settings of the log. -/
structure LogSettings where
  filters : String
  format : LogFormat
  destination : LogDestination
deriving Repr, DecidableEq, Inhabited

end Rendezvous
