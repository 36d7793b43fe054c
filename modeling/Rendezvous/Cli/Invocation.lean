import Rendezvous.Cli.Parse
import Rendezvous.Config.FlagFile

/-!
# Rendezvous.Cli.Invocation

What the command line asks for, and a flag file that fills what it leaves open.

* `Invocation`, `Matches.invocation`: a command with its settings;
* `Matches.withFlagFile`: the values of a flag file, as if they stood behind the arguments.
-/

namespace Rendezvous.Cli

/-- A command with its settings. -/
inductive Invocation where
  | serve (config : NodeConfig) (flagFile : Option String) (log : LogSettings)
  /-- The kind of key and the length, for kinds that have one. -/
  | genkey (kind : String) (length : Nat) (log : LogSettings)
  | sharekey (key : String) (log : LogSettings)

namespace Matches

/-- The settings of the log. -/
def log (m : Matches) : LogSettings :=
  { filters := m.get "log-filters",
    format := (LogFormat.parse? (m.get "log-format")).getD .color,
    destination := .parse (m.get "log-file") }

/-- The value of a flag, unless it is blank. -/
def notBlank? (m : Matches) (long : String) : Option String :=
  (m.get? long).filter fun v => !Text.allBlank v

/-- The settings of a node. -/
def nodeConfig (m : Matches) : NodeConfig :=
  { network :=
      { listen := m.get "listen",
        announce := m.get "announce",
        maxConnections := (m.number? "max-connections").getD 0 },
    identity := { privateKey := m.notBlank? "pk" },
    store :=
      { location := m.get "db",
        maxTtlSecs := (m.number? "max-ttl").getD 0,
        sweepIntervalSecs := (m.number? "sweep-interval").getD 0 },
    emitter :=
      { EmitterConfig.usual with
        server := m.notBlank? "emitter-server",
        adminKey := m.notBlank? "emitter-admin-key",
        publicAddr := m.notBlank? "emitter-public-addr",
        mandatory := m.get "emitter-mandatory" == "true" },
    relay :=
      { maxCircuits := m.number? "relay-max-circuits",
        maxDataBytes := m.number? "relay-max-data",
        maxDurationSecs := m.number? "relay-max-duration" },
    metrics := { listen := m.notBlank? "metrics" } }

/-- What is asked for. -/
def invocation (m : Matches) : Invocation :=
  match m.command with
  | .serve => .serve m.nodeConfig (m.get? "config") m.log
  | .genkey => .genkey (m.get "type") ((m.number? "length").getD 0) m.log
  | .sharekey => .sharekey (m.get "pk") m.log

end Matches

/-! ### Flag files -/

/-- The flags to which a flag file may give values: all of a node but the one that names the
flag file. -/
def fileFlags : List Flag := Command.serve.flags.filter fun f => f.long != "config"

/-- The names that may stand in a flag file. -/
def fileNames : List String :=
  fileFlags.flatMap fun f => f.names ++ (f.short.map String.singleton).toList

/-- The argument that a line of a flag file stands for, unless its flag has a value from the
command line or a variable. -/
def fileArgument? (m : Matches) (name value : String) : Option String :=
  match fileFlags.find? (·.isNamed name) with
  | none => none
  | some f =>
    if m.isExplicit f then none
    else if value.isEmpty ∧ f.valueOptional then some ("--" ++ f.long)
    else some ("--" ++ f.long ++ "=" ++ value)

/-- The arguments with those that a flag file stands for behind them, read again. -/
def Matches.withFlagFile (m : Matches) (env : Environment) (args : List String)
    (pairs : List (String × String)) : Except UsageError Matches :=
  let more := pairs.filterMap fun p => fileArgument? m p.1 p.2
  readCommand env ((normalizeArgs args).tail ++ more)

end Rendezvous.Cli
