import Rendezvous.Config.Basic
import Rendezvous.Store.Basic

/-!
# Rendezvous.Cli.Flag

The flags of the commands, and arguments that write a long flag with a single dash.

* `Flag`, `Command`, `Command.flags`: the flags that each command takes;
* `normalizeArgs`: puts a second dash in front of long flags that have only one.
-/

namespace Rendezvous.Cli

/-- The commands. -/
inductive Command where
  | serve
  | genkey
  | sharekey
deriving Repr, DecidableEq, Inhabited

/-- What the value of a flag is. -/
inductive ValueKind where
  | text
  /-- The name of a file, which is not empty. -/
  | path
  /-- A number of 64 bits. -/
  | number
  | truth
  | logFormat
deriving Repr, DecidableEq, Inhabited

/-- A flag: its long name, its other names, and the one letter that stands for it. -/
structure Flag where
  long : String
  aliases : List String := []
  short : Option Char := none
  kind : ValueKind := .text
  /-- The variable that gives the value when the command line does not. -/
  env : String
  /-- Whether what the variable holds is kept out of the help. -/
  secret : Bool := false
  /-- The text that stands for the value in the usage. -/
  valueName : String
  /-- The value that the flag has when nothing gives one. -/
  default : Option String := none
  /-- Whether the flag may stand without a value. -/
  valueOptional : Bool := false
  required : Bool := false
  help : String
deriving Repr, DecidableEq, Inhabited

namespace Flag

/-- All names of a flag but the letter. -/
def names (f : Flag) : List String := f.long :: f.aliases

/-- The value behind a flag, as messages name it. -/
def valueDisplay (f : Flag) : String :=
  if f.valueOptional then " [<" ++ f.valueName ++ ">]" else " <" ++ f.valueName ++ ">"

/-- A flag and its value, as messages name them. -/
def display (f : Flag) : String := "--" ++ f.long ++ f.valueDisplay

/-- Whether a text names a flag: by its long name, its letter or another name. -/
def isNamed (f : Flag) (name : String) : Bool :=
  f.names.contains name || f.short.any fun c => name == String.singleton c

end Flag

/-- The flags of the log, which every command takes. -/
def logFlags : List Flag :=
  [{ long := "log-filters", aliases := ["log.filters"], env := "RDVP_LOG_FILTERS",
     valueName := "LOG_FILTERS", default := some "info", help := "Log filter directives" },
   { long := "log-format", aliases := ["log.format"], kind := .logFormat,
     env := "RDVP_LOG_FORMAT", valueName := "LOG_FORMAT", default := some "color",
     help := "json, console, color, light-console or light-color" },
   { long := "log-file", aliases := ["log.file"], env := "RDVP_LOG_FILE",
     valueName := "LOG_FILE", default := some "stderr",
     help := "stderr, stdout or a file path" }]

/-- The flag for a private key. -/
def keyFlag (required : Bool) (help : String) : Flag :=
  { long := "pk", env := "RDVP_PK", secret := true, valueName := "PK", required, help }

/-- The flags of a command, in the order in which they are listed. -/
def Command.flags : Command → List Flag
  | .serve =>
    [{ long := "listen", short := some 'l', env := "RDVP_LISTEN", valueName := "LISTEN",
       default := some NetworkConfig.usualListen,
       help := "Listen multiaddrs, comma separated" },
     { long := "announce", env := "RDVP_ANNOUNCE", valueName := "ANNOUNCE", default := some "",
       help := "Multiaddrs announced instead of the listeners, comma separated" },
     keyFlag false "Private key from `rdvp genkey`; ephemeral when absent",
     { long := "db", env := "RDVP_DB", valueName := "DB", default := some Store.inMemory,
       help := "Record store: `:memory:` or a database path" },
     { long := "metrics", env := "RDVP_METRICS", valueName := "METRICS",
       help := "Metrics listener (host:port); disabled when empty" },
     { long := "emitter-server", env := "RDVP_EMITTER_SERVER", valueName := "EMITTER_SERVER",
       help := "Broker address, e.g. tcp://127.0.0.1:8080" },
     { long := "emitter-admin-key", env := "RDVP_EMITTER_ADMIN_KEY", secret := true,
       valueName := "EMITTER_ADMIN_KEY", help := "Broker admin key" },
     { long := "emitter-public-addr", env := "RDVP_EMITTER_PUBLIC_ADDR",
       valueName := "EMITTER_PUBLIC_ADDR",
       help := "Broker address given to clients instead of --emitter-server" },
     { long := "emitter-mandatory", kind := .truth, env := "RDVP_EMITTER_MANDATORY",
       valueName := "EMITTER_MANDATORY", default := some "false", valueOptional := true,
       help := "Fail instead of running local-only when the broker is unreachable" },
     { long := "relay-max-circuits", kind := .number, env := "RDVP_RELAY_MAX_CIRCUITS",
       valueName := "RELAY_MAX_CIRCUITS",
       help := "Concurrent relay circuits; unlimited when unset" },
     { long := "relay-max-data", kind := .number, env := "RDVP_RELAY_MAX_DATA",
       valueName := "BYTES", help := "Bytes per relay circuit; unlimited when unset" },
     { long := "relay-max-duration", kind := .number, env := "RDVP_RELAY_MAX_DURATION",
       valueName := "SECS", help := "Relay circuit lifetime; unlimited when unset" },
     { long := "max-ttl", kind := .number, env := "RDVP_MAX_TTL", valueName := "SECS",
       default := some "259200", help := "Longest registration TTL" },
     { long := "sweep-interval", kind := .number, env := "RDVP_SWEEP_INTERVAL",
       valueName := "SECS", default := some "30",
       help := "Interval between expired-record sweeps" },
     { long := "max-connections", kind := .number, env := "RDVP_MAX_CONNECTIONS",
       valueName := "MAX_CONNECTIONS", default := some "10000",
       help := "Concurrent connections per listener" },
     { long := "config", kind := .path, env := "RDVP_CONFIG", valueName := "FILE",
       help := "Flag file (plain `name value` lines or a TOML table)" }] ++ logFlags
  | .genkey =>
    [{ long := "type", env := "RDVP_KEY_TYPE", valueName := "KEY_TYPE",
       default := some "Ed25519", help := "Ed25519, ECDSA, Secp256k1 or RSA" },
     { long := "length", kind := .number, env := "RDVP_KEY_LENGTH", valueName := "LENGTH",
       default := some "2048", help := "Key length in bits (RSA only)" }] ++ logFlags
  | .sharekey => keyFlag true "Private key from `rdvp genkey`" :: logFlags

/-- The word for a command. -/
def Command.name : Command → String
  | .serve => "serve"
  | .genkey => "genkey"
  | .sharekey => "sharekey"

/-- What a command does. -/
def Command.about : Command → String
  | .serve => "Run the rendezvous and relay node"
  | .genkey => "Generate a private key and print it as base64"
  | .sharekey => "Print the PeerId of a private key"

/-- All commands. -/
def Command.all : List Command := [.serve, .genkey, .sharekey]

/-- The command with a word. -/
def Command.ofName? (name : String) : Option Command := Command.all.find? fun c => c.name == name

/-- The names of all long flags. -/
def longNames : List String := Command.all.flatMap fun c => c.flags.flatMap Flag.names

/-- Whether an argument is a long flag behind one dash only. -/
def isSingleDashed (arg : List Char) : Bool :=
  match arg with
  | '-' :: c :: rest =>
    c != '-' && (1 < String.utf8ByteSize (String.ofList (c :: rest)))
      && longNames.contains (String.ofList ((c :: rest).takeWhile (· != '=')))
  | _ => false

/-- An argument with a second dash, if it needs one. -/
def normalizeArg (arg : String) : String :=
  if isSingleDashed arg.toList then "-" ++ arg else arg

/-- Arguments behind the program's name, up to two dashes that stand alone. -/
def normalizeRest : List String → List String
  | [] => []
  | arg :: rest => if arg = "--" then arg :: rest else normalizeArg arg :: normalizeRest rest

/-- Arguments with a second dash in front of long flags that have only one. The first
argument names the program, and what follows two dashes is not touched. -/
def normalizeArgs : List String → List String
  | [] => []
  | program :: rest => program :: normalizeRest rest

end Rendezvous.Cli
