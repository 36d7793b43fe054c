import Rendezvous.Cli.Invocation
import Rendezvous.Config.Problem
import Rendezvous.Lifecycle.Supervisor
import Rendezvous.Logging.Filter
import Rendezvous.Net.Binding
import Rendezvous.Peer.Identity
import Rendezvous.Store.Volume
import Rendezvous.Sync.Driver

/-!
# Rendezvous.Node.Error

Why a node cannot be assembled or ends, with the part that is to blame.

* `ConfigError`, `LogError`, `HostError`, `NodeError`, each with its wording.
-/

namespace Rendezvous

/-- What is wrong with the settings, or with the flag file that gives them. -/
inductive ConfigError where
  | unreadable (path : String) (fault : Volume.FileFault)
  | flagFile (path : String) (cause : FlagFile.ParseError)
  /-- The file's values are not taken as arguments. -/
  | flags (path : String) (cause : Cli.UsageError)
  | unknownFlag (path name : String)
  | invalid (problems : List ConfigProblem)

namespace ConfigError

/-- The wording of an error in a line of a file; line 0 is the whole file. -/
def inLine (path : String) (line : Nat) (reason : String) : String :=
  path ++ ":" ++ toString line ++ ": " ++ reason

/-- The wording of an error. -/
def message : ConfigError → String
  | .unreadable path fault => "cannot read config file " ++ path ++ ": " ++ fault.message
  | .flagFile path cause => inLine path cause.line cause.reason
  | .flags path cause => inLine path 0 (Text.trim cause.toText)
  | .unknownFlag path name => path ++ ": unknown flag '" ++ name ++ "'"
  | .invalid problems => ConfigProblem.summary problems

end ConfigError

/-- Why the log cannot be written. -/
inductive LogError where
  | badFilter (cause : LogFilter.FilterError)
  | cannotOpen (path : String) (fault : Volume.FileFault)

/-- The wording of an error. -/
def LogError.message : LogError → String
  | .badFilter cause => "invalid log filter: " ++ cause.message
  | .cannotOpen path fault => "cannot open log file " ++ path ++ ": " ++ fault.message

/-- Why a host cannot listen. -/
inductive HostError where
  /-- None of its addresses is one at which it can listen. -/
  | noListeners
  | cannotBind (socket : SocketAddress) (fault : BindFault)
deriving Repr, DecidableEq

/-- The wording of an error. -/
def HostError.message : HostError → String
  | .noListeners => "no listen address could be bound"
  | .cannotBind socket fault => "failed to bind " ++ socket.toText ++ ": " ++ fault.message

/-- Why a node cannot be assembled or ends. -/
inductive NodeError where
  | config (cause : ConfigError)
  | identity (cause : KeyError)
  | address (cause : AddressListError)
  | host (cause : HostError)
  | store (location : String) (cause : OpenError)
  | driver (name : String) (cause : Sync.DriverError)
  | logging (cause : LogError)
  | task (cause : Supervisor.Failure)

namespace NodeError

/-- The part that is to blame, if it is not a task. -/
def component : NodeError → String
  | .config _ => "config"
  | .identity _ => "identity"
  | .address _ => "address"
  | .host _ => "host"
  | .store _ _ => "store"
  | .driver name _ => "sync driver " ++ name
  | .logging _ => "logging"
  | .task cause => cause.message

/-- The wording of an error. -/
def message (e : NodeError) : String :=
  match e with
  | .config cause => e.component ++ ": " ++ cause.message
  | .identity cause => e.component ++ ": " ++ cause.message
  | .address cause => e.component ++ ": " ++ cause.message
  | .host cause => e.component ++ ": " ++ cause.message
  | .store location cause =>
    e.component ++ ": cannot open record store at " ++ location ++ ": " ++ cause.reason
  | .driver _ cause => e.component ++ ": " ++ cause.message
  | .logging cause => e.component ++ ": " ++ cause.message
  | .task _ => e.component

end NodeError

end Rendezvous
