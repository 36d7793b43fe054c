import Rendezvous.Cli.Execution
import Rendezvous.Machine.Serve

/-!
# Rendezvous.Main

The program: it looks at the machine, decides what becomes of its arguments, and does it.
-/

namespace Rendezvous.Machine

open Std.Async

/-- The variables that stand in for flags. -/
def environment : IO Cli.Environment := do
  let names := ((Cli.Command.all.flatMap (·.flags)).map (·.env)).eraseDups
  names.filterMapM fun name => return (← IO.getEnv name).map (name, ·)

/-- The sockets that a node asked for, bound in order up to the first that cannot be; the
last is the one of the metrics. -/
structure Sockets where
  bound : List (TCP.Socket.Server × SocketAddress)
  fault : Option BindFault
  exporter : Option (TCP.Socket.Server × SocketAddress)

namespace Sockets

/-- No sockets. -/
def none : Sockets := ⟨[], .none, .none⟩

/-- Binds some sockets behind others. -/
def bindAll (bound : List (TCP.Socket.Server × SocketAddress)) :
    List SocketAddress → IO Sockets
  | [] => return ⟨bound, .none, .none⟩
  | s :: rest => do
    match ← bind (bound.map (·.2)) s with
    | .error fault => return ⟨bound, some fault, .none⟩
    | .ok server => bindAll (bound ++ [server]) rest

/-- Binds what a node with some settings will ask for. -/
def ofConfig (c : NodeConfig) : IO Sockets := do
  unless c.problems.isEmpty do return none
  match Node.addresses c.network.listen with
  | .error _ => return none
  | .ok addrs =>
    let sockets ← bindAll [] (addrs.filterMap fun a => a.socket.toOption)
    match c.metrics.listen.bind SocketAddress.parse? with
    | .none => return sockets
    | some s => return { sockets with exporter := (← bind (sockets.bound.map (·.2)) s).toOption }

/-- What a node is answered that asks for a socket: those that were bound are asked for in
order, and the one of the metrics after all others. -/
def answer (s : Sockets) (bound : List SocketAddress) (_ : SocketAddress) :
    Except BindFault SocketAddress :=
  match s.bound[bound.length]?, s.fault, s.exporter with
  | some (_, address), _, _ => .ok address
  | .none, some fault, _ => .error fault
  | .none, .none, some (_, address) => .ok address
  | .none, .none, .none => .error .notAvailable

end Sockets

/-- Opens the session that a node with some settings will ask for. -/
def openSession (w : Surroundings) (c : NodeConfig) : IO (Except String Session) := do
  unless c.problems.isEmpty do return .error "not needed"
  match Node.identityFor w c.identity with
  | .error _ => return .error "not needed"
  | .ok i =>
    match Node.brokerConfig? c.emitter i.peerId with
    | .none => return .error "not needed"
    | some bc =>
      match SocketUrl.ofServer bc.server with
      | .error _ => return .error "not needed"
      | .ok url => Session.dial bc url

/-- Where a program with some arguments may touch files. -/
def locations (m : Cli.Matches) : List String :=
  (match m.log.destination with
    | .file path => [path]
    | .stderr | .stdout => [])
    ++ if m.command = .serve then [m.nodeConfig.store.location].filter (· ≠ Store.inMemory) else []

/-- The arguments, with the values of their flag file if that can be read. -/
def settled (m : Cli.Matches) (env : Cli.Environment) (v : Volume) (args : List String) :
    Cli.Matches :=
  (m.withNamedFile env v args).toOption.getD m

/-- Leaves what a program leaves behind. -/
def leave (e : Cli.Exit) : IO UInt32 := do
  IO.print e.output
  IO.eprint e.errors
  return UInt32.ofNat e.code

/-- Does what the arguments ask for, which have been read. -/
def obey (m : Cli.Matches) (w : Surroundings) (env : Cli.Environment) (args : List String) :
    IO UInt32 := do
  let file := (m.get? "config").toList
  let m := settled m env (← survey file) args
  let serves := m.command = .serve
  let sockets ← if serves then Sockets.ofConfig m.nodeConfig else pure .none
  let session ← if serves then openSession w m.nodeConfig else pure (.error "not needed")
  let w := { w with bind := sockets.answer, dial := fun _ _ => session.map fun _ => () }
  let before ← survey (file ++ locations m)
  let (after, outcome) := Cli.start w env before args
  save before after
  match outcome with
  | .exits e => leave e
  | .runs n =>
    match ← run n ⟨sockets.bound.map (·.1), sockets.exporter.map (·.1), session.toOption⟩ after with
    | .ok () => return 0
    | .error e => leave (.ofError e)

end Rendezvous.Machine

open Rendezvous in
/-- Runs the program. -/
def main (args : List String) : IO UInt32 := do
  let args := "rdvp" :: args
  let env ← Machine.environment
  let w : Surroundings :=
    { now := ← Machine.timeOfDay, random := (← IO.getRandomBytes 64).toList,
      bind := SocketAddress.bindLocally, dial := fun _ _ => .error "not needed" }
  match Cli.parse env args with
  | .error e => Machine.leave (.ofUsage e)
  | .ok m => Machine.obey m w env args
