import Rendezvous.Machine.Files
import Rendezvous.Machine.Scrapes
import Rendezvous.Machine.Session
import Rendezvous.Machine.Streams
import Std.Async.Signal

/-!
# Rendezvous.Machine.Serve

A node runs: its tasks under their supervisor, until a signal or the first of them to end
stops them all.

* `Bound`: what a node was given before it runs;
* `Machine.run`.
-/

namespace Rendezvous.Machine

open Std.Async

/-- What a node was given before it runs. -/
structure Bound where
  /-- Its sockets, in the order of its listeners. -/
  servers : List TCP.Socket.Server
  /-- Where the metrics are fetched. -/
  exporter : Option TCP.Socket.Server
  session : Option Session

/-- Does something on the side. -/
def aside (act : IO Unit) : IO Unit := discard (IO.asTask act .dedicated)

namespace Site

/-! ### Connections -/

/-- Takes up a connection, if one is there and a permit is left. -/
def takeUp? (listener : IO.Ref Listener) (server : TCP.Socket.Server) :
    IO (Option (TCP.Socket.Client × Nat)) := do
  if (← listener.get).permits = 0 then return none
  match ← EIO.toBaseIO server.tryAccept with
  | .ok (some client) =>
    let index ← listener.modifyGet fun l => let (l, index) := l.dial.accept; (index, l)
    return index.map fun i => (client, i)
  | .ok none | .error _ => return none

/-- Serves a connection to its end, whatever that is. -/
def serveToEnd (s : Site) (w : Wire) (stop : IO Bool) : IO Unit := do
  let (_, id) ← s.connections.modifyGet fun c => let (c, id) := c.track; ((c, id), c)
  discard (EIO.toBaseIO (s.serve w stop))
  w.abandon
  s.connections.modify (·.close id)

/-- Takes up connections and serves each until it is no use to go on. -/
partial def acceptAll (s : Site) (listener : IO.Ref Listener) (server : TCP.Socket.Server)
    (stop : IO Bool) : IO Unit := do
  if ← stop then return
  match ← takeUp? listener server with
  | none => IO.sleep pause
  | some (client, index) =>
    let w ← Wire.ofClient client s.countBytes
    aside do
      s.serveToEnd w stop
      listener.modify fun l => (l.release index).1
  s.acceptAll listener server stop

/-- How many seconds connections get to finish. -/
def drainSecs : Nat := 5

/-- Waits until no connection is open, but not for long. -/
partial def drain (s : Site) (deadline : Nat) : IO Unit := do
  if (← s.connections.get).active ≠ 0 && (← IO.monoMsNow) < deadline then
    IO.sleep pause
    s.drain deadline

/-! ### Tasks -/

/-- Waits for a signal to stop. -/
def awaitSignal (stop : IO Bool) : IO Ending := do
  let term ← (← Signal.Waiter.mk .sigterm false).wait
  let int ← (← Signal.Waiter.mk .sigint false).wait
  repeat
    if (← IO.hasFinished term) || (← IO.hasFinished int) || (← stop) then return .ok
    IO.sleep pause
  return .ok

/-- Takes up connections at all sockets. -/
def host (s : Site) (servers : List TCP.Socket.Server) (stop : IO Bool) : IO Ending := do
  let loops ← (s.node.listeners.zip servers).mapM fun (l, server) => do
    let listener ← IO.mkRef l
    IO.asTask (s.acceptAll listener server stop) .dedicated
  for task in loops do
    discard (IO.wait task)
  s.drain (← inSeconds drainSecs)
  return .ok

/-- Drops expired records at intervals. -/
partial def sweep (s : Site) (stop : IO Bool) : IO Ending := do
  match s.node.firstSweeps 0 with
  | .error _ => return .panicked (some "`period` must be non-zero.")
  | .ok _ =>
    rest (← inSeconds s.node.config.store.sweepIntervalSecs) stop
    if ← stop then return .ok
    let now ← timeOfDay
    match ← s.store.modifyGet fun store => let (store, r) := store.reclaim now; (r, store) with
    | .error .closed => return .ok
    | .ok count =>
      s.registry.modify (·.reclaimed count)
      s.sweep stop

/-- Stops the relay when it is time. -/
def minder (s : Site) (stop : IO Bool) : IO Ending := do
  repeat
    if ← stop then break
    IO.sleep pause
  while ← s.relayTurn [.stop] do
    pure ()
  return .ok

/-- Serves the metrics. -/
partial def serveScrapes (s : Site) (server : TCP.Socket.Server) (stop : IO Bool) : IO Ending := do
  if ← stop then return .ok
  match ← EIO.toBaseIO server.tryAccept with
  | .ok (some client) =>
    let w ← Wire.ofClient client fun _ _ _ => return ()
    aside do
      s.serveScrape w (← inSeconds scrapeSecs)
      w.abandon
  | .ok none | .error _ => IO.sleep pause
  s.serveScrapes server stop

/-- The driver that carries nothing. -/
def idle (stop : IO Bool) : IO Ending := do
  repeat
    if ← stop then break
    IO.sleep pause
  return .ok

/-- The tasks, in the order of their names. -/
def tasks (s : Site) (b : Bound) : List (IO Bool → IO Ending) :=
  [awaitSignal, s.host b.servers, s.sweep,
    if s.node.broker.isSome then s.drive b.session else idle, s.minder]
    ++ (b.exporter.map s.serveScrapes).toList

end Site

/-! ### Supervision -/

/-- Takes the first of some turns that the supervisor can take. Answers whether there was
one. -/
def supervisorTurn (sup : IO.Ref Supervisor) (labels : List Label) : IO Bool :=
  sup.modifyGet fun s =>
    match labels.findSome? s.step? with
    | some s => (true, s)
    | none => (false, s)

/-- Whether a task has been interrupted. -/
def isInterrupted (sup : IO.Ref Supervisor) (i : Nat) : IO Bool :=
  return (← sup.get).tasks[i]?.any (·.interrupted)

/-- Runs a task, unless it is turned away at its gate. -/
def runTask (sup : IO.Ref Supervisor) (i : Nat) (task : IO Bool → IO Ending) : IO Unit := do
  discard (supervisorTurn sup [.enter i])
  if ← supervisorTurn sup [.begin i] then
    let ending ← EIO.toBaseIO (task (isInterrupted sup i))
    let ending := match ending with
      | .ok e => e
      | .error e => .error (toString e)
    discard (supervisorTurn sup [.finish i ending])

/-- Watches over the tasks until the supervisor has stopped. -/
partial def watch (sup : IO.Ref Supervisor) : IO (Except Supervisor.Failure Unit) := do
  if ← supervisorTurn sup [.join, .observe, .interrupt false, .drain, .stop] then watch sup
  else if (← sup.get).phase = .stopped then return (← sup.get).outcome
  else
    IO.sleep pause
    watch sup

/-! ### The disk -/

/-- Brings the files up to date with the store. -/
def keep (s : Site) (files : IO.Ref Volume) : IO Unit := do
  let before ← files.get
  let after ← s.store.modifyGet fun store =>
    match store.queue with
    | none | some [] => (before, store)
    | some _ =>
      ((before.closeStore { store with closed := false }).1, { store with queue := some [] })
  save before after
  files.set after

/-- Brings the files up to date again and again. -/
partial def keepAll (s : Site) (files : IO.Ref Volume) (finished : IO Bool) : IO Unit := do
  keep s files
  unless ← finished do
    IO.sleep 100
    keepAll s files finished

/-- Runs a node, from its first task to the end of its parts. -/
def run (n : Node) (b : Bound) (v : Volume) : IO (Except NodeError Unit) := do
  let (n, sup) := n.supervise false
  let s ← Site.ofNode n
  let files ← IO.mkRef v
  let finished ← IO.mkRef false
  let keeper ← IO.asTask (keepAll s files finished.get) .dedicated
  let sup ← IO.mkRef sup
  for (task, i) in (s.tasks b).zipIdx do
    aside (runTask sup i task)
  let report ← watch sup
  finished.set true
  discard (IO.wait keeper)
  let v ← files.get
  let node := { n with store := ← s.store.get, relay := ← s.relay.get, broker := ← s.broker.get }
  let (v', _, result) := node.tearDown v report
  save v v'
  return result

end Rendezvous.Machine
