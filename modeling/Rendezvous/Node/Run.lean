import Rendezvous.Node.Assembly
import Rendezvous.Store.Sweeper

/-!
# Rendezvous.Node.Run

A node runs its parts as the tasks of a supervisor. When the supervisor has stopped, the node
closes what it has opened, once, and is stopped or has failed.

* `Node.taskNames`, `Node.supervise`: the tasks;
* `Node.firstSweeps`: what its sweeper does in a time;
* `Node.tearDown`: the end.
-/

namespace Rendezvous.Node

/-- The names of the tasks, in the order in which they begin. -/
def taskNames (n : Node) : List String :=
  ["signals", "host", "sweeper"] ++ n.driverNames.map ("sync:" ++ ·) ++ ["relay"]
    ++ (if n.exporter.isSome then ["metrics"] else [])

/-- The node and its tasks, as they begin to run. -/
def supervise (n : Node) (triggered : Bool) : Node × Supervisor :=
  ({ n with state := (n.state.advance .running).1 }, .start n.taskNames triggered)

/-- How often the sweeper sweeps within so many seconds. -/
def firstSweeps (n : Node) (secs : Nat) : Except (Stop NodeError) Nat :=
  match Sweeper.ticks? n.config.store.sweepIntervalSecs secs with
  | some ticks => .ok ticks
  | none => .error (.crash .noInterval)

/-- Closes what is open: the relay, the driver for the broker and the store. -/
def closeAll (v : Volume) (n : Node) : Volume × Node :=
  let (v, store) := v.closeStore n.store
  (v, { n with relay := n.relay.shutdown, broker := n.broker.map Sync.Broker.close, store })

/-- The state of a node after its supervisor has reported. -/
def lastState : Except Supervisor.Failure Unit → Lifecycle
  | .ok _ => .stopped
  | .error _ => .failed

/-- Ends a node after its supervisor has reported. -/
def tearDown (v : Volume) (n : Node) (report : Except Supervisor.Failure Unit) :
    Volume × Node × Except NodeError Unit :=
  let (v, n) := closeAll v { n with state := (n.state.advance .stopping).1 }
  (v, { n with state := (n.state.advance (lastState report)).1 }, report.mapError .task)

end Rendezvous.Node
