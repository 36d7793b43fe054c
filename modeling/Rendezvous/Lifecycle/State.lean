/-!
# Rendezvous.Lifecycle.State

The state of a component that runs for long. It only moves forward: from not started to
running, to stopping, and to one of two ends.

* `Lifecycle`, with `Lifecycle.canAdvance` and `Lifecycle.advance`.
-/

namespace Rendezvous

/-- The state of a component. -/
inductive Lifecycle where
  | unstarted
  | running
  | stopping
  | stopped
  | failed
deriving Repr, DecidableEq, Inhabited

namespace Lifecycle

/-- The word for a state. -/
def name : Lifecycle → String
  | .unstarted => "unstarted"
  | .running => "running"
  | .stopping => "stopping"
  | .stopped => "stopped"
  | .failed => "failed"

/-- The word for a state in messages. -/
def debug : Lifecycle → String
  | .unstarted => "Unstarted"
  | .running => "Running"
  | .stopping => "Stopping"
  | .stopped => "Stopped"
  | .failed => "Failed"

/-- How far a state is from the start. Both ends are equally far. -/
def rank : Lifecycle → Nat
  | .unstarted => 0
  | .running => 1
  | .stopping => 2
  | .stopped | .failed => 3

/-- The state with a number; a number without a state stands for not started. -/
def ofCode : Nat → Lifecycle
  | 1 => .running
  | 2 => .stopping
  | 3 => .stopped
  | 4 => .failed
  | _ => .unstarted

/-- All states. -/
def all : List Lifecycle := [.unstarted, .running, .stopping, .stopped, .failed]

/-- The state with a word. -/
def ofName? (s : String) : Option Lifecycle := all.find? fun l => l.name == s

/-- Whether a state is an end. -/
def isTerminal : Lifecycle → Bool
  | .stopped | .failed => true
  | _ => false

/-- Whether a state may follow another. -/
def canAdvance (l next : Lifecycle) : Bool := l.rank < next.rank

/-- Moves forward, if that is a step forward: the state after, and whether it was one. -/
def advance (l next : Lifecycle) : Lifecycle × Bool :=
  if l.canAdvance next then (next, true) else (l, false)

end Lifecycle

end Rendezvous
