/-!
# Rendezvous.Lifecycle.Supervisor

A supervisor runs some tasks. The first to end, or a call to shut down, is the signal to
stop them all: each is interrupted once, and the supervisor waits until the last has ended.
The error of the task that ended first is the supervisor's own.

Tasks, the supervisor and whoever calls to shut down take turns in any order. Each turn is a
`Label`; `Supervisor.step?` says when it can be taken and what it does. A task first comes to its
gate, which lets it pass unless it was interrupted, and begins in a turn of its own behind it. It
ends whenever and however it likes once it has begun, so nothing is said here of what it does
meanwhile.

* `Supervisor`, `Supervisor.start`, `Supervisor.step?`, `Supervisor.run?`;
* `Supervisor.outcome`: the result, once it has stopped.
-/

namespace Rendezvous

/-- How a task ends. -/
inductive Ending where
  | ok
  | error (message : String)
  /-- The payload of the panic, if it was a text. -/
  | panicked (payload : Option String)
deriving Repr, DecidableEq, Inhabited

/-- The wording of an error. -/
def Ending.failure? : Ending → Option String
  | .ok => none
  | .error message => some message
  | .panicked payload => some ("task panicked: " ++ payload.getD "unknown panic")

/-- How far a task has come. -/
inductive TaskState where
  | registered
  /-- It has passed its gate, and has not begun. -/
  | admitted
  | running
  | returned (e : Ending)
  /-- It was interrupted before it came to its gate, and never began. -/
  | skipped
deriving Repr, DecidableEq, Inhabited

/-- A task under supervision. -/
structure SupervisedTask where
  name : String
  state : TaskState
  interrupted : Bool
deriving Repr, DecidableEq, Inhabited

/-- What happens to a task. -/
inductive Happening where
  | admitted (task : Nat)
  | started (task : Nat)
  | interrupted (task : Nat)
  | ended (task : Nat)
deriving Repr, DecidableEq, Inhabited

/-- What the supervisor is doing. -/
inductive SupervisorPhase where
  /-- It waits for the first task to end, or for a call to shut down. -/
  | watching
  /-- It interrupts the tasks, this one next. -/
  | interrupting (next : Nat)
  /-- It waits for all tasks to end. -/
  | draining
  | stopped
deriving Repr, DecidableEq, Inhabited

/-- A supervisor and its tasks. -/
structure Supervisor where
  tasks : List SupervisedTask
  phase : SupervisorPhase
  /-- Whether there was a call to shut down. -/
  triggered : Bool
  /-- Whether the tasks were let go at all. -/
  launched : Bool
  /-- The tasks that have ended and were not yet looked at, the first in front. A task that
  never began has no ending. -/
  done : List (Nat × Option Ending)
  /-- How many endings were looked at. -/
  joined : Nat
  /-- The task that ended first, if that was the signal. -/
  first : Option (Nat × Ending)
  /-- All that has happened to the tasks. -/
  history : List Happening
deriving Repr, DecidableEq, Inhabited

/-- A turn. -/
inductive Label where
  /-- There is a call to shut down. -/
  | trigger
  /-- A task comes to its gate: it passes, or is turned away. -/
  | enter (task : Nat)
  /-- A task that has passed its gate begins. -/
  | begin (task : Nat)
  /-- A task ends. -/
  | finish (task : Nat) (e : Ending)
  /-- The supervisor looks at the first ending. -/
  | join
  /-- The supervisor hears the call to shut down. -/
  | observe
  /-- The supervisor closes the gate of the next task and interrupts it. What is done to interrupt
  it may panic, which is caught and changes nothing. -/
  | interrupt (panics : Bool)
  /-- The supervisor looks at a further ending. -/
  | drain
  /-- The supervisor stops. -/
  | stop
deriving Repr, DecidableEq, Inhabited

namespace Supervisor

/-- A supervisor begins. Without tasks there is nothing to do. After a call to shut down the
tasks are not let go. -/
def start (names : List String) (triggered : Bool) : Supervisor :=
  { tasks := names.map fun name => ⟨name, .registered, false⟩,
    phase := if names.isEmpty then .stopped
      else if triggered then .interrupting 0
      else .watching,
    triggered, launched := !triggered, done := [], joined := 0, first := none, history := [] }

/-- Changes a task. -/
def setTask (s : Supervisor) (i : Nat) (t : SupervisedTask) : Supervisor :=
  { s with tasks := s.tasks.set i t }

/-- Adds to what has happened. -/
def note (s : Supervisor) (h : Happening) : Supervisor := { s with history := s.history ++ [h] }

/-- How many tasks will have to be looked at. -/
def spawned (s : Supervisor) : Nat := if s.launched then s.tasks.length else 0

/-- The supervisor turns to interrupting, which is itself a call to shut down. -/
def close (s : Supervisor) (first : Option (Nat × Ending)) : Supervisor :=
  { s with phase := .interrupting 0, triggered := true, first }

/-- Takes a turn, if it can be taken. -/
def step? (s : Supervisor) : Label → Option Supervisor
  | .trigger => some { s with triggered := true }
  | .enter i =>
    match s.tasks[i]? with
    | some t =>
      if !s.launched || t.state ≠ .registered then none
      else if t.interrupted then
        let s := s.setTask i { t with state := .skipped }
        some { s with done := s.done ++ [(i, none)] }
      else some ((s.setTask i { t with state := .admitted }).note (.admitted i))
    | none => none
  | .begin i =>
    match s.tasks[i]? with
    | some t =>
      if t.state ≠ .admitted then none
      else some ((s.setTask i { t with state := .running }).note (.started i))
    | none => none
  | .finish i e =>
    match s.tasks[i]? with
    | some t =>
      if t.state ≠ .running then none
      else
        let s := (s.setTask i { t with state := .returned e }).note (.ended i)
        some { s with done := s.done ++ [(i, some e)] }
    | none => none
  | .join =>
    match s.phase, s.done with
    | .watching, (i, ending) :: rest =>
      some (close { s with done := rest, joined := s.joined + 1 } (ending.map fun e => (i, e)))
    | _, _ => none
  | .observe =>
    match s.phase with
    | .watching => if s.triggered then some (s.close none) else none
    | _ => none
  | .interrupt _ =>
    match s.phase with
    | .interrupting i =>
      match s.tasks[i]? with
      | some t =>
        let s := (s.setTask i { t with interrupted := true }).note (.interrupted i)
        some { s with phase := .interrupting (i + 1) }
      | none => some { s with phase := .draining }
    | _ => none
  | .drain =>
    match s.phase, s.done with
    | .draining, _ :: rest => some { s with done := rest, joined := s.joined + 1 }
    | _, _ => none
  | .stop =>
    match s.phase with
    | .draining => if s.joined = s.spawned then some { s with phase := .stopped } else none
    | _ => none

/-- Takes turns one after the other, if they can all be taken. -/
def run? (s : Supervisor) : List Label → Option Supervisor
  | [] => some s
  | l :: ls =>
    match s.step? l with
    | some s => s.run? ls
    | none => none

/-- The error of a supervisor. -/
structure Failure where
  task : String
  source : String
deriving Repr, DecidableEq, Inhabited

/-- The wording of an error; the quotes around the name are part of it. -/
def Failure.message (f : Failure) : String := "task `" ++ f.task ++ "` failed: " ++ f.source

/-- What the supervisor reports: the error of the task that ended first, if it had one. -/
def outcome (s : Supervisor) : Except Failure Unit :=
  match s.first with
  | some (i, e) =>
    match e.failure?, s.tasks[i]? with
    | some source, some t => .error ⟨t.name, source⟩
    | _, _ => .ok ()
  | none => .ok ()

end Supervisor

end Rendezvous
