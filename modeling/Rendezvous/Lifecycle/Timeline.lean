import Rendezvous.Lifecycle.Supervisor

/-!
# Rendezvous.Lifecycle.Timeline

A supervisor whose tasks follow plans on a clock that moves only when nothing else can: of
the turns that can be taken, tasks come before the supervisor, and what is due earlier comes
first.

* `TaskPlan`: what a task does;
* `Timeline.run`: all that happens, and when.
-/

namespace Rendezvous

/-- What a task does: it sleeps; if it waits, it then waits until it is told to stop and
sleeps again; then it ends. -/
structure TaskPlan where
  name : String
  delay : Nat
  waits : Bool
  /-- How long it sleeps after it was told to stop. -/
  after : Nat
  ending : Ending
  /-- Whether a call to shut down tells it to stop, before it is interrupted. -/
  hearsShutdown : Bool
deriving Repr, DecidableEq, Inhabited

/-- Where a task is in its plan. -/
inductive PlanStage where
  | asleep (wake : Nat)
  | waiting
  /-- It has been told to stop. -/
  | leaving (wake : Nat)
deriving Repr, DecidableEq, Inhabited

/-- A supervisor on a clock. -/
structure Timeline where
  supervisor : Supervisor
  plans : List TaskPlan
  stages : List PlanStage
  now : Nat
  /-- When there will be a call to shut down. -/
  triggerAt : Option Nat
  /-- What has happened, and when. -/
  events : List (Nat × Happening)

namespace Timeline

/-- A timeline at its start. -/
def start (plans : List TaskPlan) (triggered : Bool) (triggerAt : Option Nat) : Timeline :=
  { supervisor := .start (plans.map (·.name)) triggered,
    plans, stages := plans.map fun p => .asleep p.delay, now := 0, triggerAt, events := [] }

/-- Takes a turn, and notes what happened in it. -/
def take? (t : Timeline) (l : Label) : Option Timeline :=
  (t.supervisor.step? l).map fun s =>
    { t with supervisor := s,
             events := t.events ++ (s.history.drop t.supervisor.history.length).map (t.now, ·) }

/-- Whether a task has been told to stop. -/
def told (t : Timeline) (i : Nat) (p : TaskPlan) : Bool :=
  (p.hearsShutdown && t.supervisor.triggered)
    || (t.supervisor.tasks[i]?).any (·.interrupted)

/-- A running task goes on in its plan, if it is time: it goes to another stage, or ends. -/
def progress (t : Timeline) (i : Nat) : Option (Sum PlanStage Ending) :=
  match t.plans[i]?, t.stages[i]?, t.supervisor.tasks[i]? with
  | some p, some stage, some task =>
    if task.state ≠ .running then none
    else
      match stage with
      | .asleep wake =>
        if t.now < wake then none
        else if p.waits then some (.inl .waiting)
        else some (.inr p.ending)
      | .waiting => if t.told i p then some (.inl (.leaving (t.now + p.after))) else none
      | .leaving wake => if t.now < wake then none else some (.inr p.ending)
  | _, _, _ => none

/-- A turn of a task, if it has one. -/
def taskTurn? (t : Timeline) (i : Nat) : Option Timeline :=
  match [Label.enter i, .begin i].findSome? t.take? with
  | some t => some t
  | none =>
    match t.progress i with
    | some (.inl stage) => some { t with stages := t.stages.set i stage }
    | some (.inr e) => t.take? (.finish i e)
    | none => none

/-- The call to shut down, if it is time. -/
def triggerTurn? (t : Timeline) : Option Timeline :=
  match t.triggerAt with
  | some moment => if moment ≤ t.now then { t with triggerAt := none }.take? .trigger else none
  | none => none

/-- A turn of the supervisor, if it has one. Where a task has ended and there was a call to shut
down as well, the supervisor may take either; here it looks at the task. -/
def supervisorTurn? (t : Timeline) : Option Timeline :=
  [Label.join, .observe, .interrupt false, .drain, .stop].findSome? t.take?

/-- The next moment after now at which something is due. -/
def nextMoment? (t : Timeline) : Option Nat :=
  let wakes := t.stages.filterMap fun
    | .asleep wake | .leaving wake => some wake
    | .waiting => none
  ((wakes ++ t.triggerAt.toList).filter (t.now < ·)).min?

/-- Takes one turn of those that can be taken, or lets the time pass. -/
def turn? (t : Timeline) : Option Timeline :=
  match (List.range t.plans.length).findSome? t.taskTurn?, t.triggerTurn?, t.supervisorTurn? with
  | some t, _, _ | none, some t, _ | none, none, some t => some t
  | none, none, none => t.nextMoment?.map fun now => { t with now }

/-- Takes turns until the supervisor has stopped, but not more than `fuel`. -/
def runFor (t : Timeline) : (fuel : Nat) → Timeline
  | 0 => t
  | fuel + 1 =>
    if t.supervisor.phase = .stopped then t
    else
      match t.turn? with
      | some t => t.runFor fuel
      | none => t

/-- As many turns as there can be: a task has at most nine, with those that the supervisor
has with it and the moments at which it wakes, and a few are of the supervisor alone. -/
def turns (t : Timeline) : Nat := 9 * t.plans.length + 8

/-- Takes turns until the supervisor has stopped, or nothing more can happen. -/
def run (t : Timeline) : Timeline := t.runFor t.turns

end Timeline

end Rendezvous
