import Rendezvous.Sync.Event

/-!
# Rendezvous.Sync.Driver

Drivers carry the changes made on this node to the others, and theirs to this one.

* `Sync.DriverError`: why a driver fails;
* `Sync.Announcement`: what a driver is asked to carry;
* `Sync.Driver`, `Sync.announceAll`: the drivers of a node, and how each is told of a
  change, whatever becomes of it with the others;
* `Sync.noop`: the driver that carries nothing.
-/

namespace Rendezvous.Sync

/-- Why a driver fails. -/
inductive DriverError where
  | connect (endpoint reason : String)
  /-- The text is not the address of a broker. -/
  | badEndpoint (text : String)
  | closed
  | alreadyRunning
  | protocol (reason : String)
deriving Repr, DecidableEq, Inhabited

/-- The wording of an error. -/
def DriverError.message : DriverError → String
  | .connect endpoint reason => "cannot connect to " ++ endpoint ++ ": " ++ reason
  | .badEndpoint text => "invalid endpoint '" ++ text ++ "'"
  | .closed => "driver is closed"
  | .alreadyRunning => "driver is already running"
  | .protocol reason => "protocol error: " ++ reason

/-- A change made on this node. -/
inductive Announcement where
  /-- The record that is now stored. -/
  | upsert (record : Record)
  /-- The record that was stored. -/
  | remove (record : Record)
deriving DecidableEq

namespace Announcement

/-- The event that other nodes get. -/
def toEvent (origin : String) : Announcement → Event
  | .upsert r => .upsert origin r
  | .remove r => .remove origin r

/-- The record that was changed. -/
def record : Announcement → Record
  | .upsert r | .remove r => r

/-- The word for the kind of change. -/
def kind : Announcement → String
  | .upsert _ => "upsert"
  | .remove _ => "remove"

end Announcement

/-- A driver, in a world of type `σ` that it may change. -/
structure Driver (σ : Type) where
  name : String
  capability : Capability
  /-- Where clients reach its backend. -/
  url : Option String
  /-- Takes a change to be carried. -/
  publish : Announcement → σ → σ × Except DriverError Unit

namespace Driver

variable {σ : Type}

/-- Where clients reach its backend. -/
def endpoint (d : Driver σ) : Option Endpoint := d.url.map fun url => ⟨d.name, url⟩

/-- Tells a driver of a change, if it carries any. That it fails is of no consequence. -/
def announce (d : Driver σ) (a : Announcement) (w : σ) : σ :=
  if d.capability.canPublish then (d.publish a w).1 else w

end Driver

/-- Tells each driver of a change, in order. -/
def announceAll {σ : Type} (ds : List (Driver σ)) (a : Announcement) (w : σ) : σ :=
  ds.foldl (fun w d => d.announce a w) w

/-- Where clients reach the backends of some drivers. -/
def endpoints {σ : Type} (ds : List (Driver σ)) : List Endpoint := ds.filterMap Driver.endpoint

/-- The driver that carries nothing and never fails. -/
def noop (σ : Type) : Driver σ :=
  { name := "noop", capability := .both, url := none, publish := fun _ w => (w, .ok ()) }

end Rendezvous.Sync
