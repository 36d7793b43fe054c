import Rendezvous.Data.Table
import Rendezvous.Number.Binary64

/-!
# Rendezvous.Metrics.Registry

Counters and gauges under names and labels, and the lines in which they are reported. A
counter has 64 bits; it grows, or is raised to a total that is kept elsewhere. A gauge is
what it was set to last.

* `Series`, `Registry`;
* `Registry.increment`, `Registry.raise`, `Registry.set`, `Registry.describe`;
* `Registry.lines`.
-/

namespace Rendezvous

/-- What is counted: a name, and labels in the order in which they are written. -/
structure Series where
  name : String
  labels : List (String × String)
deriving Repr, DecidableEq, Inhabited

namespace Series

/-- The text of a label's value. A quote is escaped, a line break becomes an escape, and so
does a backslash, unless what follows it makes an escape of it; `pending` tells that a
backslash was read and not yet written. -/
def labelChars : (pending : Bool) → List Char → List Char
  | false, [] => []
  | true, [] => ['\\', '\\']
  | pending, '\n' :: rest => '\\' :: 'n' :: labelChars pending rest
  | _, '"' :: rest => '\\' :: '"' :: labelChars false rest
  | true, '\\' :: rest => '\\' :: '\\' :: labelChars false rest
  | false, '\\' :: rest => labelChars true rest
  | true, c :: rest => '\\' :: '\\' :: c :: labelChars false rest
  | false, c :: rest => c :: labelChars false rest

/-- The text of a label. -/
def labelText (l : String × String) : String :=
  l.1 ++ "=\"" ++ String.ofList (labelChars false l.2.toList) ++ "\""

/-- The text of a series. -/
def toText (s : Series) : String :=
  if s.labels.isEmpty then s.name
  else s.name ++ "\x7b" ++ ",".intercalate (s.labels.map labelText) ++ "\x7d"

end Series

/-- What has been recorded. -/
structure Registry where
  counters : Table Series Nat
  gauges : Table Series Binary64
  /-- What names stand for. -/
  help : Table String String

namespace Registry

/-- Nothing has been recorded. -/
def empty : Registry := ⟨[], [], []⟩

/-- The number of values of a counter. -/
def counterBound : Nat := Nat.pow 2 64

/-- Counts up. -/
def increment (r : Registry) (s : Series) (n : Nat) : Registry :=
  { r with counters := r.counters.alter s fun old => (old.getD 0 + n) % counterBound }

/-- Raises a counter to a total, if it is lower. -/
def raise (r : Registry) (s : Series) (total : Nat) : Registry :=
  { r with counters := r.counters.alter s fun old => Nat.max (old.getD 0) total }

/-- Sets a gauge. -/
def set (r : Registry) (s : Series) (x : Binary64) : Registry :=
  { r with gauges := r.gauges.insert s x }

/-- Says what a name stands for. -/
def describe (r : Registry) (name text : String) : Registry :=
  { r with help := r.help.insert name text }

/-- The values, each on its line. -/
def samples (r : Registry) : List String :=
  r.counters.map (fun e => e.1.toText ++ " " ++ toString e.2)
    ++ r.gauges.map (fun e => e.1.toText ++ " " ++ e.2.positional)

/-- The comments on a name that has values. -/
def commentsOn (r : Registry) (kind name : String) : List String :=
  ((r.help.get? name).map fun text => "# HELP " ++ name ++ " " ++ text).toList
    ++ ["# TYPE " ++ name ++ " " ++ kind]

/-- The comments: each name has its own once. -/
def comments (r : Registry) : List String :=
  (r.counters.map (·.1.name)).eraseDups.flatMap (r.commentsOn "counter")
    ++ (r.gauges.map (·.1.name)).eraseDups.flatMap (r.commentsOn "gauge")

/-- Lines in order. -/
def sorted (lines : List String) : List String := lines.mergeSort fun a b => a ≤ b

/-- What is reported, in order. -/
def lines (r : Registry) : List String := sorted (r.samples ++ r.comments)

end Registry

end Rendezvous
