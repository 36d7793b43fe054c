import Rendezvous.Config.Basic
import Rendezvous.Net.Negotiation
import Rendezvous.Relay.Message

/-!
# Rendezvous.Relay.Limits

What circuits may take: how many there are at one time, the bytes of each and how long it
lasts. Whatever has no limit is free.

* `Relay.Limits`, `Relay.LimitReached`;
* `Relay.Slots`: places for circuits;
* `Relay.Budget`: the bytes of one circuit;
* `Relay.Error`: why a circuit does not come about or ends.
-/

namespace Rendezvous.Relay

/-- What circuits may take. -/
structure Limits where
  maxCircuits : Option Nat
  /-- Bytes of each circuit, both directions together. -/
  maxData : Option Nat
  maxDuration : Option Duration
deriving Repr, DecidableEq, Inhabited

namespace Limits

/-- The limits that a node's settings give. -/
def ofConfig (c : RelayConfig) : Limits :=
  ⟨c.maxCircuits, c.maxDataBytes, c.maxDurationSecs.map .ofSecs⟩

/-- No limits. -/
def unlimited : Limits := ⟨none, none, none⟩

end Limits

/-- A limit that was reached. -/
inductive LimitReached where
  | circuits (max : Nat)
  | data (max : Nat)
  | lifetime (max : Duration)
deriving Repr, DecidableEq

/-- The wording of a limit. -/
def LimitReached.message : LimitReached → String
  | .circuits max => "circuit limit of " ++ toString max ++ " reached"
  | .data max => "circuit data limit of " ++ toString max ++ " bytes reached"
  | .lifetime max => "circuit exceeded its " ++ max.describe ++ " lifetime"

/-- Why a circuit does not come about or ends. -/
inductive Error where
  | resourceExceeded (limit : LimitReached)
  | rejected (code : ErrorCode) (message : String)
  | unexpectedReply
  | stream (cause : StreamError)
  /-- A connection failed while it carried bytes. -/
  | broken

/-- The wording of an error. -/
def Error.message : Error → String
  | .resourceExceeded limit => "resource limit exceeded: " ++ limit.message
  | .rejected code message => "relay refused: " ++ code.debug ++ ": " ++ message
  | .unexpectedReply => "unexpected reply from relay"
  | .stream cause => cause.message
  | .broken => "io"

/-- Places for circuits. -/
structure Slots where
  active : Nat
  max : Option Nat
deriving Repr, DecidableEq, Inhabited

namespace Slots

/-- Whether no place is left. -/
def isFull (s : Slots) : Bool := s.max.any fun max => max ≤ s.active

/-- Takes a place, if one is left. -/
def acquire (s : Slots) : Except LimitReached Slots :=
  match s.max with
  | some max =>
    if max ≤ s.active then .error (.circuits max) else .ok { s with active := s.active + 1 }
  | none => .ok { s with active := s.active + 1 }

/-- Gives a place back. -/
def release (s : Slots) : Slots := { s with active := s.active - 1 }

end Slots

/-- The bytes of a circuit. -/
structure Budget where
  used : Nat
  max : Option Nat
deriving Repr, DecidableEq, Inhabited

namespace Budget

/-- Whether more bytes do not fit. -/
def exceeds (b : Budget) (bytes : Nat) : Bool := b.max.any fun max => max < b.used + bytes

/-- Counts bytes that are about to be carried. Those that do not fit are counted too. -/
def charge (b : Budget) (bytes : Nat) : Budget × Except LimitReached Unit :=
  let b := { b with used := b.used + bytes }
  match b.max with
  | some max => (b, if max < b.used then .error (.data max) else .ok ())
  | none => (b, .ok ())

end Budget

end Rendezvous.Relay
