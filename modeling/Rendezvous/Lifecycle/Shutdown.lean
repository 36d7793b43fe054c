/-!
# Rendezvous.Lifecycle.Shutdown

Tokens by which tasks learn that they should stop. A token made from another is cancelled
with it; cancelling it leaves the other alone. All tokens hang below one root.

* `Shutdown`: the root and the tokens below it;
* `Shutdown.isCancelled`: whether a token, or one above it, has been cancelled.
-/

namespace Rendezvous

/-- A token: what it hangs below (the root if nothing), and whether it was itself
cancelled. -/
structure StopToken where
  above : Option Nat
  cancelled : Bool
deriving Repr, DecidableEq, Inhabited

/-- A root and its tokens, numbered in the order in which they were made. -/
structure Shutdown where
  triggered : Bool
  tokens : List StopToken
deriving Repr, DecidableEq, Inhabited

namespace Shutdown

/-- Nothing cancelled, and no tokens. -/
def start : Shutdown := ⟨false, []⟩

/-- Whether a token counts as cancelled, looking at most `fuel` tokens up. -/
def cancelledWithin (s : Shutdown) : (fuel index : Nat) → Bool
  | 0, _ => false
  | fuel + 1, index =>
    match s.tokens[index]? with
    | none => false
    | some t =>
      t.cancelled ||
        match t.above with
        | none => s.triggered
        | some above => s.cancelledWithin fuel above

/-- Whether a token counts as cancelled. -/
def isCancelled (s : Shutdown) (index : Nat) : Bool := s.cancelledWithin (index + 1) index

/-- A new token below the root. -/
def subscribe (s : Shutdown) : Shutdown := { s with tokens := s.tokens ++ [⟨none, false⟩] }

/-- A new token below another. -/
def child (s : Shutdown) (index : Nat) : Shutdown :=
  { s with tokens := s.tokens ++ [⟨some index, false⟩] }

/-- Cancels a token. -/
def cancel (s : Shutdown) (index : Nat) : Shutdown :=
  { s with tokens := s.tokens.modify index fun t => { t with cancelled := true } }

/-- Cancels the root. -/
def trigger (s : Shutdown) : Shutdown := { s with triggered := true }

/-- For each token whether it counts as cancelled. -/
def view (s : Shutdown) : List Bool := (List.range s.tokens.length).map s.isCancelled

end Shutdown

end Rendezvous
