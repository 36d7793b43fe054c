import Rendezvous.Retry.Backoff
import Rendezvous.Json.Decode

/-!
# Rendezvous.Retry.Policy

Trying again, a bounded number of times. A *token* can call the whole thing off, while it
waits or before an attempt begins.

* `RetryPolicy`: the budget;
* `RetryPolicy.run`: the attempts made, and how it ends;
* `Firing.token`: the token that fires at a moment of a clock on which attempts take no time.
-/

namespace Rendezvous

/-- A budget for attempts: how many, and the delays between them in milliseconds. -/
structure RetryPolicy where
  maxAttempts : Nat
  baseDelay : Nat
  maxDelay : Nat
deriving Repr, DecidableEq, Inhabited

namespace RetryPolicy

/-- The usual budget. -/
def usual : RetryPolicy := ⟨3, 100, 2000⟩

/-- The JSON form of a budget. -/
def toJson (p : RetryPolicy) : Json.Value :=
  .object [("max_attempts", .nat p.maxAttempts), ("base_delay_ms", .nat p.baseDelay),
    ("max_delay_ms", .nat p.maxDelay)]

/-- Reads a budget; what is missing is as usual. -/
def decoder : Json.Decoder RetryPolicy :=
  Json.record "struct RetryPolicy"
    (RetryPolicy.mk <$> .optional "max_attempts" Json.word32 usual.maxAttempts
      <*> .optional "base_delay_ms" Json.word64 usual.baseDelay
      <*> .optional "max_delay_ms" Json.word64 usual.maxDelay)

/-- The text of a budget in messages. -/
def debug (p : RetryPolicy) : String :=
  "RetryPolicy \x7b max_attempts: " ++ toString p.maxAttempts ++ ", base_delay_ms: "
    ++ toString p.baseDelay ++ ", max_delay_ms: " ++ toString p.maxDelay ++ " \x7d"

/-- The delay in milliseconds before an attempt. -/
def delay? (p : RetryPolicy) (attempt jitter : Nat) : Option Nat :=
  Backoff.delay? attempt p.baseDelay p.maxDelay jitter

/-- Whether this much may be added to the delay before an attempt. -/
def allows (p : RetryPolicy) (attempt jitter : Nat) : Bool :=
  Backoff.allows attempt p.baseDelay p.maxDelay jitter

/-- How many attempts there are at most: always one. -/
def attempts (p : RetryPolicy) : Nat := max 1 p.maxAttempts

end RetryPolicy

/-- Whether a token has fired, as it is seen while waiting for an attempt, and right before
one. -/
structure RetryToken where
  whileWaiting : Nat → Bool
  before : Nat → Bool

/-- How trying ends without success. -/
inductive RetryError (ε : Type) where
  /-- All attempts failed; `last` is the failure of the last. -/
  | exhausted (attempts : Nat) (last : ε)
  /-- The token fired. -/
  | cancelled
  /-- A delay did not fit the clock. -/
  | delayOverflow
deriving Repr, DecidableEq

/-- The wording of an end without success. -/
def RetryError.message {ε : Type} (describe : ε → String) : RetryError ε → String
  | .exhausted attempts last =>
    "gave up after " ++ toString attempts ++ " attempts: " ++ describe last
  | .cancelled => "cancelled"
  | .delayOverflow => "attempt to add with overflow"

/-- What trying came to: the numbers of the attempts made, in order, and the end. -/
structure RetryRun (ε α : Type) where
  calls : List Nat
  result : Except (RetryError ε) α

namespace RetryPolicy

/-- Makes attempts from number `attempt` on, `left` more at most. -/
def runFrom {ε α : Type} (p : RetryPolicy) (jitter : Nat → Nat) (token : RetryToken)
    (call : Nat → Except ε α) : (left attempt : Nat) → RetryRun ε α
  | 0, _ => ⟨[], .error .cancelled⟩
  | left + 1, attempt =>
    match p.delay? attempt (jitter attempt) with
    | none => ⟨[], .error .delayOverflow⟩
    | some delay =>
      if delay ≠ 0 ∧ token.whileWaiting attempt then ⟨[], .error .cancelled⟩
      else if token.before attempt then ⟨[], .error .cancelled⟩
      else
        match call attempt with
        | .ok a => ⟨[attempt], .ok a⟩
        | .error e =>
          if left = 0 then ⟨[attempt], .error (.exhausted p.attempts e)⟩
          else
            let rest := runFrom p jitter token call left (attempt + 1)
            { rest with calls := attempt :: rest.calls }

/-- Makes attempts until one succeeds, the budget is spent or the token has fired. -/
def run {ε α : Type} (p : RetryPolicy) (jitter : Nat → Nat) (token : RetryToken)
    (call : Nat → Except ε α) : RetryRun ε α :=
  runFrom p jitter token call p.attempts 0

/-- The moment, in milliseconds from the start, at which an attempt begins if attempts take no
time. -/
def startOf (p : RetryPolicy) (jitter : Nat → Nat) : (attempt : Nat) → Nat
  | 0 => 0
  | n + 1 => startOf p jitter n + ((p.delay? (n + 1) (jitter (n + 1))).getD 0)

end RetryPolicy

/-- When a token fires. -/
inductive Firing where
  | never
  /-- Before all else. -/
  | first
  /-- At a moment of the clock. -/
  | atMoment (ms : Nat)
  /-- While an attempt is being made. -/
  | duringCall (attempt : Nat)
deriving Repr, DecidableEq

/-- The token that fires so. -/
def Firing.token (f : Firing) (p : RetryPolicy) (jitter : Nat → Nat) : RetryToken :=
  match f with
  | .never => ⟨fun _ => false, fun _ => false⟩
  | .first => ⟨fun _ => true, fun _ => true⟩
  | .atMoment ms =>
    ⟨fun n => ms < p.startOf jitter n, fun n => ms < p.startOf jitter n⟩
  | .duringCall k => ⟨fun n => k < n, fun n => k < n⟩

end Rendezvous
