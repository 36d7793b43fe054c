import Rendezvous.Json.Decode
import Rendezvous.Net.Framing

/-!
# Rendezvous.Net.Negotiation

Each connection speaks one protocol. The client names it in the first frame, and the host
repeats the name if it has a handler for it.

* `Negotiation.answer`: the side of the host;
* `Negotiation.check`: the side of the client;
* `StreamError`: why a stream fails.
-/

namespace Rendezvous

/-- Why a stream fails. -/
inductive StreamError where
  /-- The connection does not carry what is sent or received. -/
  | broken
  | malformed (cause : Json.DecodeError)
  /-- The other side has no handler for a protocol. -/
  | notSupported (protocol : String)
  | closed
  | timedOut

/-- The wording of an error, without the words of the operating system. -/
def StreamError.message : StreamError → String
  | .broken => "io"
  | .malformed cause => "malformed message: " ++ cause.message
  | .notSupported protocol => "protocol " ++ protocol ++ " not supported by remote"
  | .closed => "stream closed"
  | .timedOut => "timed out"

namespace Negotiation

/-- How many seconds the first frame may take. -/
def timeoutSecs : Nat := 10

/-- What a host answers when it has no handler. -/
def notAvailable : String := "na"

/-- The protocol that a first frame names, if there is a handler for it. -/
def chosen? (handlers : List String) (frame : Bytes) : Option String :=
  (Bytes.toString? frame).filter handlers.contains

/-- What a host answers to a first frame. -/
def answer (handlers : List String) (frame : Bytes) : String :=
  (chosen? handlers frame).getD notAvailable

/-- Whether a host speaks a protocol, by its answer, if there was one. -/
def check (protocol : String) : Option Bytes → Except StreamError Unit
  | none => .error .closed
  | some reply =>
    if reply = Bytes.ofString protocol then .ok () else .error (.notSupported protocol)

end Negotiation

end Rendezvous
