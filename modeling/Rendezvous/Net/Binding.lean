import Rendezvous.Address.Ip

/-!
# Rendezvous.Net.Binding

Which sockets a machine without a network can bind: its own, each once.

* `IpAddress.isLoopback`, `IpAddress.isUnspecified`: kinds of addresses;
* `BindFault`, `SocketAddress.bindLocally`.
-/

namespace Rendezvous

/-- Why a socket cannot be bound. -/
inductive BindFault where
  | inUse
  | notAvailable
  | denied
deriving Repr, DecidableEq, Inhabited

/-- The wording of a fault. -/
def BindFault.message : BindFault → String
  | .inUse => "Address already in use (os error 98)"
  | .notAvailable => "Cannot assign requested address (os error 99)"
  | .denied => "Permission denied (os error 13)"

namespace IpAddress

/-- Whether an address stands for all addresses of a machine. -/
def isUnspecified : IpAddress → Bool
  | .v4 a => a.value == 0
  | .v6 a => a.value == 0

/-- Whether an address is one by which a machine reaches itself. -/
def isLoopback : IpAddress → Bool
  | .v4 a => a.value / Nat.pow 2 24 == 127
  | .v6 a => a.value == 1

end IpAddress

namespace SocketAddress

/-- Whether two sockets cannot be bound at one time. -/
def clashes (s t : SocketAddress) : Bool :=
  s.port == t.port && (s.ip == t.ip || s.ip.isUnspecified || t.ip.isUnspecified)

/-- The first port that is given where any free one will do. -/
def firstFreePort : Nat := 32768

/-- Binds a socket while others are bound. Port 0 stands for any free one. -/
def bindLocally (bound : List SocketAddress) (s : SocketAddress) :
    Except BindFault SocketAddress :=
  if !s.ip.isUnspecified && !s.ip.isLoopback then .error .notAvailable
  else if s.port = 0 then .ok { s with port := firstFreePort + bound.length }
  else if bound.any s.clashes then .error .inUse
  else .ok s

end SocketAddress

end Rendezvous
