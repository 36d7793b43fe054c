import Rendezvous.Net.Bandwidth
import Rendezvous.Net.Binding
import Rendezvous.Net.Framing
import Std.Async.TCP

/-!
# Rendezvous.Machine.Sockets

The sockets of the machine. A `Wire` is a connection together with what has arrived on it and
was not yet used; it is asked again and again whether more has come.

* `Machine.bind`: a socket that takes connections;
* `Wire`, `Wire.hear`, `Wire.send`: frames.
-/

namespace Rendezvous.Machine

open Std.Async

/-- An address as the machine takes it. -/
def netAddress (s : SocketAddress) : Std.Net.SocketAddress :=
  match s.ip with
  | .v4 a =>
    let octet (i : Nat) : UInt8 := UInt8.ofNat (a.value / Nat.pow 256 i)
    .v4 ⟨.ofParts (octet 3) (octet 2) (octet 1) (octet 0), UInt16.ofNat s.port⟩
  | .v6 a =>
    let segment (i : Nat) : UInt16 := UInt16.ofNat (a.value / Nat.pow 65536 i)
    .v6 ⟨.ofParts (segment 7) (segment 6) (segment 5) (segment 4) (segment 3) (segment 2)
      (segment 1) (segment 0), UInt16.ofNat s.port⟩

/-- The port of an address. -/
def portOf : Std.Net.SocketAddress → Nat
  | .v4 a => a.port.toNat
  | .v6 a => a.port.toNat

/-- How many connections wait to be taken up. -/
def backlog : UInt32 := 1024

/-- Why a socket could not be bound. -/
def faultOf : IO.Error → BindFault
  | .permissionDenied _ _ _ => .denied
  | .resourceBusy _ _ => .inUse
  | _ => .notAvailable

/-- Binds a socket while others are bound. Answers which it is. -/
def bind (bound : List SocketAddress) (s : SocketAddress) :
    BaseIO (Except BindFault (TCP.Socket.Server × SocketAddress)) := do
  if s.port ≠ 0 ∧ bound.any s.clashes then return .error .inUse
  let opened ← EIO.toBaseIO do
    let server ← TCP.Socket.Server.mk
    server.bind (netAddress s)
    server.listen backlog
    return (server, { s with port := portOf (← server.getSockName) })
  return opened.mapError faultOf

/-- The milliseconds between two looks at something that may have changed. -/
def pause : UInt32 := 10

/-- Whether more can come on a connection. -/
inductive Reception where
  | going
  /-- The other side sends nothing more. -/
  | ended
  | broken
deriving DecidableEq

/-- A connection. -/
structure Wire where
  client : TCP.Socket.Client
  /-- What has arrived and was not used. -/
  arrived : IO.Ref Bytes
  /-- What is on its way. -/
  coming : IO.Ref (Option (AsyncTask (Option ByteArray)))
  reception : IO.Ref Reception
  /-- The name of the other side, once it is known. -/
  peer : IO.Ref (Option String)
  /-- Counts bytes. -/
  count : Direction → Option String → Nat → IO Unit

namespace Wire

/-- A new connection. -/
def ofClient (client : TCP.Socket.Client) (count : Direction → Option String → Nat → IO Unit) :
    IO Wire :=
  return ⟨client, ← IO.mkRef [], ← IO.mkRef none, ← IO.mkRef .going, ← IO.mkRef none, count⟩

/-- Tells the name of the other side. The first one stays. -/
def identify (w : Wire) (peer : String) : IO Unit :=
  w.peer.modify fun known => known.or (some peer)

/-- Takes up what has arrived. -/
def collect (w : Wire) (task : AsyncTask (Option ByteArray)) : IO Unit := do
  w.coming.set none
  match ← EIO.toBaseIO task.block with
  | .ok (some bytes) =>
    w.count .inbound (← w.peer.get) bytes.size
    w.arrived.modify (· ++ bytes.toList)
  | .ok none => w.reception.set .ended
  | .error _ => w.reception.set .broken

/-- Looks whether anything has arrived. -/
def look (w : Wire) : IO Unit := do
  if (← w.reception.get) = .going then
    match ← w.coming.get with
    | none =>
      match ← EIO.toBaseIO (EAsync.asTask (w.client.recv? 65536)) with
      | .ok task => w.coming.set (some task)
      | .error _ => w.reception.set .broken
    | some task => if ← IO.hasFinished task then w.collect task

/-- Sends bytes. Answers whether that was possible. -/
def put (w : Wire) (bytes : Bytes) : IO Bool := do
  match ← EIO.toBaseIO (EAsync.block (w.client.send (ByteArray.mk bytes.toArray))) with
  | .ok () =>
    w.count .outbound (← w.peer.get) bytes.length
    return true
  | .error _ => return false

/-- Sends a frame. Answers whether that was possible. -/
def send (w : Wire) (body : Bytes) : IO Bool :=
  match Framing.encode? body with
  | some bytes => w.put bytes
  | none => return false

/-- Tells the other side that nothing more will be sent. -/
def finish (w : Wire) : IO Unit :=
  discard <| EIO.toBaseIO (EAsync.block w.client.shutdown)

/-- Gives the connection up. -/
def abandon (w : Wire) : IO Unit := do
  w.finish
  discard <| EIO.toBaseIO (EAsync.block (w.client.recvSelector 1).unregisterFn)
  w.coming.set none

/-- What waiting for a frame comes to. -/
inductive Heard where
  | frame (body : Bytes)
  /-- The other side sends nothing more. -/
  | ended
  | broken
  /-- Time is up. -/
  | late
  /-- There is no use in waiting. -/
  | stopped

/-- What has been heard, if anything has. -/
def heard? (w : Wire) : IO (Option Heard) := do
  w.look
  match Framing.next (← w.arrived.get) with
  | .frame body rest =>
    w.arrived.set rest
    return some (.frame body)
  | .tooLong => return some .broken
  | .incomplete =>
    match ← w.reception.get with
    | .going => return none
    | .ended => return some (if (← w.arrived.get).isEmpty then .ended else .broken)
    | .broken => return some .broken

/-- Waits for a frame until a moment of the machine's clock, or until there is no use in it. -/
partial def hear (w : Wire) (deadline : Nat) (stop : IO Bool) : IO Heard := do
  match ← w.heard? with
  | some h => return h
  | none =>
    if ← stop then return .stopped
    if deadline ≤ (← IO.monoMsNow) then return .late
    IO.sleep pause
    w.hear deadline stop

end Wire

end Rendezvous.Machine
