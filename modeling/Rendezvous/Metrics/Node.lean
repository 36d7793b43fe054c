import Rendezvous.Metrics.Registry
import Rendezvous.Net.Bandwidth
import Rendezvous.Time.Duration

/-!
# Rendezvous.Metrics.Node

What a node reports of itself: names, labels and descriptions.
-/

namespace Rendezvous.Registry

/-- A series without labels. -/
def plain (name : String) : Series := ⟨name, []⟩

/-- The version of the node. -/
def version : String := "0.1.0"

/-- What the names stand for. -/
def descriptions : List (String × String) :=
  [("rdvp_build_info", "Build information"),
   ("rdvp_uptime_seconds", "Time since the node started"),
   ("rdvp_runtime_workers", "Tokio worker threads"),
   ("rdvp_runtime_alive_tasks", "Tokio tasks alive"),
   ("rdvp_host_connections", "Open host connections"),
   ("rdvp_bandwidth_inbound_bytes_total", "Bytes received by the host"),
   ("rdvp_bandwidth_outbound_bytes_total", "Bytes sent by the host"),
   ("rdvp_records", "Stored rendezvous registrations"),
   ("rdvp_records_reclaimed_total", "Expired registrations removed"),
   ("rdvp_rendezvous_requests_total", "Rendezvous requests handled"),
   ("rdvp_sync_events_total", "Sync events published and received"),
   ("rdvp_sync_events_dropped_total", "Sync events dropped"),
   ("rdvp_relay_circuits_total", "Relay circuit attempts by outcome"),
   ("rdvp_relay_active_circuits", "Relay circuits currently open"),
   ("rdvp_relay_reservations", "Relay reservations currently held"),
   ("rdvp_relay_bytes_total", "Bytes relayed through circuits")]

/-- Describes all names. -/
def describeAll (r : Registry) : Registry :=
  descriptions.foldl (fun r d => r.describe d.1 d.2) r

/-- Tells the version. -/
def buildInfo (r : Registry) : Registry :=
  r.set ⟨"rdvp_build_info", [("version", version)]⟩ (.ofNat 1)

/-- A length of time in seconds: the whole ones and the rest are rounded apart. -/
def seconds (d : Duration) : Binary64 :=
  (Binary64.ofNat d.secs).add ((Binary64.ofNat (d.nanos % 1000000000)).div (.ofNat 1000000000))

/-- Tells how long the node has been up. -/
def uptime (r : Registry) (d : Duration) : Registry :=
  r.set (plain "rdvp_uptime_seconds") (seconds d)

/-- Tells how many connections are open. -/
def connections (r : Registry) (active : Nat) : Registry :=
  r.set (plain "rdvp_host_connections") (.ofNat active)

/-- Copies the bytes of one peer, or of all connections together. -/
def totals (r : Registry) (labels : List (String × String)) (t : Totals) : Registry :=
  (r.raise ⟨"rdvp_bandwidth_inbound_bytes_total", labels⟩ t.inbound).raise
    ⟨"rdvp_bandwidth_outbound_bytes_total", labels⟩ t.outbound

/-- Copies the counters of bytes. The other peers are left out as long as they have none. -/
def bandwidth (r : Registry) (b : Bandwidth) : Registry :=
  let r := r.totals [] b.total
  let r := b.peers.foldl (fun r e => r.totals [("peer", e.1)] e.2) r
  if b.other = .zero then r else r.totals [("peer", Bandwidth.otherName)] b.other

/-- Tells how many records are stored. -/
def storeSize (r : Registry) (n : Nat) : Registry := r.set (plain "rdvp_records") (.ofNat n)

/-- Counts expired records that were dropped. -/
def reclaimed (r : Registry) (n : Nat) : Registry :=
  r.increment (plain "rdvp_records_reclaimed_total") n

/-- Counts a request, under what was asked and what became of it. -/
def request (r : Registry) (operation status : String) : Registry :=
  r.increment ⟨"rdvp_rendezvous_requests_total", [("op", operation), ("status", status)]⟩ 1

/-- Counts an event that a driver carried. -/
def syncEvent (r : Registry) (driver direction kind : String) : Registry :=
  r.increment ⟨"rdvp_sync_events_total",
    [("driver", driver), ("direction", direction), ("kind", kind)]⟩ 1

/-- Counts an event that a driver dropped. -/
def syncDropped (r : Registry) (driver reason : String) : Registry :=
  r.increment ⟨"rdvp_sync_events_dropped_total", [("driver", driver), ("reason", reason)]⟩ 1

/-- Counts an attempt at a circuit. -/
def circuit (r : Registry) (outcome : String) : Registry :=
  r.increment ⟨"rdvp_relay_circuits_total", [("outcome", outcome)]⟩ 1

/-- Tells how many circuits are open, and how many reservations are held. -/
def relayActive (r : Registry) (circuits reservations : Nat) : Registry :=
  (r.set (plain "rdvp_relay_active_circuits") (.ofNat circuits)).set
    (plain "rdvp_relay_reservations") (.ofNat reservations)

/-- Counts bytes that went through circuits. -/
def relayBytes (r : Registry) (n : Nat) : Registry :=
  r.increment (plain "rdvp_relay_bytes_total") n

end Rendezvous.Registry
