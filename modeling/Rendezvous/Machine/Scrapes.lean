import Rendezvous.Machine.Site
import Rendezvous.Metrics.Scrape

/-!
# Rendezvous.Machine.Scrapes

The metrics of a running node, as they are fetched.

* `Site.snapshot`, `Site.serveScrape`.
-/

namespace Rendezvous.Machine.Site

/-- How many seconds a request may take. -/
def scrapeSecs : Nat := 3

/-- The metrics, with what is measured only when it is asked for. -/
def snapshot (s : Site) : IO Registry := do
  let up : Duration := .ofMillis ((← IO.monoMsNow) - s.started)
  let bandwidth ← s.bandwidth.get
  let active := (← s.connections.get).active
  let stored := (← s.store.get).size
  let relay ← s.relay.get
  s.registry.modifyGet fun r =>
    let r := (((r.bandwidth bandwidth).connections active).storeSize stored).relayActive
      relay.slots.active relay.reservations.length
    let r := r.uptime up
    (r, r)

/-- What ends the head of a request. -/
def headEnd : Bytes := Bytes.ofString "\r\n\r\n"

/-- Whether the head of a request is there. -/
def hasHead (bs : Bytes) : Bool :=
  (List.range bs.length).any fun i => headEnd.isPrefixOf (bs.drop i)

/-- The first line of some bytes. -/
def firstLine (bs : Bytes) : String :=
  (Bytes.toString? (bs.takeWhile (· ≠ 13))).getD ""

/-- Answers one request. -/
partial def serveScrape (s : Site) (w : Wire) (deadline : Nat) : IO Unit := do
  w.look
  let bs ← w.arrived.get
  if hasHead bs then
    discard (w.put (Bytes.ofString (Scrape.answer (firstLine bs) (← s.snapshot))))
  else if (← w.reception.get) = .going && (← IO.monoMsNow) < deadline then
    IO.sleep pause
    s.serveScrape w deadline

end Rendezvous.Machine.Site
