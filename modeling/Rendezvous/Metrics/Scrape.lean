import Rendezvous.Metrics.Registry

/-!
# Rendezvous.Metrics.Scrape

How the metrics are fetched: one resource, which can be read and not changed.

* `Scrape.body`: the metrics, those of one name together;
* `Scrape.answer`: the answer to a request, by its first line.
-/

namespace Rendezvous.Scrape

/-- The lines on the counters of a name. -/
def counterLines (r : Registry) (name : String) : List String :=
  r.commentsOn "counter" name
    ++ (r.counters.filter (·.1.name = name)).map fun e => e.1.toText ++ " " ++ toString e.2

/-- The lines on the gauges of a name. -/
def gaugeLines (r : Registry) (name : String) : List String :=
  r.commentsOn "gauge" name
    ++ (r.gauges.filter (·.1.name = name)).map fun e => e.1.toText ++ " " ++ e.2.positional

/-- The metrics, with an empty line behind those of each name. -/
def body (r : Registry) : String :=
  let counters := (r.counters.map (·.1.name)).eraseDups.map (counterLines r)
  let gauges := (r.gauges.map (·.1.name)).eraseDups.map (gaugeLines r)
  String.join ((counters ++ gauges).map fun lines =>
    String.join (lines.map (· ++ "\n")) ++ "\n")

/-- Where the metrics are. -/
def resource : String := "/metrics"

/-- What kind of text they are. -/
def contentType : String := "text/plain; version=0.0.4"

/-- An answer; a body that is not wanted is left out, but its length is told. -/
def reply (status : String) (headers : List (String × String)) (body : String)
    (wanted : Bool) : String :=
  let length := ("content-length", toString body.utf8ByteSize)
  let lines := (headers ++ [length, ("connection", "close")]).map fun h => h.1 ++ ": " ++ h.2
  String.intercalate "\r\n" (("HTTP/1.1 " ++ status) :: lines) ++ "\r\n\r\n"
    ++ (if wanted then body else "")

/-- The text up to a question mark. -/
def pathOf (target : String) : String := String.ofList (target.toList.takeWhile (· ≠ '?'))

/-- The answer to a request that begins with a line. -/
def answer (line : String) (r : Registry) : String :=
  match line.splitOn " " with
  | method :: target :: _ =>
    if pathOf target ≠ resource then reply "404 Not Found" [] "" true
    else if method = "GET" ∨ method = "HEAD" then
      reply "200 OK" [("content-type", contentType)] (body r) (method = "GET")
    else reply "405 Method Not Allowed" [("allow", "GET,HEAD")] "" true
  | _ => reply "400 Bad Request" [] "" true

end Rendezvous.Scrape
