import Rendezvous.Sync.Frame

/-!
# Rendezvous.Sync.Handshake

The first exchange with a broker: the node shows its key, and the broker lets it in or turns
it away. Whatever is neither text nor an end does not count.
-/

namespace Rendezvous.Sync

/-- What comes from a broker. -/
inductive Arrival where
  | text (s : String)
  /-- A sign of life, or data that is no text. -/
  | other
  /-- The broker says that it closes the connection. -/
  | close
  /-- The connection has ended. -/
  | ended
  | failure (reason : String)
deriving Repr, DecidableEq, Inhabited

/-- Reads a message from its text. -/
def Frame.read (text : String) : Except Json.DecodeError Frame :=
  Json.decode Frame.decoder (Bytes.ofString text)

namespace Handshake

/-- What a node says first. -/
def greeting (key origin : String) : Frame := .auth key origin

/-- What a node says once it is let in. -/
def subscription : Frame := .subscribe channelStart

/-- What a text means while the node waits to be let in. -/
def verdict (text : String) : Except String Unit :=
  match Frame.read text with
  | .ok .ack => .ok ()
  | .ok (.error reason) => .error ("rejected: " ++ reason)
  | .ok frame => .error ("unexpected frame " ++ frame.debug)
  | .error e => .error e.message

/-- Whether the node is let in, given all that comes before the time is up. -/
def outcome : List Arrival → Except String Unit
  | [] => .error "timed out"
  | .text s :: _ => verdict s
  | .other :: rest => outcome rest
  | .close :: _ | .ended :: _ => .error "closed during handshake"
  | .failure reason :: _ => .error reason

end Handshake

end Rendezvous.Sync
