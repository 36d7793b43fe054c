import Rendezvous.Bytes.Base64
import Rendezvous.Digest.Sha1
import Rendezvous.Text.Blank
import Rendezvous.Url.Socket

/-!
# Rendezvous.Net.WebSocket

The client's side of a web socket. A session begins with a request for a page, whose answer
shows that the server knows what is meant. From then on messages are sent in pieces, those of
the client under a mask.

* `WebSocket.request`, `WebSocket.check`: how a session begins;
* `WebSocket.encode`, `WebSocket.next`: pieces;
* `WebSocket.Inbox`: messages from pieces.
-/

namespace Rendezvous.WebSocket

/-! ### The beginning -/

/-- What a server appends to the client's key. -/
def keyEnding : String := "258EAFA5-E914-47DA-95CA-C5AB0DC85B11"

/-- The proof that a server has seen the client's key. -/
def proofOf (key : String) : String :=
  Base64.encode (sha1 (Bytes.ofString (key ++ keyEnding)))

/-- A line break in a request and its answer. -/
def newline : String := "\r\n"

/-- What separates a request or an answer from what follows. -/
def headEnd : Bytes := Bytes.ofString (newline ++ newline)

/-- The host and port that a request names. -/
def authority (u : SocketUrl) : String :=
  u.host.toText ++ (u.port.map fun p => ":" ++ toString p).getD ""

/-- The request with which a session begins. -/
def request (u : SocketUrl) (key : String) : String :=
  let target := u.path ++ (u.query.map ("?" ++ ·)).getD ""
  newline.intercalate
    ["GET " ++ target ++ " HTTP/1.1", "Host: " ++ authority u, "Connection: Upgrade",
      "Upgrade: websocket", "Sec-WebSocket-Version: 13", "Sec-WebSocket-Key: " ++ key]
    ++ newline ++ newline

/-- A line of an answer as a name in small letters and a value. -/
def header (line : String) : String × String :=
  let cs := line.toList
  (String.ofList ((cs.takeWhile (· ≠ ':')).map Char.toLower),
    Text.trim (String.ofList ((cs.dropWhile (· ≠ ':')).drop 1)))

/-- Checks the head of the answer to a request with a key. -/
def check (key head : String) : Except String Unit :=
  match head.splitOn newline with
  | [] => .error "no answer"
  | status :: lines =>
    if (status.splitOn " ").getD 1 "" ≠ "101" then .error ("HTTP error: " ++ status)
    else if (lines.map header).contains ("sec-websocket-accept", proofOf key) then .ok ()
    else .error "the server does not know the key"

/-- Splits what has arrived behind the head of an answer, once it is there. -/
def splitHead? : (head : Bytes) → Bytes → Option (Bytes × Bytes)
  | _, [] => none
  | head, b :: rest =>
    if headEnd.isPrefixOf (b :: rest) then some (head.reverse, (b :: rest).drop headEnd.length)
    else splitHead? (b :: head) rest

/-! ### Pieces -/

/-- What a piece is, or goes on with. -/
inductive Kind where
  | more
  | text
  | binary
  | close
  | ping
  | pong
deriving Repr, DecidableEq, Inhabited

/-- The number of a kind. -/
def Kind.code : Kind → Nat
  | .more => 0
  | .text => 1
  | .binary => 2
  | .close => 8
  | .ping => 9
  | .pong => 10

/-- The kind with a number. -/
def Kind.ofCode? (n : Nat) : Option Kind :=
  [more, text, binary, close, ping, pong].find? fun k => k.code == n

/-- A piece of a message. -/
structure Piece where
  isLast : Bool
  kind : Kind
  payload : Bytes
deriving Repr, DecidableEq, Inhabited

/-- Puts a mask of four bytes over a payload, or takes it away. -/
def masked (mask payload : Bytes) : Bytes :=
  payload.zipIdx.map fun b => b.1 ^^^ mask.getD (b.2 % 4) 0

/-- The length of a payload as it is sent by a client. -/
def lengthBytes (n : Nat) : Bytes :=
  if n < 126 then [UInt8.ofNat (128 + n)]
  else if n < 65536 then 254 :: Bytes.ofNat 2 n
  else 255 :: Bytes.ofNat 8 n

/-- A whole message in one piece, as it is sent by a client. -/
def encode (mask : Bytes) (kind : Kind) (payload : Bytes) : Bytes :=
  UInt8.ofNat (128 + kind.code) :: lengthBytes payload.length ++ mask ++ masked mask payload

/-- What stands at the front of received bytes. -/
inductive Next where
  | piece (p : Piece) (rest : Bytes)
  | incomplete
  | malformed
deriving Repr, DecidableEq

/-- The piece at the front of received bytes. -/
def next : Bytes → Next
  | b₀ :: b₁ :: bs =>
    let short := b₁.toNat % 128
    let width := if short < 126 then 0 else if short = 126 then 2 else 8
    let maskLength := if b₁.toNat < 128 then 0 else 4
    let length := if width = 0 then short else Bytes.toNat (bs.take width)
    let mask := (bs.drop width).take maskLength
    let bs' := bs.drop (width + maskLength)
    if bs.length < width + maskLength ∨ bs'.length < length then .incomplete
    else
      match Kind.ofCode? (b₀.toNat % 16) with
      | some kind =>
        .piece ⟨128 ≤ b₀.toNat, kind, masked mask (bs'.take length)⟩ (bs'.drop length)
      | none => .malformed
  | _ => .incomplete

/-! ### Messages -/

/-- A message. -/
inductive Message where
  | text (s : String)
  | binary (bytes : Bytes)
  | ping (bytes : Bytes)
  | pong
  | close
  /-- A text that is not UTF-8, or a piece out of place. -/
  | malformed
deriving Repr, DecidableEq

/-- The pieces of a message whose end is still to come. -/
structure Inbox where
  open? : Option (Kind × Bytes)
deriving Repr, DecidableEq, Inhabited

namespace Inbox

/-- No pieces. -/
def empty : Inbox := ⟨none⟩

/-- A message whose pieces are there. -/
def whole : Kind → Bytes → Message
  | .text, bytes => ((Bytes.toString? bytes).map Message.text).getD .malformed
  | .binary, bytes => .binary bytes
  | .ping, bytes => .ping bytes
  | .pong, _ => .pong
  | .close, _ => .close
  | .more, _ => .malformed

/-- Adds a piece. Answers the message that it makes whole. -/
def add (i : Inbox) (p : Piece) : Inbox × Option Message :=
  match p.kind, i.open? with
  | .more, some (kind, bytes) =>
    if p.isLast then (empty, some (whole kind (bytes ++ p.payload)))
    else (⟨some (kind, bytes ++ p.payload)⟩, none)
  | .text, none | .binary, none =>
    if p.isLast then (i, some (whole p.kind p.payload)) else (⟨some (p.kind, p.payload)⟩, none)
  | .more, none | .text, some _ | .binary, some _ => (i, some .malformed)
  | .close, _ | .ping, _ | .pong, _ => (i, some (whole p.kind p.payload))

end Inbox

end Rendezvous.WebSocket
