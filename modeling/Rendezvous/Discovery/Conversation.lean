import Rendezvous.Discovery.Service
import Rendezvous.Net.Framing

/-!
# Rendezvous.Discovery.Conversation

A client asks on a stream, one request a frame, and gets one frame in answer to each. What is
no request is answered too. Only an answer that does not fit a frame, or that the client does
not take, ends the conversation.

* `Conversation`, `Conversation.start`;
* `Conversation.receive`, `Conversation.converse`: one frame, and one after the other.
-/

namespace Rendezvous.Discovery

/-- A stream on which a client asks. -/
structure Conversation where
  store : Store
  /-- The client, once it has told its name. -/
  client : Option PeerId
  /-- The answers, in order. -/
  answers : List Response
  /-- What drivers were told, in order. -/
  announced : List Sync.Announcement
  /-- The words under which the requests are counted, in order. -/
  counted : List (String × String)
  isOpen : Bool

namespace Conversation

/-- How many seconds a client may be silent. -/
def idleSecs : Nat := 60

/-- A new stream. -/
def start (store : Store) : Conversation := ⟨store, none, [], [], [], true⟩

/-- An answer as it is sent. -/
def encode (r : Response) : Bytes := Bytes.ofString r.toJson.render

/-- Answers, if the answer fits a frame. -/
def say (c : Conversation) (r : Response) : Conversation :=
  if (Framing.encode? (encode r)).isSome then { c with answers := c.answers ++ [r] }
  else { c with isOpen := false }

/-- The name that a request tells of its client. -/
def nameOf? : Request → Option PeerId
  | .register _ peer _ _ => (PeerId.parse peer).toOption
  | _ => none

/-- Does what a request asks for, and answers. -/
def answer (c : Conversation) (endpoints : List Sync.Endpoint) (now : Instant) (r : Request) :
    Conversation :=
  let o := perform endpoints c.store now r
  { c with store := o.store, client := c.client.or (nameOf? r),
           announced := c.announced ++ o.announced.toList,
           counted := c.counted ++ [label r o.answer] }.say (.ofAnswer o.answer)

/-- Says what is wrong with a frame that is no request. -/
def refuse (c : Conversation) (e : Json.DecodeError) : Conversation :=
  { c with counted := c.counted ++ [("unknown", Status.malformed.wireName)] }.say (.malformed e)

/-- A frame arrives. -/
def receive (endpoints : List Sync.Endpoint) (c : Conversation) (now : Instant)
    (frame : Bytes) : Conversation :=
  if c.isOpen then
    match Json.decode Request.decoder frame with
    | .ok r => c.answer endpoints now r
    | .error e => c.refuse e
  else c

/-- Frames arrive one after the other, each at a time. -/
def converse (endpoints : List Sync.Endpoint) (c : Conversation)
    (frames : List (Instant × Bytes)) : Conversation :=
  frames.foldl (fun c f => receive endpoints c f.1 f.2) c

end Conversation

end Rendezvous.Discovery
