import Rendezvous.Json.Debug
import Rendezvous.Json.Untyped

/-!
# Rendezvous.Sync.Frame

What a node and a broker say to each other, one JSON object a message. Channels are named
by namespace, and a subscription matches by what a channel's name starts with.

* `Sync.Frame`, with its JSON form;
* `Sync.channelFor`: the channel of a namespace.
-/

namespace Rendezvous.Sync

/-- A message between a node and a broker. -/
inductive Frame where
  | auth (key origin : String)
  | ack
  | error (reason : String)
  | subscribe (channel : String)
  | publish (channel : String) (payload : Json.Value)
  | message (channel : String) (payload : Json.Value)
deriving Inhabited

/-- What the names of all channels start with. -/
def channelStart : String := "rendezvous/"

/-- The channel for events of a namespace. -/
def channelFor (namespaceName : String) : String := channelStart ++ namespaceName

namespace Frame

/-- The JSON form of a message. -/
def toJson : Frame → Json.Value
  | .auth key origin =>
    .object [("op", .text "auth"), ("key", .text key), ("origin", .text origin)]
  | .ack => .object [("op", .text "ack")]
  | .error reason => .object [("op", .text "error"), ("reason", .text reason)]
  | .subscribe channel => .object [("op", .text "subscribe"), ("channel", .text channel)]
  | .publish channel payload =>
    .object [("op", .text "publish"), ("channel", .text channel), ("payload", payload)]
  | .message channel payload =>
    .object [("op", .text "message"), ("channel", .text channel), ("payload", payload)]

/-- The text of a message. -/
def render (f : Frame) : String := f.toJson.render

/-- The text of a message in reports. -/
def debug : Frame → String
  | .auth key origin =>
    "Auth \x7b key: " ++ Text.quoted key ++ ", origin: " ++ Text.quoted origin ++ " \x7d"
  | .ack => "Ack"
  | .error reason => "Error \x7b reason: " ++ Text.quoted reason ++ " \x7d"
  | .subscribe channel => "Subscribe \x7b channel: " ++ Text.quoted channel ++ " \x7d"
  | .publish channel payload =>
    "Publish \x7b channel: " ++ Text.quoted channel ++ ", payload: "
      ++ payload.canonical.debug ++ " \x7d"
  | .message channel payload =>
    "Message \x7b channel: " ++ Text.quoted channel ++ ", payload: "
      ++ payload.canonical.debug ++ " \x7d"

/-- Reads a message. -/
def decoder : Json.Decoder Frame :=
  Json.tagged "Frame" "op"
    [Json.variant "auth" "struct variant Frame::Auth"
      (auth <$> .required "key" Json.text <*> .required "origin" Json.text),
     Json.variant "ack" "unit variant" (.pure .ack),
     Json.variant "error" "struct variant Frame::Error" (error <$> .required "reason" Json.text),
     Json.variant "subscribe" "struct variant Frame::Subscribe"
      (subscribe <$> .required "channel" Json.text),
     Json.variant "publish" "struct variant Frame::Publish"
      (publish <$> .required "channel" Json.text <*> .required "payload" Json.anything),
     Json.variant "message" "struct variant Frame::Message"
      (message <$> .required "channel" Json.text <*> .required "payload" Json.anything)]

end Frame

end Rendezvous.Sync
