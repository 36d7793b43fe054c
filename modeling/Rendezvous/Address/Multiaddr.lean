import Rendezvous.Address.Ip
import Rendezvous.Bytes.Multibase
import Rendezvous.Bytes.Percent
import Rendezvous.Bytes.Utf8
import Rendezvous.Bytes.Varint
import Rendezvous.Text.Capital

/-!
# Rendezvous.Address.Multiaddr

Addresses as paths of components, each the name of a protocol and what it takes: `/ip4/` and
an address, `/tcp/` and a port, or a name alone.

* `Multiaddr.parse`, `Multiaddr.toText`: the text, in which equal addresses are equal;
* `Multiaddr.toBytes`: the binary form;
* `Multiaddr.socket`: the socket to bind, for an address that begins with an IP address and a
  TCP port;
* `Multiaddr.parseList`: several addresses with commas between them.
-/

namespace Rendezvous

/-! ### Multihashes -/

/-- A self-describing hash: the code of a way of hashing, and a digest. -/
structure Multihash where
  code : Nat
  digest : Bytes
deriving Repr, DecidableEq

namespace Multihash

/-- The bytes of a hash: the code, the length of the digest, and the digest. -/
def toBytes (h : Multihash) : Bytes :=
  Varint.encode h.code ++ Varint.encode h.digest.length ++ h.digest

/-- Reads a code, a length of at most 64 and that many bytes, to the end. -/
def ofBytes (bs : Bytes) : Except String Multihash := do
  let (code, rest) ← (Varint.decodeShortest bs).mapError Varint.Flaw.message
  let (size, rest) ← (Varint.decodeShortest rest).mapError Varint.Flaw.message
  if 64 < size then .error ("Invalid multihash size " ++ toString size ++ ".")
  if rest.length < size then .error "failed to fill whole buffer"
  if size < rest.length then
    .error ("Invalid multihash size " ++ toString (rest.length - size) ++ ".")
  return ⟨code, rest⟩

/-- Reads a hash that may name a peer: a SHA-256 digest, or a key of at most 42 bytes. -/
def ofPeerBytes (bs : Bytes) : Except String Multihash :=
  match ofBytes bs with
  | .error _ => .error "invalid multihash"
  | .ok h =>
    if h.code = 0x12 ∨ (h.code = 0 ∧ h.digest.length ≤ 42) then .ok h
    else .error ("unsupported multihash code '" ++ toString h.code ++ "'")

end Multihash

/-! ### Components -/

/-- Protocols that take a port. -/
inductive PortProtocol where
  | tcp | udp | dccp | sctp
deriving Repr, DecidableEq

/-- Protocols that take a name. -/
inductive NameProtocol where
  | dns | dns4 | dns6 | dnsaddr | sni | unix | ip6zone
deriving Repr, DecidableEq

/-- Protocols that take nothing. -/
inductive BareProtocol where
  | tls | noise | udt | utp | http | https | quic | quicV1 | webTransport | webRtc
  | webRtcDirect | p2pWebRtcDirect | p2pWebRtcStar | p2pWebSocketStar | p2pStardust
  | p2pCircuit
deriving Repr, DecidableEq

/-- Protocols that take a path. -/
inductive PathProtocol where
  | ws | wss
deriving Repr, DecidableEq

/-- One component of an address. -/
inductive Component where
  | ip4 (a : Ipv4)
  | ip6 (a : Ipv6)
  | port (protocol : PortProtocol) (number : Nat)
  | name (protocol : NameProtocol) (value : String)
  | bare (protocol : BareProtocol)
  | path (protocol : PathProtocol) (value : String)
  | memory (number : Nat)
  | ipcidr (bits : Nat)
  /-- The hash that names a peer. -/
  | peer (hash : Multihash)
  /-- The hash of a certificate. -/
  | certHash (hash : Multihash)
  /-- A hidden service of either generation, by its key and a port. -/
  | onion (third : Bool) (key : Bytes) (number : Nat)
  /-- A destination in a garlic network, in long or short form. -/
  | garlic (short : Bool) (destination : Bytes)
deriving Repr, DecidableEq

/-- An address. -/
abbrev Multiaddr : Type := List Component

/-- Why a text is no address. -/
inductive MultiaddrError where
  /-- Not a path, or a hidden service that is none. -/
  | invalid
  /-- A protocol without what it takes. -/
  | incomplete
  /-- The name of no protocol. -/
  | unknownProtocol (name : String)
  /-- What a protocol takes is not well-formed. -/
  | unreadable (reason : String)
deriving Repr, DecidableEq

/-- The wording of an error. -/
def MultiaddrError.message : MultiaddrError → String
  | .invalid => "invalid multiaddr"
  | .incomplete => "invalid protocol string"
  | .unknownProtocol name => "unknown protocol string: " ++ name
  | .unreadable reason => "failed to parse: " ++ reason

/-! ### Names and codes -/

/-- The name of a protocol. -/
def PortProtocol.tag : PortProtocol → String
  | .tcp => "tcp" | .udp => "udp" | .dccp => "dccp" | .sctp => "sctp"

/-- The number of a protocol. -/
def PortProtocol.code : PortProtocol → Nat
  | .tcp => 6 | .udp => 273 | .dccp => 33 | .sctp => 132

/-- The name of a protocol. -/
def NameProtocol.tag : NameProtocol → String
  | .dns => "dns" | .dns4 => "dns4" | .dns6 => "dns6" | .dnsaddr => "dnsaddr" | .sni => "sni"
  | .unix => "unix" | .ip6zone => "ip6zone"

/-- The number of a protocol. -/
def NameProtocol.code : NameProtocol → Nat
  | .dns => 53 | .dns4 => 54 | .dns6 => 55 | .dnsaddr => 56 | .sni => 449 | .unix => 400
  | .ip6zone => 42

/-- The name of a protocol. -/
def BareProtocol.tag : BareProtocol → String
  | .tls => "tls" | .noise => "noise" | .udt => "udt" | .utp => "utp" | .http => "http"
  | .https => "https" | .quic => "quic" | .quicV1 => "quic-v1"
  | .webTransport => "webtransport" | .webRtc => "webrtc" | .webRtcDirect => "webrtc-direct"
  | .p2pWebRtcDirect => "p2p-webrtc-direct" | .p2pWebRtcStar => "p2p-webrtc-star"
  | .p2pWebSocketStar => "p2p-websocket-star" | .p2pStardust => "p2p-stardust"
  | .p2pCircuit => "p2p-circuit"

/-- The number of a protocol. -/
def BareProtocol.code : BareProtocol → Nat
  | .tls => 448 | .noise => 454 | .udt => 301 | .utp => 302 | .http => 480 | .https => 443
  | .quic => 460 | .quicV1 => 461 | .webTransport => 465 | .webRtc => 281
  | .webRtcDirect => 280 | .p2pWebRtcDirect => 276 | .p2pWebRtcStar => 275
  | .p2pWebSocketStar => 479 | .p2pStardust => 277 | .p2pCircuit => 290

/-- All protocols that take nothing. -/
def BareProtocol.all : List BareProtocol :=
  [.tls, .noise, .udt, .utp, .http, .https, .quic, .quicV1, .webTransport, .webRtc,
    .webRtcDirect, .p2pWebRtcDirect, .p2pWebRtcStar, .p2pWebSocketStar, .p2pStardust,
    .p2pCircuit]

/-- All protocols that take a port. -/
def PortProtocol.all : List PortProtocol := [.tcp, .udp, .dccp, .sctp]

/-- All protocols that take a name. -/
def NameProtocol.all : List NameProtocol :=
  [.dns, .dns4, .dns6, .dnsaddr, .sni, .unix, .ip6zone]

/-- The name of a component's protocol. A web socket has another name if its path is not the
root. -/
def Component.tag : Component → String
  | .ip4 _ => "ip4"
  | .ip6 _ => "ip6"
  | .port p _ => p.tag
  | .name p _ => p.tag
  | .bare p => p.tag
  | .path .ws s => if s = "/" then "ws" else "x-parity-ws"
  | .path .wss s => if s = "/" then "wss" else "x-parity-wss"
  | .memory _ => "memory"
  | .ipcidr _ => "ipcidr"
  | .peer _ => "p2p"
  | .certHash _ => "certhash"
  | .onion third _ _ => if third then "onion3" else "onion"
  | .garlic short _ => if short then "garlic32" else "garlic64"

/-! ### Reading -/

/-- A failure inside what a protocol takes. -/
def unreadable {α : Type} (r : Except String α) : Except MultiaddrError α :=
  r.mapError .unreadable

/-- A number below a bound. -/
def numberArgument (bound : Nat) (s : String) : Except MultiaddrError Nat :=
  unreadable ((Decimal.parseBelow bound s).mapError Decimal.ParseError.message)

/-- A path with bytes spelled in it. -/
def pathArgument (s : String) : Except MultiaddrError String :=
  let bs := Percent.decode (Bytes.ofString s)
  match Bytes.toString? bs with
  | some t => .ok t
  | none =>
    match Utf8.flaw? bs with
    | some f => .error (.unreadable f.message)
    | none => .error .invalid

/-- A key of a given length in base 32. Where padding leaves it short, zero bytes follow. -/
def onionKey? (size : Nat) (s : String) : Option Bytes := do
  let bs ← Multibase.paddedDecode? Multibase.upper32.toList 8 5 s.toList
  return bs ++ List.replicate (size - bs.length) 0

/-- A key in base 32 and a port that is not zero, with a colon between them, in letters of
either size. -/
def onionArgument (third : Bool) (s : String) : Except MultiaddrError Component := do
  let size := if third then 35 else 10
  match (Text.inCapitals s).splitOn ":" with
  | key :: port :: rest =>
    if key.utf8ByteSize * 5 ≠ size * 8 then .error .invalid
    let n ← numberArgument 65536 port
    if n = 0 ∨ rest ≠ [] then .error .invalid
    match onionKey? size key with
    | some bs => return .onion third bs n
    | none => .error .invalid
  | _ => .error .invalid

/-- The name of a peer in base 58. -/
def peerArgument (s : String) : Except MultiaddrError Component :=
  match Multibase.numberDecode? Base58.alphabet s.toList with
  | none => .error (.unreadable Multibase.DecodeError.invalidText.message)
  | some bs => .peer <$> unreadable (Multihash.ofPeerBytes bs)

/-- The hash of a certificate in any base. -/
def certHashArgument (s : String) : Except MultiaddrError Component := do
  let bs ← unreadable ((Multibase.decode s).mapError Multibase.DecodeError.message)
  .certHash <$> unreadable (Multihash.ofBytes bs)

/-- A destination in base 64, with other signs for its last two digits. -/
def longGarlicArgument (s : String) : Except MultiaddrError Component :=
  let digits := s.toList.map fun c => if c = '-' then '+' else if c = '~' then '/' else c
  if s.utf8ByteSize < 516 ∨ 616 < s.utf8ByteSize then .error .incomplete
  else match Multibase.groupDecode? Multibase.plain64.toList 6 digits with
    | some bs => .ok (.garlic false bs)
    | none => .error (.unreadable Multibase.DecodeError.invalidText.message)

/-- A destination in base 32, in letters of either size. -/
def shortGarlicArgument (s : String) : Except MultiaddrError Component :=
  if s.utf8ByteSize < 55 ∧ s.utf8ByteSize ≠ 52 then .error .incomplete
  else match Multibase.Base.decode? ⟨.bits 5, Multibase.both32, id⟩ s.toList with
    | some bs => .ok (.garlic true bs)
    | none => .error (.unreadable Multibase.DecodeError.invalidText.message)

/-- The component that a protocol and what it takes make. -/
def Component.ofArgument (tag s : String) : Except MultiaddrError Component :=
  match tag with
  | "ip4" =>
    match Ipv4.parse? s with
    | some a => .ok (.ip4 a)
    | none => .error (.unreadable "invalid IPv4 address syntax")
  | "ip6" =>
    match Ipv6.parse? s with
    | some a => .ok (.ip6 a)
    | none => .error (.unreadable "invalid IPv6 address syntax")
  | "memory" => (numberArgument (Nat.pow 2 64) s).map .memory
  | "ipcidr" => (numberArgument 256 s).map .ipcidr
  | "x-parity-ws" => (pathArgument s).map (.path .ws)
  | "x-parity-wss" => (pathArgument s).map (.path .wss)
  | "p2p" | "ipfs" => peerArgument s
  | "certhash" => certHashArgument s
  | "onion" => onionArgument false s
  | "onion3" => onionArgument true s
  | "garlic64" => longGarlicArgument s
  | "garlic32" => shortGarlicArgument s
  | _ =>
    match PortProtocol.all.find? (·.tag == tag), NameProtocol.all.find? (·.tag == tag) with
    | some p, _ => (numberArgument 65536 s).map (.port p)
    | none, some p => .ok (.name p s)
    | none, none => .error (.unknownProtocol tag)

/-- The protocols that take something, besides those that take a port or a name. -/
def argumentTags : List String :=
  ["ip4", "ip6", "memory", "ipcidr", "x-parity-ws", "x-parity-wss", "p2p", "ipfs", "certhash",
    "onion", "onion3", "garlic64", "garlic32"]

/-- Whether a protocol takes something. -/
def takesArgument (tag : String) : Bool :=
  argumentTags.contains tag || PortProtocol.all.any (·.tag == tag)
    || NameProtocol.all.any (·.tag == tag)

/-- The component that a protocol makes alone. -/
def Component.ofTag? (tag : String) : Option Component :=
  match tag with
  | "ws" => some (.path .ws "/")
  | "wss" => some (.path .wss "/")
  | _ => (BareProtocol.all.find? (·.tag == tag)).map .bare

/-- Reads components from the parts of a path. -/
def Multiaddr.ofParts : List String → Except MultiaddrError Multiaddr
  | [] => .ok []
  | [tag] =>
    match Component.ofTag? tag with
    | some c => .ok [c]
    | none => if takesArgument tag then .error .incomplete else .error (.unknownProtocol tag)
  | tag :: s :: rest =>
    match Component.ofTag? tag with
    | some c => (Multiaddr.ofParts (s :: rest)).map (c :: ·)
    | none => do
      let c ← Component.ofArgument tag s
      let cs ← Multiaddr.ofParts rest
      return c :: cs

namespace Multiaddr

/-- Reads an address: nothing, or a path that begins with a slash. -/
def parse (s : String) : Except MultiaddrError Multiaddr :=
  match s.splitOn "/" with
  | "" :: parts => ofParts parts
  | _ => .error .invalid

/-! ### Writing -/

/-- What a component takes, as text. -/
def argumentText : Component → Option String
  | .ip4 a => some a.toText
  | .ip6 a => some a.toText
  | .port _ n => some (toString n)
  | .name _ s => some s
  | .bare _ => none
  | .path _ s =>
    if s = "/" then none
    else some (String.ofList (Percent.encode Percent.inSegment (Bytes.ofString s)))
  | .memory n => some (toString n)
  | .ipcidr n => some (toString n)
  | .peer hash => some (Base58.encode hash.toBytes)
  | .certHash hash =>
    some (String.ofList ('u' :: Multibase.groupEncode Multibase.url64.toList 6 hash.toBytes))
  | .onion _ key n =>
    some (String.ofList (Multibase.groupEncode Multibase.lower32.toList 5 key) ++ ":" ++ toString n)
  | .garlic short destination =>
    if short then
      some (String.ofList (Multibase.groupEncode Multibase.lower32.toList 5 destination))
    else
      let digits := Multibase.groupEncode Multibase.plain64.toList 6 destination
      some (String.ofList (digits.map fun c => if c = '+' then '-' else if c = '/' then '~' else c))

/-- The text of a component. -/
def componentText (c : Component) : String :=
  "/" ++ c.tag ++ match argumentText c with
    | some s => "/" ++ s
    | none => ""

/-- The text of an address. -/
def toText (a : Multiaddr) : String := String.join (a.map componentText)

/-- Bytes after their count. -/
def counted (bs : Bytes) : Bytes := Varint.encode bs.length ++ bs

/-- The binary form of a component: the number of the protocol, and what it takes. -/
def componentBytes : Component → Bytes
  | .ip4 a => Varint.encode 4 ++ a.toBytes
  | .ip6 a => Varint.encode 41 ++ a.toBytes
  | .port p n => Varint.encode p.code ++ Bytes.ofNat 2 n
  | .name p s => Varint.encode p.code ++ counted (Bytes.ofString s)
  | .bare p => Varint.encode p.code
  | .path .ws s =>
    if s = "/" then Varint.encode 477 else Varint.encode 4770 ++ counted (Bytes.ofString s)
  | .path .wss s =>
    if s = "/" then Varint.encode 478 else Varint.encode 4780 ++ counted (Bytes.ofString s)
  | .memory n => Varint.encode 777 ++ Bytes.ofNat 8 n
  | .ipcidr n => Varint.encode 43 ++ Bytes.ofNat 1 n
  | .peer hash => Varint.encode 421 ++ counted hash.toBytes
  | .certHash hash => Varint.encode 466 ++ counted hash.toBytes
  | .onion third key n => Varint.encode (if third then 445 else 444) ++ key ++ Bytes.ofNat 2 n
  | .garlic short destination => Varint.encode (if short then 447 else 446) ++ counted destination

/-- The binary form of an address. -/
def toBytes (a : Multiaddr) : Bytes := a.flatMap componentBytes

/-! ### Sockets -/

/-- Why an address cannot be bound. -/
inductive Unsupported where
  | noIp
  | transport (tag : String)
  | noPort
deriving Repr, DecidableEq

/-- The wording of a reason. -/
def Unsupported.message : Unsupported → String
  | .noIp => "no ip4/ip6 component"
  | .transport tag => "transport '" ++ tag ++ "' is not supported"
  | .noPort => "no tcp port"

/-- The port of the component behind the IP address. -/
def tcpPort : List Component → Except Unsupported Nat
  | [] => .error .noPort
  | .port .tcp n :: _ => .ok n
  | c :: _ => .error (.transport c.tag)

/-- The socket of an address that begins with an IP address and a TCP port. -/
def socket : Multiaddr → Except Unsupported SocketAddress
  | .ip4 a :: rest => (tcpPort rest).map fun n => ⟨.v4 a, n, 0⟩
  | .ip6 a :: rest => (tcpPort rest).map fun n => ⟨.v6 a, n, 0⟩
  | _ => .error .noIp

/-- The address of a socket; a zone is lost. -/
def ofSocket (s : SocketAddress) : Multiaddr :=
  match s.ip with
  | .v4 a => [.ip4 a, .port .tcp s.port]
  | .v6 a => [.ip6 a, .port .tcp s.port]

end Multiaddr

end Rendezvous
