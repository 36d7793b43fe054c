import Rendezvous.Discovery.Error
import Rendezvous.Sync.Driver

/-!
# Rendezvous.Discovery.Service

What becomes of a request: the store that it leaves, the answer, and the change that the
drivers are told of. Only a registration or removal that was made is announced; an event of
another node never is.

* `Discovery.register`, `Discovery.unregister`, `Discovery.discover`;
* `Discovery.perform`, `Discovery.respond`: a request as it comes from a stream;
* `Discovery.applyEvent`: a change made on another node.
-/

namespace Rendezvous.Discovery

/-- What became of a request. -/
structure Outcome (α : Type) where
  store : Store
  answer : Except Error α
  /-- What the drivers are told. -/
  announced : Option Sync.Announcement

namespace Outcome

/-- Nothing was changed. -/
def unchanged {α : Type} (s : Store) (answer : Except Error α) : Outcome α := ⟨s, answer, none⟩

/-- The same with another answer. -/
def map {α β : Type} (f : α → β) (o : Outcome α) : Outcome β :=
  ⟨o.store, o.answer.map f, o.announced⟩

end Outcome

/-- The number of records on a page if a request does not say. -/
def defaultPageSize : Nat := 100

/-- The most records on a page. -/
def maxPageSize : Nat := 1000

/-- The number of records on a page. -/
def pageSize : Option Nat → Nat
  | none | some 0 => defaultPageSize
  | some n => Nat.min n maxPageSize

/-- Accepts the lifetimes that a store grants in full. -/
def checkTtl (s : Store) (ttl : Duration) : Except Error Unit :=
  if ttl.nanos = 0 ∨ s.maxTtl.nanos < ttl.nanos then .error (.badTtl ttl) else .ok ()

/-- Registers a peer. -/
def register (s : Store) (now : Instant) (reg : Registration) : Outcome Record :=
  match checkNamespace reg.namespaceName, checkTtl s reg.ttl with
  | .error e, _ | .ok _, .error e => .unchanged s (.error e)
  | .ok _, .ok _ =>
    match s.upsert now reg with
    | (s, .error e) => .unchanged s (.error (.store e))
    | (s, .ok (r, _)) => ⟨s, .ok r, some (.upsert r)⟩

/-- Registers peers one after the other, up to the first that cannot be. Answers the place of
the last in the order. -/
def registerAll (s : Store) (now : Instant) : List Registration → Store × Except Error Nat
  | [] => (s, .ok 0)
  | reg :: rest =>
    match register s now reg with
    | ⟨s, .error e, _⟩ => (s, .error e)
    | ⟨s, .ok r, _⟩ => if rest.isEmpty then (s, .ok r.seq) else registerAll s now rest

/-- Removes a registration. That there is none is no error. -/
def unregister (s : Store) (now : Instant) (namespaceName : String) (peer : PeerId) :
    Outcome (Option Record) :=
  match checkNamespace namespaceName with
  | .error e => .unchanged s (.error e)
  | .ok _ =>
    match s.remove now (namespaceName, peer) with
    | (s, .error e) => .unchanged s (.error (.store e))
    | (s, .ok removed) => ⟨s, .ok removed, removed.map .remove⟩

/-- A page of what is registered in a namespace, or in all if it is empty. -/
def discover (s : Store) (now : Instant) (namespaceName : String) (limit : Option Nat)
    (cursor : Nat) : Except Error Page := do
  unless namespaceName.isEmpty do checkNamespace namespaceName
  (s.query now namespaceName (pageSize limit) cursor).mapError .store

/-! ### Requests -/

/-- Reads a peer. -/
def readPeer (text : String) : Except Error PeerId :=
  (PeerId.parse text).mapError (.badPeer text)

/-- Reads addresses. -/
def readAddrs : List String → Except Error (List Multiaddr)
  | [] => .ok []
  | text :: rest => do
    let a ← (Multiaddr.parse text).mapError (.badAddress text)
    let as ← readAddrs rest
    return a :: as

/-- Reads what is to be registered. -/
def readRegistration (namespaceName peer : String) (addrs : List String) (ttl : Option Nat) :
    Except Error Registration := do
  let p ← readPeer peer
  let as ← readAddrs addrs
  return ⟨namespaceName, p, as, (ttl.map Duration.ofSecs).getD Registration.defaultTtl⟩

/-- Does what is asked. -/
def perform (endpoints : List Sync.Endpoint) (s : Store) (now : Instant) :
    Request → Outcome Response
  | .register ns peer addrs ttl =>
    match readRegistration ns peer addrs ttl with
    | .error e => .unchanged s (.error e)
    | .ok reg => (register s now reg).map fun _ => .registered reg.ttl.secs
  | .unregister ns peer =>
    match readPeer peer with
    | .error e => .unchanged s (.error e)
    | .ok p => (unregister s now ns p).map fun _ => .unregistered
  | .discover ns limit cursor =>
    .unchanged s ((discover s now ns limit cursor).map fun page =>
      .discovered page.records page.cursor)
  | .syncInfo => .unchanged s (.ok (.syncInfo endpoints))

/-- The response that carries an answer. -/
def Response.ofAnswer : Except Error Response → Response
  | .ok r => r
  | .error e => .error e.status e.message

/-- The response to a frame that is no request. -/
def Response.malformed (e : Json.DecodeError) : Response := .error .malformed e.message

/-- The word under which a request is counted, and the one for what became of it. -/
def label {α : Type} (r : Request) (answer : Except Error α) : String × String :=
  (r.operation, match answer with
    | .ok _ => "ok"
    | .error e => e.status.wireName)

/-! ### Events -/

/-- Takes over a change made on another node. Answers whether the store changed. -/
def applyEvent (s : Store) (now : Instant) : Sync.Event → Store × Except Error Bool
  | .upsert _ r =>
    let (s, answer) := s.merge now r
    (s, answer.mapError .store)
  | .remove _ r =>
    let (s, answer) := s.removeIfNotFresher now r
    (s, answer.mapError .store)

end Rendezvous.Discovery
