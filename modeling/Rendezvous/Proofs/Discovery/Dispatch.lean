import Rendezvous.Discovery.Service
import Rendezvous.Proofs.Data.Outcome
import Rendezvous.Proofs.Peer.Id
import Rendezvous.Proofs.Store.Change

/-!
# Rendezvous.Proofs.Discovery.Dispatch

What a request does, and what the drivers are told of it. A request that fails has changed no
record and no tombstone, at whichever of its checks it failed and even if the store was closed
under it. One that is granted is announced once to each driver that carries changes, and to no
other, with the record that is now stored or that was.

What a driver does with an announcement is its own affair. So the drivers are given a *log* in
which each notes what it is asked to carry before it does anything, and the log is the same
whatever they do.

* `Discovery.performClosing`: a request while the store is being closed;
* `Discovery.Served`, `Discovery.served_perform`, `Discovery.served_performClosing`: what a
  request does;
* `Sync.logged`, `Sync.announceAll_logged`, `Sync.of_asked`: what drivers are asked to carry;
* `Discovery.Desk`, `Discovery.Desk.serve_faithful`: a store with its drivers, and what both
  make of a request.
-/

namespace Rendezvous

namespace Discovery

/-! ### Requests and the store's part in them -/

/-- Does what is asked, given what the store makes of a registration and of a removal. -/
def performBy (endpoints : List Sync.Endpoint) (s : Store) (now : Instant)
    (upsert : Registration → Store × Except Store.Error (Record × UpsertOutcome))
    (remove : Record.Key → Store × Except Store.Error (Option Record)) :
    Request → Outcome Response
  | .register ns peer addrs ttl =>
    match readRegistration ns peer addrs ttl with
    | .error e => .unchanged s (.error e)
    | .ok reg =>
      match checkNamespace reg.namespaceName, checkTtl s reg.ttl with
      | .error e, _ | .ok _, .error e => .unchanged s (.error e)
      | .ok _, .ok _ =>
        match upsert reg with
        | (s, .error e) => .unchanged s (.error (.store e))
        | (s, .ok (r, _)) => ⟨s, .ok (.registered reg.ttl.secs), some (.upsert r)⟩
  | .unregister ns peer =>
    match readPeer peer with
    | .error e => .unchanged s (.error e)
    | .ok p =>
      match checkNamespace ns with
      | .error e => .unchanged s (.error e)
      | .ok _ =>
        match remove (ns, p) with
        | (s, .error e) => .unchanged s (.error (.store e))
        | (s, .ok removed) => ⟨s, .ok .unregistered, removed.map .remove⟩
  | r => perform endpoints s now r

theorem perform_eq (endpoints : List Sync.Endpoint) (s : Store) (now : Instant) (r : Request) :
    perform endpoints s now r = performBy endpoints s now (s.upsert now) (s.remove now) r := by
  cases r with
  | register ns peer addrs ttl =>
      cases hreg : readRegistration ns peer addrs ttl with
      | error e => simp only [perform, performBy, hreg]
      | ok reg =>
          simp only [perform, performBy, register, hreg]
          cases checkNamespace reg.namespaceName with
          | error e => rfl
          | ok _ =>
              cases checkTtl s reg.ttl with
              | error e => rfl
              | ok _ => rcases s.upsert now reg with ⟨s', e | r⟩ <;> rfl
  | unregister ns peer =>
      cases hp : readPeer peer with
      | error e => simp only [perform, performBy, hp]
      | ok p =>
          simp only [perform, performBy, unregister, hp]
          cases checkNamespace ns with
          | error e => rfl
          | ok _ => rcases s.remove now (ns, p) with ⟨s', e | r⟩ <;> rfl
  | discover ns limit cursor => rfl
  | syncInfo => rfl

/-- Does what is asked of a store that is closed once it was found open. Questions look at the
store only once. -/
def performClosing (endpoints : List Sync.Endpoint) (s : Store) (now : Instant) :
    Request → Outcome Response :=
  performBy endpoints s now (s.close.upsertOpen now) (s.close.removeOpen now)

/-! ### What a request does -/

/-- Whether a request only asks. -/
def Request.isQuestion : Request → Bool
  | .discover _ _ _ | .syncInfo => true
  | .register _ _ _ _ | .unregister _ _ => false

/-- What a request does. -/
inductive Served (s : Store) (now : Instant) : Request → Outcome Response → Prop
  | refused {r : Request} {s' : Store} (e : Error) (hr : s'.records = s.records)
      (ht : s'.tombstones = s.tombstones) (hq : r.isQuestion = false) :
      Served s now r (.unchanged s' (.error e))
  | registered {ns peer : String} {addrs : List String} {ttl : Option Nat} {reg : Registration}
      (hreg : readRegistration ns peer addrs ttl = .ok reg) :
      Served s now (.register ns peer addrs ttl)
        ⟨(s.place now reg.key).2.enter (s.granted now reg), .ok (.registered reg.ttl.secs),
          some (.upsert (s.granted now reg))⟩
  | unregistered {ns peer : String} {p : PeerId} {c : Record} (hp : readPeer peer = .ok p)
      (hget : s.records.get? (ns, p) = some c) :
      Served s now (.unregister ns peer)
        ⟨s.evict now (ns, p) c.expiresAt, .ok .unregistered, some (.remove c)⟩
  /-- There is nothing to remove. -/
  | absent {ns peer : String} {p : PeerId} {s' : Store} (hp : readPeer peer = .ok p)
      (hget : s.records.get? (ns, p) = none) (hr : s'.records = s.records)
      (ht : s'.tombstones = s.tombstones) :
      Served s now (.unregister ns peer) (.unchanged s' (.ok .unregistered))
  | answered {r : Request} (answer : Except Error Response) (hq : r.isQuestion = true) :
      Served s now r (.unchanged s answer)

variable {s : Store} {now : Instant}

theorem readPeer_toText (p : PeerId) : readPeer p.toText = .ok p := by
  rw [readPeer, PeerId.parse_toText]
  rfl

theorem readRegistration_eq_ok_iff {ns peer : String} {addrs : List String} {ttl : Option Nat}
    {reg : Registration} :
    readRegistration ns peer addrs ttl = .ok reg ↔
      ∃ p as, readPeer peer = .ok p ∧ readAddrs addrs = .ok as ∧
        reg = ⟨ns, p, as, (ttl.map Duration.ofSecs).getD Registration.defaultTtl⟩ := by
  simp only [readRegistration, bind_eq_ok_iff]
  constructor
  · rintro ⟨p, hp, as, ha, hreg⟩
    exact ⟨p, as, hp, ha, (Except.ok.inj hreg).symm⟩
  · rintro ⟨p, as, hp, ha, rfl⟩
    exact ⟨p, hp, as, ha, rfl⟩

theorem readRegistration_ok {ns peer : String} {addrs : List String} {ttl : Option Nat}
    {reg : Registration} (h : readRegistration ns peer addrs ttl = .ok reg) :
    readPeer peer = .ok reg.peer ∧ reg.namespaceName = ns := by
  obtain ⟨p, as, hp, -, rfl⟩ := readRegistration_eq_ok_iff.1 h
  exact ⟨hp, rfl⟩

/-- What a store may make of a registration: it enters the record, or fails and has changed
nothing. -/
inductive Upserts (s : Store) (now : Instant) (reg : Registration) :
    Store × Except Store.Error (Record × UpsertOutcome) → Prop
  | entered (outcome : UpsertOutcome) :
      Upserts s now reg
        ((s.place now reg.key).2.enter (s.granted now reg), .ok (s.granted now reg, outcome))
  | failed {s' : Store} (e : Store.Error) (hr : s'.records = s.records)
      (ht : s'.tombstones = s.tombstones) : Upserts s now reg (s', .error e)

/-- What a store may make of a removal. -/
inductive Removes (s : Store) (now : Instant) (k : Record.Key) :
    Store × Except Store.Error (Option Record) → Prop
  | evicted {c : Record} (hget : s.records.get? k = some c) :
      Removes s now k (s.evict now k c.expiresAt, .ok (some c))
  | missing {s' : Store} (hget : s.records.get? k = none) (hr : s'.records = s.records)
      (ht : s'.tombstones = s.tombstones) : Removes s now k (s', .ok none)
  | failed {s' : Store} (e : Store.Error) (hr : s'.records = s.records)
      (ht : s'.tombstones = s.tombstones) : Removes s now k (s', .error e)

theorem upserts_upsert (s : Store) (now : Instant) (reg : Registration) :
    Upserts s now reg (s.upsert now reg) := by
  by_cases hc : s.closed
  · rw [Store.upsert, if_pos hc]
    exact .failed _ rfl rfl
  · rw [Store.upsert_eq (Bool.eq_false_iff.2 hc)]
    exact .entered _

theorem removes_remove (s : Store) (now : Instant) (k : Record.Key) :
    Removes s now k (s.remove now k) := by
  by_cases hc : s.closed
  · rw [Store.remove, if_pos hc]
    exact .failed _ rfl rfl
  · rw [Store.remove_eq (Bool.eq_false_iff.2 hc)]
    cases hget : s.records.get? k with
    | none => exact .missing hget rfl rfl
    | some c => exact .evicted hget

/-- A registration that comes too late fails. -/
theorem upserts_upsertOpen_close (s : Store) (now : Instant) (reg : Registration) :
    Upserts s now reg (s.close.upsertOpen now reg) := by
  have heffect := s.close.effect_changeOpen now (.upsert reg)
  simp only [Store.changeOpen] at heffect
  rcases hopen : s.close.upsertOpen now reg with ⟨s', e | ⟨r, outcome⟩⟩ <;> rw [hopen] at heffect
  · obtain ⟨hr, ht, -⟩ := heffect.unchanged
    exact .failed e hr ht
  · cases heffect with
    | registered _ h => cases h

/-- A removal that comes too late fails, or had nothing to remove. -/
theorem removes_removeOpen_close (s : Store) (now : Instant) (k : Record.Key) :
    Removes s now k (s.close.removeOpen now k) := by
  have heffect := s.close.effect_changeOpen now (.remove k)
  simp only [Store.changeOpen] at heffect
  rcases hopen : s.close.removeOpen now k with ⟨s', e | found⟩ <;> rw [hopen] at heffect
  · obtain ⟨hr, ht, -⟩ := heffect.unchanged
    exact .failed e hr ht
  · cases heffect with
    | missing _ hget => exact .missing hget rfl rfl
    | removed _ _ h _ => cases h

theorem served_performBy (endpoints : List Sync.Endpoint)
    {upsert : Registration → Store × Except Store.Error (Record × UpsertOutcome)}
    {remove : Record.Key → Store × Except Store.Error (Option Record)}
    (hupsert : ∀ reg, Upserts s now reg (upsert reg)) (hremove : ∀ k, Removes s now k (remove k))
    (r : Request) : Served s now r (performBy endpoints s now upsert remove r) := by
  have hsame {r : Request} (hq : r.isQuestion = false) (e : Error) :
      Served s now r (.unchanged s (.error e)) := .refused e rfl rfl hq
  cases r with
  | register ns peer addrs ttl =>
      rw [performBy]
      split
      · exact hsame rfl _
      · rename_i reg hreg
        split
        · exact hsame rfl _
        · exact hsame rfl _
        · have hup := hupsert reg
          generalize upsert reg = made at hup
          cases hup with
          | entered outcome => exact .registered hreg
          | failed e hr ht => exact .refused _ hr ht rfl
  | unregister ns peer =>
      rw [performBy]
      split
      · exact hsame rfl _
      · rename_i p hp
        split
        · exact hsame rfl _
        · have hrem := hremove (ns, p)
          generalize remove (ns, p) = made at hrem
          cases hrem with
          | evicted hget => exact .unregistered hp hget
          | missing hget hr ht => exact .absent hp hget hr ht
          | failed e hr ht => exact .refused _ hr ht rfl
  | discover ns limit cursor => exact .answered _ rfl
  | syncInfo => exact .answered _ rfl

theorem served_perform (endpoints : List Sync.Endpoint) (s : Store) (now : Instant)
    (r : Request) : Served s now r (perform endpoints s now r) := by
  rw [perform_eq]
  exact served_performBy endpoints (upserts_upsert s now) (removes_remove s now) r

theorem served_performClosing (endpoints : List Sync.Endpoint) (s : Store) (now : Instant)
    (r : Request) : Served s now r (performClosing endpoints s now r) :=
  served_performBy endpoints (upserts_upsertOpen_close s now) (removes_removeOpen_close s now) r

end Discovery

/-! ### What drivers are asked to carry -/

namespace Sync

variable {σ τ : Type}

/-- What drivers were asked to carry, in order, each time with the driver's place. -/
abbrev Log : Type := List (Nat × Announcement)

/-- What the driver at a place was asked to carry. -/
def Log.of (log : Log) (i : Nat) : List Announcement :=
  log.filterMap fun e => if e.1 = i then some e.2 else none

/-- A driver that first notes what it is asked to carry. -/
def Driver.noting (i : Nat) (d : Driver σ) : Driver (σ × Log) :=
  { name := d.name, capability := d.capability, url := d.url,
    publish := fun a w =>
      let published := d.publish a w.1
      ((published.1, w.2 ++ [(i, a)]), published.2) }

/-- The drivers, each of which first notes what it is asked to carry. -/
def logged (ds : List (Driver σ)) (i : Nat) : List (Driver (σ × Log)) :=
  match ds with
  | [] => []
  | d :: ds => d.noting i :: logged ds (i + 1)

/-- What the drivers are asked to carry if a change is announced. -/
def asked (ds : List (Driver σ)) (a : Announcement) (i : Nat) : Log :=
  match ds with
  | [] => []
  | d :: ds => (if d.capability.canPublish then [(i, a)] else []) ++ asked ds a (i + 1)

theorem announceAll_cons (d : Driver σ) (ds : List (Driver σ)) (a : Announcement) (w : σ) :
    announceAll (d :: ds) a w = announceAll ds a (d.announce a w) := rfl

/-- **Noting changes nothing**, and whatever the drivers do, each is asked in its turn. -/
theorem announceAll_logged (ds : List (Driver σ)) (a : Announcement) (i : Nat) (w : σ)
    (log : Log) :
    announceAll (logged ds i) a (w, log) = (announceAll ds a w, log ++ asked ds a i) := by
  induction ds generalizing i w log with
  | nil => simp [logged, asked, announceAll]
  | cons d ds ih =>
      rw [logged, announceAll_cons, announceAll_cons]
      by_cases hd : d.capability.canPublish
      · have hnoted : (d.noting i).announce a (w, log) = (d.announce a w, log ++ [(i, a)]) := by
          simp [Driver.announce, Driver.noting, hd]
        rw [hnoted, ih, asked, if_pos hd, List.append_assoc]
      · have hpassed : (d.noting i).announce a (w, log) = (d.announce a w, log) := by
          simp [Driver.announce, Driver.noting, hd]
        rw [hpassed, ih, asked, if_neg hd, List.nil_append]

/-- Whether the driver at a place carries changes. -/
def carries (ds : List (Driver σ)) (i : Nat) : Bool := ds[i]?.any (·.capability.canPublish)

theorem Log.of_append (log log' : Log) (i : Nat) : (log ++ log').of i = log.of i ++ log'.of i :=
  List.filterMap_append

theorem of_asked_of_lt {ds : List (Driver σ)} {a : Announcement} {i j : Nat} (h : j < i) :
    (asked ds a i).of j = [] := by
  induction ds generalizing i with
  | nil => rfl
  | cons d ds ih =>
      rw [asked, Log.of_append, ih (by omega)]
      split
      · simp [Log.of, show i ≠ j by omega]
      · rfl

/-- The drivers that carry changes are asked once, and no others are. -/
theorem of_asked (ds : List (Driver σ)) (a : Announcement) (i j : Nat) :
    (asked ds a i).of (i + j) = if carries ds j then [a] else [] := by
  induction ds generalizing i j with
  | nil => rfl
  | cons d ds ih =>
      rw [asked, Log.of_append]
      cases j with
      | zero =>
          rw [of_asked_of_lt (by omega), List.append_nil]
          by_cases hd : d.capability.canPublish <;> simp [Log.of, carries, hd]
      | succ j =>
          have hfirst : Log.of (if d.capability.canPublish then [(i, a)] else []) (i + (j + 1))
              = [] := by
            split <;> simp [Log.of]
          rw [hfirst, List.nil_append, show i + (j + 1) = i + 1 + j by omega, ih]
          rfl

/-- What others see of a driver. -/
def Driver.face (d : Driver σ) : String × Capability × Option String :=
  (d.name, d.capability, d.url)

theorem endpoints_congr {ds : List (Driver σ)} {ds' : List (Driver τ)}
    (h : ds'.map Driver.face = ds.map Driver.face) : endpoints ds' = endpoints ds := by
  have hface {ρ : Type} (ds : List (Driver ρ)) :
      endpoints ds = (ds.map Driver.face).filterMap fun f => f.2.2.map fun url => ⟨f.1, url⟩ := by
    rw [List.filterMap_map]
    rfl
  rw [hface, hface, h]

theorem asked_congr {ds : List (Driver σ)} {ds' : List (Driver τ)}
    (h : ds'.map Driver.face = ds.map Driver.face) (a : Announcement) (i : Nat) :
    asked ds' a i = asked ds a i := by
  induction ds generalizing ds' i with
  | nil =>
      rw [List.map_nil, List.map_eq_nil_iff] at h
      rw [h]
      rfl
  | cons d ds ih =>
      cases ds' with
      | nil => cases h
      | cons d' ds' =>
          obtain ⟨hd, hds⟩ := List.cons.inj h
          have hcap : d'.capability = d.capability := congrArg (·.2.1) hd
          rw [asked, asked, ih hds, hcap]

theorem map_face_logged (ds : List (Driver σ)) (i : Nat) :
    (logged ds i).map Driver.face = ds.map Driver.face := by
  induction ds generalizing i with
  | nil => rfl
  | cons d ds ih => exact congrArg (d.face :: ·) (ih (i + 1))

theorem endpoints_logged (ds : List (Driver σ)) (i : Nat) :
    endpoints (logged ds i) = endpoints ds :=
  endpoints_congr (map_face_logged ds i)

end Sync

namespace Discovery

variable {σ τ : Type}

/-! ### The desk -/

/-- Where requests and events arrive: a node's store, and the world of its drivers. -/
structure Desk (σ : Type) where
  store : Store
  world : σ

namespace Desk

/-- Serves a request and tells the drivers what it changed. The store may be closed once the
request has found it open. -/
def serve (ds : List (Sync.Driver σ)) (closing : Bool) (now : Instant) (d : Desk σ)
    (r : Request) : Desk σ × Except Error Response :=
  let o := (if closing then performClosing else perform) (Sync.endpoints ds) d.store now r
  (⟨o.store, o.announced.elim d.world fun a => Sync.announceAll ds a d.world⟩, o.answer)

/-- Takes over an event of another node. -/
def hear (now : Instant) (d : Desk σ) (e : Sync.Event) : Desk σ :=
  ⟨(applyEvent d.store now e).1, d.world⟩

/-- Serves a request with drivers that note what they are asked to carry, from an empty log. -/
def serveLogged (ds : List (Sync.Driver σ)) (closing : Bool) (now : Instant) (d : Desk σ)
    (r : Request) : Desk (σ × Sync.Log) × Except Error Response :=
  serve (Sync.logged ds 0) closing now ⟨d.store, (d.world, [])⟩ r

/-- What drivers note is what became of the request, and which drivers carry changes. -/
theorem serveLogged_eq (ds : List (Sync.Driver σ)) (closing : Bool) (now : Instant)
    (d : Desk σ) (r : Request) :
    ∃ o : Outcome Response,
      o = (if closing then performClosing else perform) (Sync.endpoints ds) d.store now r ∧
      Served d.store now r o ∧
      d.serveLogged ds closing now r =
        (⟨o.store, ((d.serve ds closing now r).1.world,
          o.announced.elim [] fun a => Sync.asked ds a 0)⟩, o.answer) := by
  refine ⟨_, rfl, ?_, ?_⟩
  · cases closing with
    | true => exact served_performClosing _ _ _ _
    | false => exact served_perform _ _ _ _
  · simp only [serveLogged, serve, Sync.endpoints_logged]
    generalize (if closing then performClosing else perform) _ d.store now r = o
    cases o.announced with
    | none => rfl
    | some a => simp only [Option.elim_some, Sync.announceAll_logged, List.nil_append]

end Desk

variable {o : Outcome Response}

theorem Served.of_error {e : Error} {r : Request} (h : Served s now r o)
    (ho : o.answer = .error e) :
    o.store.records = s.records ∧ o.store.tombstones = s.tombstones ∧ o.announced = none := by
  cases h with
  | refused _ hr ht _ => exact ⟨hr, ht, rfl⟩
  | registered hreg => cases ho
  | unregistered hp hget => cases ho
  | absent hp hget hr ht => exact ⟨hr, ht, rfl⟩
  | answered _ _ => exact ⟨rfl, rfl, rfl⟩

theorem Served.of_register {ns peer : String} {addrs : List String} {ttl : Option Nat}
    {response : Response} (h : Served s now (.register ns peer addrs ttl) o)
    (ho : o.answer = .ok response) :
    ∃ p rec, readPeer peer = .ok p ∧ o.store.records.get? (ns, p) = some rec ∧
      o.announced = some (.upsert rec) := by
  cases h with
  | refused _ _ _ _ => cases ho
  | @registered _ _ _ _ reg hreg =>
      obtain ⟨hp, hns⟩ := readRegistration_ok hreg
      refine ⟨reg.peer, s.granted now reg, hp, ?_, rfl⟩
      have hkey : (ns, reg.peer) = (s.granted now reg).key := by
        rw [Store.granted_key, ← hns]
        rfl
      rw [hkey, Store.get?_records_enter, if_pos rfl]
  | answered _ hq => cases hq

theorem Served.of_unregister {ns peer : String} {response : Response}
    (h : Served s now (.unregister ns peer) o) (ho : o.answer = .ok response) :
    ∃ p, readPeer peer = .ok p ∧ o.announced = (s.records.get? (ns, p)).map .remove := by
  cases h with
  | refused _ _ _ _ => cases ho
  | unregistered hp hget => exact ⟨_, hp, by rw [hget]; rfl⟩
  | absent hp hget _ _ => exact ⟨_, hp, by rw [hget]; rfl⟩
  | answered _ hq => cases hq

theorem Served.of_question {r : Request} (h : Served s now r o) (hq : r.isQuestion = true) :
    o.store = s ∧ o.announced = none := by
  cases h with
  | refused _ _ _ hc => rw [hq] at hc; cases hc
  | registered _ => cases hq
  | unregistered _ _ => cases hq
  | absent _ _ _ _ => cases hq
  | answered _ _ => exact ⟨rfl, rfl⟩

namespace Desk

/-- **What a request changes is what drivers are told of it**, even if the store is closed while
it is served, and whatever the drivers do.

* A request that fails changes no record and no tombstone, and no driver is asked anything.
* If a registration is granted, each driver that carries changes is asked once, to carry the
  record that is now stored; the others are asked nothing.
* If a removal is granted, each driver that carries changes is asked once, to carry the removal
  of the record that was stored, if there was one.
* Questions change nothing, and no driver is asked anything.
* An event of another node reaches no driver.
* Drivers that look alike are asked the same, and the answer is the same, whichever of them
  fail. -/
theorem serve_faithful (ds : List (Sync.Driver σ)) (closing : Bool) (now : Instant) (d : Desk σ)
    (r : Request) :
    let (after, answer) := d.serveLogged ds closing now r
    (∀ e, answer = .error e →
      after.store.records = d.store.records ∧ after.store.tombstones = d.store.tombstones ∧
        after.world.2 = []) ∧
    (∀ ns peer addrs ttl response,
      r = .register ns peer addrs ttl → answer = .ok response →
        ∃ p rec, readPeer peer = .ok p ∧ after.store.records.get? (ns, p) = some rec ∧
          ∀ i, after.world.2.of i = if Sync.carries ds i then [.upsert rec] else []) ∧
    (∀ ns peer response, r = .unregister ns peer → answer = .ok response →
      ∃ p, readPeer peer = .ok p ∧ ∀ i, after.world.2.of i =
        if Sync.carries ds i then ((d.store.records.get? (ns, p)).map .remove).toList else []) ∧
    (r.isQuestion = true → after.store = d.store ∧ after.world.2 = []) ∧
    (∀ e, (after.hear now e).world = after.world) ∧
    (∀ (τ : Type) (ds' : List (Sync.Driver τ)) (w : τ),
      ds'.map Sync.Driver.face = ds.map Sync.Driver.face →
        let (after', answer') := serveLogged ds' closing now ⟨d.store, w⟩ r
        answer' = answer ∧ after'.store = after.store ∧ after'.world.2 = after.world.2) := by
  obtain ⟨o, ho, hserved, heq⟩ := d.serveLogged_eq ds closing now r
  rw [heq]
  have hof (a : Sync.Announcement) (i : Nat) :
      (Sync.asked ds a 0).of i = if Sync.carries ds i then [a] else [] := by
    simpa using Sync.of_asked ds a 0 i
  refine ⟨fun e he => ?_, ?_, ?_, fun hq => ?_, fun e => rfl, fun τ ds' w hfaces => ?_⟩
  · obtain ⟨hr, ht, hnone⟩ := hserved.of_error he
    exact ⟨hr, ht, by rw [hnone]; rfl⟩
  · rintro ns peer addrs ttl response rfl hok
    obtain ⟨p, rec, hp, hget, hsome⟩ := hserved.of_register hok
    refine ⟨p, rec, hp, hget, fun i => ?_⟩
    rw [hsome]
    exact hof _ i
  · rintro ns peer response rfl hok
    obtain ⟨p, hp, htold⟩ := hserved.of_unregister hok
    refine ⟨p, hp, fun i => ?_⟩
    rw [htold]
    cases d.store.records.get? (ns, p) with
    | none => simp [Sync.Log.of]
    | some rec => exact hof _ i
  · obtain ⟨hs, hnone⟩ := hserved.of_question hq
    exact ⟨hs, by rw [hnone]; rfl⟩
  · obtain ⟨o', ho', -, heq'⟩ := serveLogged_eq ds' closing now ⟨d.store, w⟩ r
    have hsame : o' = o := by rw [ho', ho, Sync.endpoints_congr hfaces]
    rw [heq', hsame]
    simp only [Sync.asked_congr hfaces, and_self]

/-- A driver that fails, one that carries no changes, and one that carries them. -/
def mixedDrivers : List (Sync.Driver Unit) :=
  [{ Sync.noop Unit with publish := fun _ w => (w, .error .closed) },
    { Sync.noop Unit with capability := .subscribe },
    { Sync.noop Unit with capability := .publish }]

/-- The registration of a peer for a minute. -/
def chatRequest : Request := .register "chat" (default : PeerId).toText [] (some 60)

theorem serve_faithful_chat :
    let (after, answer) :=
      serveLogged mixedDrivers false 0 ⟨Store.empty (.ofSecs 3600), ()⟩ chatRequest
    let r : Record := ⟨"chat", default, [], 60000, 1⟩
    answer = .ok (.registered 60) ∧ after.store.records.get? ("chat", default) = some r ∧
      after.world.2.of 0 = [.upsert r] ∧ after.world.2.of 1 = [] ∧
      after.world.2.of 2 = [.upsert r] := by
  have hserved : ∃ d, serveLogged mixedDrivers false 0 ⟨Store.empty (.ofSecs 3600), ()⟩
      chatRequest = (d, .ok (.registered 60)) ∧
      d.store.records.get? ("chat", default) = some ⟨"chat", default, [], 60000, 1⟩ := by
    simp only [serveLogged, serve, Bool.false_eq_true, if_false, perform, chatRequest,
      readRegistration, readPeer, PeerId.parse_toText]
    exact ⟨_, rfl, rfl⟩
  have hfaithful := serve_faithful mixedDrivers false 0 ⟨Store.empty (.ofSecs 3600), ()⟩ chatRequest
  obtain ⟨d, hserved, hstored⟩ := hserved
  rw [hserved] at hfaithful ⊢
  obtain ⟨p, r, hp, hget, hof⟩ := hfaithful.2.1 _ _ _ _ _ rfl rfl
  rw [readPeer, PeerId.parse_toText] at hp
  cases hp
  cases hget.symm.trans hstored
  exact ⟨rfl, hstored, hof 0, hof 1, hof 2⟩

end Desk

end Discovery

end Rendezvous
