import Rendezvous.Node.Run
import Rendezvous.Proofs.Config.Problem
import Rendezvous.Proofs.Sync.Endurance

/-!
# Rendezvous.Proofs.Node.Assembly

Whether a node whose settings were accepted can stop without an error. The parts that a node is
put together from make demands of their own on the numbers they are made with, and the check of
the settings knows the lower ends of these numbers only. It guards the interval of the sweeper;
the places of a listener and of the queue, the delays between attempts and the primes of a key
are left to the one who writes the settings.

* `Stop.IsAbort`: a stop that is no error;
* `Node.Steady`: neither assembly nor what was assembled comes to one;
* `NodeConfig.Bounded`: the upper ends;
* `Node.prepare_eq`, `Node.brokerFor_cases`, `Node.assemble_cases`: what assembly comes to;
* `Node.steady_iff`.
-/

namespace Rendezvous

/-- A stop that is no error. A key on which the arithmetic of its check breaks down is one. -/
def Stop.IsAbort : Stop NodeError → Prop
  | .crash _ => True
  | .error (.identity .divisionByZero) => True
  | .error _ => False

/-- The numbers are such as the parts of a node can be made with, and the key can be checked. -/
structure NodeConfig.Bounded (c : NodeConfig) : Prop where
  key : ∀ key, c.identity.privateKey = some key → Identity.load key ≠ .error .divisionByZero
  connections : c.network.maxConnections ≤ Places.most
  queue : c.emitter.isEnabled = true → c.emitter.queueCapacity ≤ Places.most
  delays : c.emitter.isEnabled = true → ¬ c.emitter.retry.Overflows

namespace Node

variable {w : Surroundings} {v : Volume} {c : NodeConfig}

/-! ### Listeners -/

/-- As long as the places of a listener can be counted, only a socket that cannot be bound
stands in the way. -/
theorem listenAt_of_le {most : Nat} (hmost : most ≤ Places.most) (ls : List Listener)
    (addrs : List Multiaddr) {e : Stop NodeError} (h : listenAt w most ls addrs = .error e) :
    ¬ e.IsAbort := by
  induction addrs generalizing ls with
  | nil => cases h
  | cons a rest ih =>
      unfold listenAt at h
      cases hsocket : a.socket with
      | error u =>
          rw [hsocket] at h
          exact ih ls h
      | ok s =>
          simp only [hsocket, bindSocket] at h
          cases hbind : w.bind (ls.map (·.socket)) s with
          | error fault =>
              rw [hbind] at h
              cases h
              exact id
          | ok bound =>
              simp only [hbind, Listener.make, Places.demand, if_pos hmost] at h
              exact ih _ h

/-- Otherwise the first socket that is bound is the end. -/
theorem listenAt_of_lt {most : Nat} (hmost : Places.most < most)
    (hbind : ∀ bound s, ∃ s', w.bind bound s = .ok s') (ls : List Listener)
    {addrs : List Multiaddr} (hsocket : ∃ a ∈ addrs, ∃ s, a.socket = .ok s) :
    listenAt w most ls addrs = .error (.crash (.tooManyPlaces most)) := by
  induction addrs generalizing ls with
  | nil => simp at hsocket
  | cons a rest ih =>
      unfold listenAt
      cases ha : a.socket with
      | error u =>
          refine ih ls ?_
          simpa [ha] using hsocket
      | ok s =>
          obtain ⟨bound, hbound⟩ := hbind (ls.map (·.socket)) s
          simp only [bindSocket, hbound, Listener.make, Places.demand,
            if_neg (Nat.not_le.2 hmost)]
          rfl

/-- Where every socket can be bound there is a listener for each that is found. -/
theorem listenAt_of_bind {most : Nat} (hmost : most ≤ Places.most)
    (hbind : ∀ bound s, ∃ s', w.bind bound s = .ok s') (ls : List Listener)
    {addrs : List Multiaddr} (h : ls ≠ [] ∨ ∃ a ∈ addrs, ∃ s, a.socket = .ok s) :
    ∃ l ls', listenAt w most ls addrs = .ok (l :: ls') := by
  induction addrs generalizing ls with
  | nil =>
      obtain ⟨l, ls', rfl⟩ := List.exists_cons_of_ne_nil (h.resolve_right (by simp))
      exact ⟨l, ls', rfl⟩
  | cons a rest ih =>
      unfold listenAt
      cases ha : a.socket with
      | error u =>
          refine ih ls (h.imp_right fun hsocket => ?_)
          simpa [ha] using hsocket
      | ok s =>
          obtain ⟨bound, hbound⟩ := hbind (ls.map (·.socket)) s
          simp only [bindSocket, hbound, Listener.make, Places.demand, if_pos hmost]
          exact ih _ (.inl (by simp))

theorem listenersFor_of_le {most : Nat} (hmost : most ≤ Places.most) (addrs : List Multiaddr)
    {e : Stop NodeError} (h : listenersFor w most addrs = .error e) : ¬ e.IsAbort := by
  unfold listenersFor at h
  cases hlisten : listenAt w most [] addrs with
  | error e' =>
      rw [hlisten] at h
      cases h
      exact listenAt_of_le hmost [] addrs hlisten
  | ok ls =>
      rw [hlisten] at h
      cases ls <;> cases h
      exact id

theorem listenersFor_of_lt {most : Nat} (hmost : Places.most < most)
    (hbind : ∀ bound s, ∃ s', w.bind bound s = .ok s') {addrs : List Multiaddr}
    (hsocket : ∃ a ∈ addrs, ∃ s, a.socket = .ok s) :
    listenersFor w most addrs = .error (.crash (.tooManyPlaces most)) := by
  rw [listenersFor, listenAt_of_lt hmost hbind [] hsocket]
  rfl

theorem listenersFor_of_bind {most : Nat} (hmost : most ≤ Places.most)
    (hbind : ∀ bound s, ∃ s', w.bind bound s = .ok s') {addrs : List Multiaddr}
    (hsocket : ∃ a ∈ addrs, ∃ s, a.socket = .ok s) :
    ∃ ls, listenersFor w most addrs = .ok ls := by
  obtain ⟨l, ls, hlisten⟩ := listenAt_of_bind hmost hbind [] (.inr hsocket)
  refine ⟨l :: ls, ?_⟩
  rw [listenersFor, hlisten]
  rfl

/-! ### What comes before the store -/

/-- A fresh key is always there; one that was given is read. -/
theorem identityFor_eq (w : Surroundings) (c : IdentityConfig) :
    (c.privateKey = none ∧ ∃ i, identityFor w c = .ok i) ∨
    ∃ key, c.privateKey = some key ∧
      identityFor w c = (Identity.load key).mapError .identity := by
  unfold identityFor
  cases c.privateKey with
  | none => exact .inl ⟨rfl, _, rfl⟩
  | some key => exact .inr ⟨key, rfl, rfl⟩

/-- As long as the check of a key does not break down, only a key that is no key stands in the
way. -/
theorem not_isAbort_of_identityFor {c : IdentityConfig} {e : NodeError}
    (hkey : ∀ key, c.privateKey = some key → Identity.load key ≠ .error .divisionByZero)
    (h : identityFor w c = .error e) : ¬ (Stop.error e).IsAbort := by
  rcases identityFor_eq w c with ⟨-, i, hok⟩ | ⟨key, hsome, hload⟩
  · cases h.symm.trans hok
  · rw [h] at hload
    cases hcause : Identity.load key with
    | ok i =>
        rw [hcause] at hload
        cases hload
    | error cause =>
        rw [hcause] at hload
        cases hload
        cases cause with
        | divisionByZero => exact absurd hcause (hkey key hsome)
        | _ => exact id

/-- Accepted settings leave two things that can fail before the store is opened. -/
theorem prepare_eq (hc : c.problems = []) {addrs : List Multiaddr}
    (hlisten : Multiaddr.parseList c.network.listen = .ok addrs) :
    ∃ announced : List Listener → List Multiaddr,
      prepare w c = (orStop (identityFor w c.identity)).bind fun identity =>
        (listenersFor w c.network.maxConnections addrs).map fun listeners =>
          (identity, listeners, announced listeners) := by
  obtain ⟨-, ⟨announce, hannounce⟩, -⟩ :=
    NetworkConfig.problems_eq_nil_iff.1 (NodeConfig.problems_eq_nil_iff.1 hc).1
  refine ⟨fun ls => if announce.isEmpty then ls.map fun l => .ofSocket l.socket else announce, ?_⟩
  unfold prepare checkConfig addresses
  rw [hc, hlisten, hannounce]
  cases identityFor w c.identity with
  | error e => rfl
  | ok identity =>
      change listenersFor w c.network.maxConnections addrs >>= _ = _
      cases listenersFor w c.network.maxConnections addrs <;> rfl

theorem not_isAbort_of_prepare (hc : c.problems = []) (hb : c.Bounded) {e : Stop NodeError}
    (h : prepare w c = .error e) : ¬ e.IsAbort := by
  obtain ⟨⟨a, as, hlisten⟩, -⟩ :=
    NetworkConfig.problems_eq_nil_iff.1 (NodeConfig.problems_eq_nil_iff.1 hc).1
  obtain ⟨announced, heq⟩ := prepare_eq (w := w) hc hlisten
  rw [heq] at h
  cases hi : identityFor w c.identity with
  | error cause =>
      rw [hi] at h
      cases h
      exact not_isAbort_of_identityFor hb.key hi
  | ok i =>
      rw [hi] at h
      cases hls : listenersFor w c.network.maxConnections (a :: as) with
      | error e' =>
          simp only [orStop, Except.bind, hls] at h
          cases h
          exact listenersFor_of_le hb.connections _ hls
      | ok ls =>
          simp only [orStop, Except.bind, hls] at h
          cases h

/-! ### The driver for the broker -/

/-- The settings that the driver is made with are those of the node. -/
theorem brokerConfig?_eq (c : EmitterConfig) (peer : PeerId) :
    (c.isEnabled = false ∧ brokerConfig? c peer = none) ∨
    (c.isEnabled = true ∧ ∃ bc, brokerConfig? c peer = some bc ∧ c.server = some bc.server ∧
      bc.queueCapacity = c.queueCapacity ∧ bc.retry = c.retry) := by
  unfold brokerConfig?
  cases he : c.isEnabled with
  | false => exact .inl ⟨rfl, rfl⟩
  | true =>
      rw [EmitterConfig.isEnabled, Bool.and_eq_true, Option.any_eq_true, Option.any_eq_true] at he
      obtain ⟨⟨server, hserver, -⟩, ⟨key, hkey, -⟩⟩ := he
      rw [hserver, hkey]
      exact .inr ⟨rfl, _, rfl, rfl, rfl, rfl⟩

/-- The driver as it stands when a node has been put together. -/
def attached (bc : Sync.BrokerConfig) (url : SocketUrl) (hasSession : Bool) : Sync.Broker :=
  { Sync.Broker.fresh bc url with hasSession, subscribed := true }

/-- What becomes of the driver under accepted settings: there is to be none, its queue is too
long, there is no session though there should be, or it is there. -/
theorem brokerFor_cases (w : Surroundings) {c : EmitterConfig} (hc : c.problems = [])
    (peer : PeerId) :
    (c.isEnabled = false ∧ brokerFor w c peer = .ok none) ∨
    c.isEnabled = true ∧
      ((Places.most < c.queueCapacity ∧
          brokerFor w c peer = .error (.crash (.tooManyPlaces c.queueCapacity))) ∨
        c.queueCapacity ≤ Places.most ∧ ∃ bc url, bc.retry = c.retry ∧
          ((∃ reason e, w.dial bc url = .error reason ∧
              brokerFor w c peer = .error (.error (.driver Sync.Broker.name e))) ∨
            ∃ hasSession, brokerFor w c peer = .ok (some (attached bc url hasSession)))) := by
  rcases brokerConfig?_eq c peer with ⟨he, hnone⟩ | ⟨he, bc, hsome, hserver, hqueue, hretry⟩
  · refine .inl ⟨he, ?_⟩
    rw [brokerFor, hnone]
  refine .inr ⟨he, ?_⟩
  rw [EmitterConfig.problems_eq_nil_iff, if_pos he] at hc
  obtain ⟨url, hurl⟩ := hc.1 _ hserver
  have hplaces : bc.places = c.queueCapacity := by
    rw [Sync.BrokerConfig.places, hqueue]
    exact Nat.max_eq_left (Nat.one_le_iff_ne_zero.2 hc.2)
  have hmake : Sync.Broker.make bc =
      if c.queueCapacity ≤ Places.most then .ok (.fresh bc url)
      else .error (.crash (.tooManyPlaces c.queueCapacity)) := by
    rw [Sync.Broker.make_eq, hurl, hplaces]
  by_cases hmost : c.queueCapacity ≤ Places.most
  · rw [if_pos hmost] at hmake
    refine .inr ⟨hmost, bc, url, hretry, ?_⟩
    simp only [brokerFor, hsome, hmake, connectBroker]
    cases hdial : w.dial (Sync.Broker.fresh bc url).config (Sync.Broker.fresh bc url).url with
    | ok _ => exact .inr ⟨true, rfl⟩
    | error reason =>
        by_cases hmandatory : (Sync.Broker.fresh bc url).config.mandatory
        · refine .inl ⟨reason, (Sync.Broker.fresh bc url).connectError reason, hdial, ?_⟩
          simp only [if_pos hmandatory]
          rfl
        · refine .inr ⟨false, ?_⟩
          simp only [if_neg hmandatory]
          rfl
  · rw [if_neg hmost] at hmake
    refine .inl ⟨Nat.not_le.1 hmost, ?_⟩
    simp only [brokerFor, hsome, hmake]

/-- As long as the queue can be counted, only a broker that cannot be reached stands in the way. -/
theorem not_isAbort_of_brokerFor {c : EmitterConfig} (hc : c.problems = [])
    (hqueue : c.isEnabled = true → c.queueCapacity ≤ Places.most) {peer : PeerId}
    {e : Stop NodeError} (h : brokerFor w c peer = .error e) : ¬ e.IsAbort := by
  rcases brokerFor_cases w hc peer with ⟨-, hnone⟩ | ⟨he, ⟨hlong, -⟩ | ⟨-, bc, url, -,
    ⟨reason, de, -, hfailed⟩ | ⟨hasSession, hok⟩⟩⟩
  · cases h.symm.trans hnone
  · exact absurd (hqueue he) (Nat.not_le.2 hlong)
  · cases h.symm.trans hfailed
    exact id
  · cases h.symm.trans hok

/-- A driver that is there stands as it was attached, under the policy of the settings. -/
theorem eq_attached_of_brokerFor {c : EmitterConfig} (hc : c.problems = []) {peer : PeerId}
    {b : Sync.Broker} (h : brokerFor w c peer = .ok (some b)) :
    c.isEnabled = true ∧
      ∃ bc url hasSession, bc.retry = c.retry ∧ b = attached bc url hasSession := by
  rcases brokerFor_cases w hc peer with ⟨-, hnone⟩ | ⟨he, ⟨-, hcrash⟩ | ⟨-, bc, url, hretry,
    ⟨reason, de, -, hfailed⟩ | ⟨hasSession, hok⟩⟩⟩
  · cases h.symm.trans hnone
  · cases h.symm.trans hcrash
  · cases h.symm.trans hfailed
  · cases h.symm.trans hok
    exact ⟨he, bc, url, hasSession, hretry, rfl⟩

/-- Being attached leaves it to the policy whether a driver can crash. -/
theorem crashes_attached_iff (bc : Sync.BrokerConfig) (url : SocketUrl) (hasSession : Bool) :
    (attached bc url hasSession).Crashes ↔ bc.retry.Overflows := by
  constructor
  · intro hcrashes
    have hattach : (Sync.Broker.fresh bc url).run?
        [.connect (if hasSession then .ok () else .error ""), .subscribe] =
          some (attached bc url hasSession) := by
      cases hasSession <;> rfl
    exact Sync.Broker.overflows_of_crashes (.of_run hattach hcrashes)
  · intro ho
    -- A session from before the start is lost before the attempts begin.
    cases hasSession with
    | false =>
        have hwait : (attached bc url false).run? [.start] =
            some { attached bc url false with phase := .waiting 0 } := rfl
        exact .of_run hwait (Sync.Broker.breaks_of_overflows rfl rfl ho).crashes
    | true =>
        have hwait : (attached bc url true).run? [.start, .arrive .ended] =
            some { attached bc url true with phase := .waiting 0, hasSession := false } := rfl
        exact .of_run hwait (Sync.Broker.breaks_of_overflows rfl rfl ho).crashes

/-! ### The whole node -/

/-- What assembly comes to: a part that comes before the store cannot be made, or the store
cannot be opened, or there is no driver, or there is a node. -/
theorem assemble_cases (w : Surroundings) (v : Volume) (c : NodeConfig) :
    (∃ e, prepare w c = .error e ∧ (assemble w v c).2 = .error e) ∨
    ∃ p, prepare w c = .ok p ∧
      ((∃ v' e, v.openStore c.store.location c.store.maxTtl w.now = (v', .error e) ∧
          (assemble w v c).2 = .error (.error (.store c.store.location e))) ∨
        ((∃ e, brokerFor w c.emitter p.1.peerId = .error e ∧ (assemble w v c).2 = .error e) ∨
          ∃ n, brokerFor w c.emitter p.1.peerId = .ok n.broker ∧
            (assemble w v c).2 = .ok n ∧ n.config = c)) := by
  unfold assemble
  cases prepare w c with
  | error e => exact .inl ⟨e, rfl, rfl⟩
  | ok p =>
      refine .inr ⟨p, rfl, ?_⟩
      obtain ⟨identity, listeners, announced⟩ := p
      rcases v.openStore c.store.location c.store.maxTtl w.now with ⟨v', e | s⟩
      · exact .inl ⟨v', e, rfl, rfl⟩
      · dsimp only
        cases brokerFor w c.emitter identity.peerId with
        | error e => exact .inr (.inl ⟨e, rfl, rfl⟩)
        | ok broker => exact .inr (.inr ⟨_, rfl, rfl, rfl⟩)

/-- Neither the assembly of a node nor what was assembled stops without an error: what stands
in the way is an error, the sweeper has an interval, and no run of the driver crashes. -/
structure Steady (w : Surroundings) (v : Volume) (c : NodeConfig) : Prop where
  assembly : ∀ e, (assemble w v c).2 = .error e → ¬ e.IsAbort
  sweeping : ∀ n, (assemble w v c).2 = .ok n → ∀ secs, ∃ ticks, n.firstSweeps secs = .ok ticks
  driving : ∀ n b, (assemble w v c).2 = .ok n → n.broker = some b → ¬ b.Crashes

/-- Surroundings that refuse nothing: one address at least can be listened at, every socket can
be bound, the key is read unless its check breaks down, the store can be opened and the broker
answers. -/
structure Obliging (w : Surroundings) (v : Volume) (c : NodeConfig) : Prop where
  listen : ∃ addrs, Multiaddr.parseList c.network.listen = .ok addrs ∧
    ∃ a ∈ addrs, ∃ s, a.socket = .ok s
  bind : ∀ bound s, ∃ s', w.bind bound s = .ok s'
  key : ∀ key, c.identity.privateKey = some key →
    Identity.load key = .error .divisionByZero ∨ ∃ i, Identity.load key = .ok i
  store : ∃ v' s, v.openStore c.store.location c.store.maxTtl w.now = (v', .ok s)
  dial : ∀ bc url, w.dial bc url = .ok ()

/-- A node that was put together from accepted settings has an interval for its sweeper. -/
theorem firstSweeps_ok (hc : c.problems = []) {n : Node} (hn : n.config = c) (secs : Nat) :
    ∃ ticks, n.firstSweeps secs = .ok ticks := by
  obtain ⟨-, -, hinterval⟩ :=
    StoreConfig.problems_eq_nil_iff.1 (NodeConfig.problems_eq_nil_iff.1 hc).2.1
  refine ⟨secs / c.store.sweepIntervalSecs, ?_⟩
  rw [firstSweeps, hn, Sweeper.ticks?, if_neg hinterval]

/-- Within the bounds whatever stands in the way of a node is an error. -/
theorem not_isAbort_of_assemble (hc : c.problems = []) (hb : c.Bounded) {e : Stop NodeError}
    (h : (assemble w v c).2 = .error e) : ¬ e.IsAbort := by
  rcases assemble_cases w v c with ⟨e', hprepare, hresult⟩ | ⟨p, -, hresult⟩
  · cases h.symm.trans hresult
    exact not_isAbort_of_prepare hc hb hprepare
  rcases hresult with ⟨v', e', -, hresult⟩ | ⟨e', hbroker, hresult⟩ | ⟨n, -, hresult, -⟩
  · cases h.symm.trans hresult
    exact id
  · cases h.symm.trans hresult
    exact not_isAbort_of_brokerFor (NodeConfig.problems_eq_nil_iff.1 hc).2.2.1 hb.queue hbroker
  · cases h.symm.trans hresult

/-- A node keeps the settings that it was put together from, and has the driver made for it. -/
theorem of_assemble {n : Node} (h : (assemble w v c).2 = .ok n) :
    n.config = c ∧ ∃ peer, brokerFor w c.emitter peer = .ok n.broker := by
  rcases assemble_cases w v c with ⟨e', -, hresult⟩ | ⟨p, -, hresult⟩
  · cases h.symm.trans hresult
  rcases hresult with ⟨v', e', -, hresult⟩ | ⟨e', -, hresult⟩ | ⟨n', hbroker, hresult, hconfig⟩
  · cases h.symm.trans hresult
  · cases h.symm.trans hresult
  · cases h.symm.trans hresult
    exact ⟨hconfig, _, hbroker⟩

/-- Within the bounds nothing stops without an error, wherever a node is put together. -/
theorem steady_of_bounded (hc : c.problems = []) (hb : c.Bounded) : Steady w v c where
  assembly _ h := not_isAbort_of_assemble hc hb h
  sweeping _ h := firstSweeps_ok hc (of_assemble h).1
  driving n b h hsome := by
    obtain ⟨-, peer, hbroker⟩ := of_assemble h
    rw [hsome] at hbroker
    obtain ⟨he, bc, url, hasSession, hretry, rfl⟩ :=
      eq_attached_of_brokerFor (NodeConfig.problems_eq_nil_iff.1 hc).2.2.1 hbroker
    rw [crashes_attached_iff, hretry]
    exact hb.delays he

/-- Where nothing is refused, the parts before the store are made, or the end is no error. -/
theorem prepare_of_obliging (hc : c.problems = []) (ho : Obliging w v c)
    (hassembly : ∀ e, prepare w c = .error e → ¬ e.IsAbort) :
    (∀ key, c.identity.privateKey = some key → Identity.load key ≠ .error .divisionByZero) ∧
      c.network.maxConnections ≤ Places.most ∧ ∃ p, prepare w c = .ok p := by
  obtain ⟨addrs, hlisten, hsocket⟩ := ho.listen
  obtain ⟨announced, hprepare⟩ := prepare_eq (w := w) hc hlisten
  have hkey : ∀ key, c.identity.privateKey = some key →
      Identity.load key ≠ .error .divisionByZero := by
    intro key hsome hzero
    have hfails : identityFor w c.identity = .error (.identity .divisionByZero) := by
      rw [identityFor, hsome]
      simp only [hzero, Except.mapError]
    rw [hfails] at hprepare
    exact hassembly _ hprepare trivial
  have hidentity : ∃ i, identityFor w c.identity = .ok i := by
    rcases identityFor_eq w c.identity with ⟨-, hfresh⟩ | ⟨key, hsome, hload⟩
    · exact hfresh
    · obtain ⟨i, hi⟩ := (ho.key key hsome).resolve_left (hkey key hsome)
      exact ⟨i, by rw [hload, hi]; rfl⟩
  obtain ⟨i, hi⟩ := hidentity
  rw [hi] at hprepare
  -- With the key out of the way, the first listener counts its places.
  have hconnections : c.network.maxConnections ≤ Places.most := by
    by_contra hmany
    rw [listenersFor_of_lt (Nat.not_le.1 hmany) ho.bind hsocket] at hprepare
    exact hassembly _ hprepare trivial
  obtain ⟨ls, hls⟩ := listenersFor_of_bind hconnections ho.bind hsocket
  rw [hls] at hprepare
  exact ⟨hkey, hconnections, _, hprepare⟩

/-- Where nothing is refused, whatever is out of bounds stops the node without an error. -/
theorem bounded_of_steady (hc : c.problems = []) (ho : Obliging w v c) (hs : Steady w v c) :
    c.Bounded := by
  obtain ⟨hkey, hconnections, p, hprepare⟩ := prepare_of_obliging hc ho fun e h =>
    hs.assembly e (by rw [assemble, h])
  obtain ⟨v', s, hopen⟩ := ho.store
  have hbroker : c.emitter.isEnabled = true →
      c.emitter.queueCapacity ≤ Places.most ∧ ¬ c.emitter.retry.Overflows := by
    intro he
    rcases brokerFor_cases w (NodeConfig.problems_eq_nil_iff.1 hc).2.2.1 p.1.peerId with
      ⟨hoff, -⟩ | ⟨-, ⟨-, hcrash⟩ | ⟨hqueue, bc, url, hretry, ⟨reason, de, hdial, -⟩ |
        ⟨hasSession, hsome⟩⟩⟩
    · cases he.symm.trans hoff
    · refine absurd trivial (hs.assembly (.crash (.tooManyPlaces c.emitter.queueCapacity)) ?_)
      simp only [assemble, hprepare, hopen, hcrash]
    · cases hdial.symm.trans (ho.dial bc url)
    · refine ⟨hqueue, ?_⟩
      have hnot := hs.driving _ (attached bc url hasSession)
        (by simp only [assemble, hprepare, hopen, hsome]; rfl) rfl
      rwa [crashes_attached_iff, hretry] at hnot
  exact ⟨hkey, hconnections, fun he => (hbroker he).1, fun he => (hbroker he).2⟩

/-- **When accepted settings cannot crash a node.** If their numbers are within the bounds of the
parts, neither the assembly nor the node stops without an error in any surroundings. Where
nothing else stands in the way, only then. -/
theorem steady_iff (hc : c.problems = []) :
    (c.Bounded → ∀ w v, Steady w v c) ∧
    ∀ w v, Obliging w v c → (Steady w v c ↔ c.Bounded) :=
  ⟨fun hb _ _ => steady_of_bounded hc hb,
    fun _ _ ho => ⟨bounded_of_steady hc ho, steady_of_bounded hc⟩⟩

/-! ### Settings within and out of bounds -/

/-- Surroundings in which every socket can be bound and every broker answers. -/
def willing : Surroundings :=
  { now := 0, random := [], bind := fun _ s => .ok s, dial := fun _ _ => .ok () }

/-- The usual settings with a broker. -/
def withBroker (queueCapacity : Nat) (retry : RetryPolicy) : NodeConfig :=
  { NodeConfig.usual with
    emitter := { EmitterConfig.usual with
      server := some "broker", adminKey := some "key", queueCapacity, retry } }

/-- The usual settings with as many connections as are one too many. -/
def crowded : NodeConfig :=
  { NodeConfig.usual with
    network := { NetworkConfig.usual with maxConnections := Places.most + 1 } }

theorem problems_withBroker {queueCapacity : Nat} (hqueue : queueCapacity ≠ 0)
    (retry : RetryPolicy) : (withBroker queueCapacity retry).problems = [] := by
  obtain ⟨hnetwork, hstore, -, hrelay, hmetrics⟩ :=
    NodeConfig.problems_eq_nil_iff.1 NodeConfig.problems_usual
  have hserver : (SocketUrl.ofServer "broker").toOption.isSome = true := by decide +kernel
  have henabled : (withBroker queueCapacity retry).emitter.isEnabled = true := rfl
  have hemitter : (withBroker queueCapacity retry).emitter.problems = [] := by
    rw [EmitterConfig.problems_eq_nil_iff, if_pos henabled]
    refine ⟨?_, hqueue⟩
    rintro server ⟨⟩
    cases hurl : SocketUrl.ofServer "broker" with
    | error e =>
        rw [hurl] at hserver
        cases hserver
    | ok url => exact ⟨url, rfl⟩
  exact NodeConfig.problems_eq_nil_iff.2 ⟨hnetwork, hstore, hemitter, hrelay, hmetrics⟩

theorem problems_crowded : crowded.problems = [] := by
  obtain ⟨hnetwork, hstore, hemitter, hrelay, hmetrics⟩ :=
    NodeConfig.problems_eq_nil_iff.1 NodeConfig.problems_usual
  obtain ⟨hlisten, hannounce, -⟩ := NetworkConfig.problems_eq_nil_iff.1 hnetwork
  have hcrowded : crowded.network.problems = [] :=
    NetworkConfig.problems_eq_nil_iff.2 ⟨hlisten, hannounce, by decide⟩
  exact NodeConfig.problems_eq_nil_iff.2 ⟨hcrowded, hstore, hemitter, hrelay, hmetrics⟩

/-- Willing surroundings refuse nothing to a node without a key of its own that keeps its
records in memory and listens at the usual addresses. -/
theorem obliging_willing (hlisten : c.network.listen = NetworkConfig.usualListen)
    (hkey : c.identity.privateKey = none) (hlocation : c.store.location = Store.inMemory) :
    Obliging willing v c where
  listen := by
    rw [hlisten, NodeConfig.parseList_usualListen]
    exact ⟨_, rfl, _, List.mem_cons_self, _, rfl⟩
  bind _ s := ⟨s, rfl⟩
  key key hsome := by
    rw [hkey] at hsome
    cases hsome
  store := by
    rw [Volume.openStore, if_pos hlocation]
    exact ⟨_, _, rfl⟩
  dial _ _ := rfl

/-- The usual settings are within the bounds; one connection more than can be counted is not. -/
theorem steady_iff_usual :
    NodeConfig.usual.problems = [] ∧ Steady willing default NodeConfig.usual ∧
    crowded.problems = [] ∧ ¬ Steady willing default crowded := by
  have hbounded : NodeConfig.usual.Bounded :=
    ⟨nofun, by decide, by decide, nofun⟩
  refine ⟨NodeConfig.problems_usual, (steady_iff NodeConfig.problems_usual).1 hbounded _ _,
    problems_crowded, fun hsteady => ?_⟩
  have hobliging : Obliging willing default crowded := obliging_willing rfl rfl rfl
  have hcrowded := ((steady_iff problems_crowded).2 willing default hobliging).1 hsteady
  exact absurd hcrowded.connections (by decide)

/-- Three settings that are accepted and crash a node: too many connections, too long a queue,
and a delay that is too long by its tenth. -/
theorem accepted_settings_crash :
    (∀ c ∈ [crowded, withBroker (Places.most + 1) EmitterConfig.usual.retry,
        withBroker 1024 ⟨2, Backoff.largest, Backoff.largest⟩],
      c.problems = [] ∧ ¬ Steady willing default c) ∧
    (assemble willing default crowded).2 =
      .error (.crash (.tooManyPlaces (Places.most + 1))) := by
  have hoverflows : RetryPolicy.Overflows ⟨2, Backoff.largest, Backoff.largest⟩ :=
    ⟨1, 1, by decide, by decide, by decide⟩
  refine ⟨?_, ?_⟩
  · simp only [List.mem_cons, List.not_mem_nil, or_false, forall_eq_or_imp, forall_eq]
    refine ⟨⟨problems_crowded, fun hs => ?_⟩, ⟨problems_withBroker (by decide) _, fun hs => ?_⟩,
      ⟨problems_withBroker (by decide) _, fun hs => ?_⟩⟩
    · have hb := bounded_of_steady problems_crowded (obliging_willing rfl rfl rfl) hs
      exact absurd hb.connections (by decide)
    · have hb := bounded_of_steady (problems_withBroker (by decide) _)
        (obliging_willing rfl rfl rfl) hs
      exact absurd (hb.queue (by decide)) (by decide)
    · have hb := bounded_of_steady (problems_withBroker (by decide) _)
        (obliging_willing rfl rfl rfl) hs
      exact hb.delays (by decide) hoverflows
  · obtain ⟨announced, hprepare⟩ :=
      prepare_eq (w := willing) problems_crowded NodeConfig.parseList_usualListen
    rw [listenersFor_of_lt (by decide) (fun _ s => ⟨s, rfl⟩)
      ⟨_, List.mem_cons_self, _, rfl⟩] at hprepare
    rw [assemble, hprepare]
    rfl

end Node

end Rendezvous
