import Rendezvous.Proofs.Store.Durability
import Rendezvous.Proofs.Store.Pages
import Rendezvous.Proofs.Store.Reopening
import Rendezvous.Store.Shelf

/-!
# Rendezvous.Proofs.Store.Restarts

Places across restarts. A store is worked on and asked for pages, is closed and opened again on
its file, and so on. Between two restarts each place that is handed out lies beyond all that
anyone was told of before. A restart takes the count up from the records that it finds: it is
not behind what anyone was told of if, and only if, the record in the highest of these places is
still there and live. Where every restart keeps up, a cursor is as good after it as before.

* `Shelf.Deed`, `Shelf.act`: what is done;
* `Shelf.placed?`, `Shelf.tells`: the places that are handed out and told of;
* `Shelf.Ascends`: each place handed out lies beyond all that were told of before;
* `Shelf.KeepsUp`: each restart finds the highest place that was told of, if it matters;
* `Shelf.pages`, `Shelf.Delivers`: the pages that a client gets, and what it is shown on them;
* `Shelf.ascends_iff`, `Shelf.Tracked.mem_pages`, `Shelf.cursors_survive_iff`.
-/

namespace Rendezvous

namespace Store

variable {s : Store} {now : Instant}

/-- The record that an operation enters for a key that had no live one. -/
def inserted? (s : Store) (now : Instant) : Operation → Option Record
  | .upsert reg =>
    match (s.upsert now reg).2 with
    | .ok (r, .inserted) => some r
    | _ => none
  | .merge r =>
    if s.inserts now (.merge r) then (s.merge now r).1.records.get? r.key else none
  | .remove _ | .removeIfNotFresher _ | .reclaim | .close => none

theorem seq_inserted? (s : Store) (now : Instant) (op : Operation) :
    (s.inserted? now op).map (·.seq) = if s.inserts now op then some s.nextSeq else none := by
  by_cases hclosed : s.closed = true
  · cases op with
    | upsert reg => simp [inserted?, inserts, upsert, hclosed]
    | merge r => simp [inserted?, inserts, merge, hclosed]
    | remove | removeIfNotFresher | reclaim | close => rfl
  have hopen : s.closed = false := Bool.eq_false_iff.2 hclosed
  cases op with
  | remove | removeIfNotFresher | reclaim | close => rfl
  | upsert reg =>
      rw [inserted?, inserts, upsert_eq hopen]
      cases hlive : s.live? now reg.key with
      | some c => rfl
      | none => simp [granted, place_of_none hlive]
  | merge r =>
      rw [inserted?, inserts]
      rcases merge_cases hopen now r with ⟨-, he⟩ | ⟨-, he⟩
      · simp [he]
      · simp only [he]
        cases hlive : s.live? now r.key with
        | some c => rfl
        | none =>
            rw [get?_records_enter, adopted_key, if_pos rfl, adopted, place_of_none hlive]
            rfl

/-- The record that is entered is there afterwards. -/
theorem get?_inserted? (hs : s.WellFormed) {op : Operation} {r : Record}
    (hr : s.inserted? now op = some r) : (s.perform now op).records.get? r.key = some r := by
  cases op with
  | remove | removeIfNotFresher | reclaim | close => cases hr
  | upsert reg =>
      by_cases hclosed : s.closed = true
      · simp [inserted?, upsert, hclosed] at hr
      have hopen : s.closed = false := Bool.eq_false_iff.2 hclosed
      rw [inserted?, upsert_eq hopen] at hr
      cases hlive : s.live? now reg.key with
      | some c => simp [hlive] at hr
      | none =>
          simp only [hlive] at hr
          cases hr
          rw [perform, upsert_eq hopen, get?_records_enter, if_pos rfl]
  | merge r' =>
      rw [inserted?] at hr
      split at hr
      · rw [(hs.perform now (.merge r')).filed r'.key r hr]
        exact hr
      · cases hr

/-- What is told of lies before the next place. -/
def Ahead (told : List Nat) (s : Store) : Prop := ∀ p ∈ told, p < s.nextSeq

section Numbered

variable {n : Nat} {told : List Nat} {op : Operation}

theorem Numbered.nextSeq_eq (h : s.Numbered n) (hn : n + 1 < seqBound) : s.nextSeq = n + 1 := by
  rw [h.next, Nat.mod_eq_of_lt hn]

theorem Numbered.nextSeq_perform (h : s.Numbered n) (hn : n + 2 < seqBound) :
    (s.perform now op).nextSeq = s.nextSeq + (s.inserts now op).toNat := by
  have hone : (s.inserts now op).toNat ≤ 1 := Bool.toNat_le _
  have hnext := (h.perform op (by omega) : (s.perform now op).Numbered _).nextSeq_eq (by omega)
  have hbefore := h.nextSeq_eq (by omega)
  omega

/-- An operation that inserts keeps what is told of behind the next place, the place that it
hands out among it. -/
theorem Ahead.insert (ha : Ahead told s) (h : s.Numbered n) (hn : n + 2 < seqBound)
    (hins : s.inserts now op = true) : Ahead (told ++ [s.nextSeq]) (s.perform now op) := by
  intro p hp
  rw [h.nextSeq_perform hn, hins]
  rcases List.mem_append.1 hp with hp | hp
  · exact Nat.lt_add_right 1 (ha p hp)
  · rw [List.mem_singleton.1 hp]
    exact Nat.lt_add_one _

/-- One that does not insert changes nothing of it. -/
theorem ahead_perform_iff (h : s.Numbered n) (hn : n + 2 < seqBound)
    (hins : s.inserts now op = false) : Ahead told (s.perform now op) ↔ Ahead told s := by
  rw [Ahead, Ahead, h.nextSeq_perform hn, hins]
  exact Iff.rfl

variable {ns : String} {limit cursor : Nat} {page : Page}

/-- The places on a page have been handed out. -/
theorem Numbered.of_mem_page (h : s.Numbered n) (hs : s.WellFormed)
    (hq : s.query now ns limit cursor = .ok page) {r : Record} (hr : r ∈ page.records) :
    0 < r.seq ∧ r.seq ≤ n :=
  h.placed _ r (live?_eq_some_iff.1 (hs.live_of_mem_page hq hr)).1

/-- A page shows a record behind the cursor, or it ends before it and leaves something to show. -/
theorem Numbered.shown_or_ahead (h : s.Numbered n) (hs : s.WellFormed)
    (hq : s.query now ns limit cursor = .ok page) (hlimit : 1 ≤ limit) {k : Record.Key}
    {c : Record} (hlive : s.live? now k = some c) (hns : ns = "" ∨ k.1 = ns)
    (hcursor : cursor < c.seq) :
    c ∈ page.records ∨ page.cursor < c.seq ∧ page.records ≠ [] := by
  have hfound : c ∈ s.found now ns cursor := mem_found hs hlive hns hcursor
  by_cases hpast : c.seq ≤ page.cursor
  · exact .inl (mem_page hq h hs hfound hpast)
  · refine .inr ⟨Nat.not_le.1 hpast, fun hempty => ?_⟩
    rw [found_eq_nil hq hlimit hempty] at hfound
    cases hfound

end Numbered

/-- Of pages up to an empty one, the first shows what is sought, or it is not the last and the
others do. -/
theorem exists_shownOn_cons {page last : Page} {more : List Page} {sought : Record → Prop}
    (hlast : (page :: more).getLast? = some last) (hempty : last.records = [])
    (h : (∃ r ∈ page.records, sought r) ∨ page.records ≠ [] ∧
      (more.getLast? = some last → ∃ r ∈ shownOn more, sought r)) :
    ∃ r ∈ shownOn (page :: more), sought r := by
  rw [shownOn_cons]
  rcases h with ⟨r, hr, hsought⟩ | ⟨hsome, hmore⟩
  · exact ⟨r, List.mem_append_left _ hr, hsought⟩
  · cases hrest : more.getLast? with
    | none =>
        rw [List.getLast?_cons, hrest] at hlast
        cases hlast
        exact absurd hempty hsome
    | some last' =>
        rw [List.getLast?_cons, hrest] at hlast
        cases hlast
        obtain ⟨r, hr, hsought⟩ := hmore hrest
        exact ⟨r, List.mem_append_right _ hr, hsought⟩

end Store

/-! ### What is done -/

namespace Shelf

/-- What is done with a store that has a file. -/
inductive Deed where
  /-- It is worked on. -/
  | work (op : Operation)
  /-- A client asks for a page. -/
  | request (ns : String) (limit cursor : Nat)
  /-- It is closed, if it was not, and opened again. -/
  | reopen (maxTtl : Duration)

/-- The addresses that may be brought are read back from their texts. -/
def Deed.Readable : Deed → Prop
  | .work op => op.Readable
  | .request .. | .reopen _ => True

/-- Does it, with the file at a location. -/
def act (location : String) (s : Shelf) (now : Instant) : Deed → Shelf
  | .work .close => s.close
  | .work op =>
    match s.store with
    | some store => s.put (store.perform now op)
    | none => s
  | .request .. => s
  | .reopen maxTtl => ({ s with now }.reopen location maxTtl).1

/-- Does one thing after the other. -/
def run (location : String) (s : Shelf) (deeds : List (Instant × Deed)) : Shelf :=
  deeds.foldl (fun s a => s.act location a.1 a.2) s

/-- What is live under a key. -/
def live? (s : Shelf) (now : Instant) (k : Record.Key) : Option Record :=
  s.store.bind (·.live? now k)

/-- The page that is asked for. -/
def page? (s : Shelf) (now : Instant) (ns : String) (limit cursor : Nat) : Option Page :=
  s.store.bind fun store => (store.query now ns limit cursor).toOption

/-- The record that is entered for a key that had no live one. -/
def inserted? (s : Shelf) (now : Instant) : Deed → Option Record
  | .work op => s.store.bind (·.inserted? now op)
  | .request .. | .reopen _ => none

/-- The place that is handed out. -/
def placed? (s : Shelf) (now : Instant) (deed : Deed) : Option Nat :=
  (s.inserted? now deed).map (·.seq)

/-- The places that someone is told of: the one that is handed out, or those on a page. -/
def tells (s : Shelf) (now : Instant) : Deed → List Nat
  | .work op => (s.placed? now (.work op)).toList
  | .request ns limit cursor =>
    match s.page? now ns limit cursor with
    | some page => page.records.map (·.seq)
    | none => []
  | .reopen _ => []

/-- All places that anyone is told of. -/
def told (location : String) (s : Shelf) : List (Instant × Deed) → List Nat
  | [] => []
  | (now, deed) :: rest => s.tells now deed ++ (s.act location now deed).told location rest

/-! ### Places in order -/

/-- Each place that is handed out lies beyond all that anyone was told of before. -/
def Ascends (location : String) (s : Shelf) (told : List Nat) : List (Instant × Deed) → Prop
  | [] => True
  | (now, deed) :: rest =>
    (∀ q, s.placed? now deed = some q → ∀ p ∈ told, p < q) ∧
    (s.act location now deed).Ascends location (told ++ s.tells now deed) rest

/-- A place is handed out before the next restart. -/
def InsertsNext (location : String) (s : Shelf) : List (Instant × Deed) → Prop
  | [] => False
  | (now, .work op) :: rest =>
    (s.placed? now (.work op)).isSome = true ∨
      (s.act location now (.work op)).InsertsNext location rest
  | (_, .request ..) :: rest => s.InsertsNext location rest
  | (_, .reopen _) :: _ => False

/-- There is a live record in a place or beyond it. -/
def Reaches (s : Shelf) (now : Instant) (p : Nat) : Prop :=
  ∃ k r, s.live? now k = some r ∧ p ≤ r.seq

/-- Each restart after which a place is handed out before the next finds a live record in the
highest place that anyone was told of. -/
def KeepsUp (location : String) (s : Shelf) (told : List Nat) : List (Instant × Deed) → Prop
  | [] => True
  | (now, .work op) :: rest =>
    (s.act location now (.work op)).KeepsUp location (told ++ s.tells now (.work op)) rest
  | (now, .request ns limit cursor) :: rest =>
    s.KeepsUp location (told ++ s.tells now (.request ns limit cursor)) rest
  | (now, .reopen maxTtl) :: rest =>
    ((s.act location now (.reopen maxTtl)).InsertsNext location rest →
      ∀ p ∈ told, s.Reaches now p) ∧
    (s.act location now (.reopen maxTtl)).KeepsUp location told rest

/-! ### Page after page -/

/-- The pages that a client gets who begins at a cursor and goes on from each page's own. Its
requests are those that name the cursor at which it is. -/
def pages (location : String) (ns : String) (s : Shelf) (cursor : Nat) :
    List (Instant × Deed) → List Page
  | [] => []
  | (now, .request ns' limit cursor') :: rest =>
    if ns' = ns ∧ cursor' = cursor then
      match s.page? now ns limit cursor with
      | some page => page :: s.pages location ns page.cursor rest
      | none => s.pages location ns cursor rest
    else s.pages location ns cursor rest
  | (now, .work op) :: rest => (s.act location now (.work op)).pages location ns cursor rest
  | (now, .reopen maxTtl) :: rest =>
    (s.act location now (.reopen maxTtl)).pages location ns cursor rest

/-- A key has a live record when each thing is done. -/
def StaysLive (location : String) (k : Record.Key) (s : Shelf) : List (Instant × Deed) → Prop
  | [] => True
  | (now, deed) :: rest =>
    (s.live? now k).isSome = true ∧ (s.act location now deed).StaysLive location k rest

/-- What is asked for is one record or more. -/
def AsksForSome (deeds : List (Instant × Deed)) : Prop :=
  ∀ a ∈ deeds, ∀ ns limit cursor, a.2 = .request ns limit cursor → 1 ≤ limit

/-- Whenever a record is inserted, a client who goes on from a cursor that it held before, up to
an empty page, is shown the record of that key in that place, if the key stays live. -/
def Delivers (location : String) (s : Shelf) (deeds : List (Instant × Deed)) : Prop :=
  ∀ before now deed after r, deeds = before ++ (now, deed) :: after →
    (s.run location before).inserted? now deed = some r →
    ∀ cursor ∈ 0 :: s.told location before, ∀ ns, (ns = "" ∨ r.key.1 = ns) →
    let s' := (s.run location before).act location now deed
    AsksForSome after → s'.StaysLive location r.key after →
    ∀ last, (s'.pages location ns cursor after).getLast? = some last → last.records = [] →
      ∃ r' ∈ Store.shownOn (s'.pages location ns cursor after),
        r'.key = r.key ∧ r'.seq = r.seq

variable {location : String} {p : Path} {s : Shelf} {store : Store} {told : List Nat} {n : Nat}
  {now : Instant} {op : Operation}

theorem live?_eq (hs : s.store = some store) (now : Instant) (k : Record.Key) :
    s.live? now k = store.live? now k := by
  rw [live?, hs]
  rfl

theorem page?_eq_some_iff (hs : s.store = some store) {ns : String} {limit cursor : Nat}
    {page : Page} :
    s.page? now ns limit cursor = some page ↔ store.query now ns limit cursor = .ok page := by
  rw [page?, hs, Option.bind_some]
  cases store.query now ns limit cursor with
  | ok page' => simp [Except.toOption]
  | error e => simp [Except.toOption]

theorem inserted?_work (hs : s.store = some store) :
    s.inserted? now (.work op) = store.inserted? now op := by
  rw [inserted?, hs]
  rfl

theorem placed?_work (hs : s.store = some store) :
    s.placed? now (.work op) = if store.inserts now op then some store.nextSeq else none := by
  rw [placed?, inserted?_work hs, Store.seq_inserted?]

theorem mem_tells_request (hs : s.store = some store) {ns : String} {limit cursor q : Nat}
    (hq : q ∈ s.tells now (.request ns limit cursor)) :
    ∃ page, store.query now ns limit cursor = .ok page ∧ ∃ r ∈ page.records, r.seq = q := by
  rw [tells] at hq
  split at hq
  · rename_i page hpage
    exact ⟨page, (page?_eq_some_iff hs).1 hpage, List.mem_map.1 hq⟩
  · cases hq

section Pages

variable {ns : String} {limit cursor : Nat}

theorem pages_of_page? {page : Page} (hpage : s.page? now ns limit cursor = some page)
    (rest : List (Instant × Deed)) :
    s.pages location ns cursor ((now, .request ns limit cursor) :: rest) =
      page :: s.pages location ns page.cursor rest := by
  rw [pages, if_pos ⟨rfl, rfl⟩, hpage]

/-- A request that fails leaves the client where it was. -/
theorem pages_of_no_page (hpage : s.page? now ns limit cursor = none)
    (rest : List (Instant × Deed)) :
    s.pages location ns cursor ((now, .request ns limit cursor) :: rest) =
      s.pages location ns cursor rest := by
  rw [pages, if_pos ⟨rfl, rfl⟩, hpage]

/-- So does what is asked for by others. -/
theorem pages_of_other {ns' : String} {cursor' : Nat} (h : ¬ (ns' = ns ∧ cursor' = cursor))
    (rest : List (Instant × Deed)) :
    s.pages location ns cursor ((now, .request ns' limit cursor') :: rest) =
      s.pages location ns cursor rest := by
  rw [pages, if_neg h]

end Pages

/-- Places that ascend ascend after any part of what is done. -/
theorem Ascends.of_append {before after : List (Instant × Deed)}
    (h : s.Ascends location told (before ++ after)) :
    (s.run location before).Ascends location (told ++ s.told location before) after := by
  induction before generalizing s told with
  | nil => simpa [run, Shelf.told] using h
  | cons a before ih =>
      obtain ⟨now, deed⟩ := a
      have hrest := ih h.2
      rw [List.append_assoc] at hrest
      exact hrest

theorem act_close (hs : s.store = some store) :
    s.act location now (.work .close) =
      { s with volume := (s.volume.closeStore store).1, store := some store.close } := by
  rw [act, close, hs]
  dsimp only
  rw [Volume.closeStore_snd]

theorem act_work (hs : s.store = some store) (hop : op ≠ .close) :
    s.act location now (.work op) = s.put (store.perform now op) := by
  cases op with
  | close => exact absurd rfl hop
  | upsert | merge | remove | removeIfNotFresher | reclaim => simp only [act, hs]

/-! ### What is true all the while -/

/-- A store with a file of its own that has handed out `n` places at most, and what anyone was
told of. -/
structure Tracked (location : String) (p : Path) (n : Nat) (told : List Nat) (s : Shelf)
    (store : Store) : Prop where
  there : s.store = some store
  housed : ∃ base, store.Housed location p s.volume base
  numbered : ∃ m ≤ n, store.Numbered m
  told : ∀ q ∈ told, 0 < q

namespace Tracked

theorem wellFormed (ht : Tracked location p n told s store) : store.WellFormed :=
  ht.housed.elim fun _ h => h.wellFormed

theorem work (ht : Tracked location p n told s store) (hn : n + 2 < Store.seqBound)
    (now : Instant) (hread : op.Readable) :
    Tracked location p (n + 1) (told ++ s.tells now (.work op)) (s.act location now (.work op))
      (store.perform now op) := by
  obtain ⟨base, hhoused⟩ := ht.housed
  obtain ⟨m, hm, hnumbered⟩ := ht.numbered
  have hone : (store.inserts now op).toNat ≤ 1 := Bool.toNat_le _
  have hnext : store.nextSeq = m + 1 := hnumbered.nextSeq_eq (by omega)
  have htold : ∀ q ∈ told ++ s.tells now (.work op), 0 < q := by
    intro q hq
    rw [tells, placed?_work ht.there, List.mem_append] at hq
    rcases hq with hq | hq
    · exact ht.told q hq
    · split at hq
      · rw [List.mem_singleton.1 hq, hnext]
        exact Nat.succ_pos m
      · cases hq
  have hnumbered' : ∃ m ≤ n + 1, (store.perform now op).Numbered m :=
    ⟨_, by omega, hnumbered.perform op (by omega)⟩
  by_cases hop : op = .close
  · subst hop
    rw [act_close ht.there]
    exact ⟨rfl, ⟨base, hhoused.close⟩, hnumbered', htold⟩
  · rw [act_work ht.there hop]
    exact ⟨rfl, ⟨base, hhoused.perform (by omega) hread hop⟩, hnumbered', htold⟩

theorem request (ht : Tracked location p n told s store) (now : Instant) (ns : String)
    (limit cursor : Nat) :
    Tracked location p n (told ++ s.tells now (.request ns limit cursor)) s store := by
  obtain ⟨m, -, hnumbered⟩ := ht.numbered
  refine ⟨ht.there, ht.housed, ht.numbered, fun q hq => ?_⟩
  rcases List.mem_append.1 hq with hq | hq
  · exact ht.told q hq
  · obtain ⟨page, hpage, r, hr, rfl⟩ := mem_tells_request ht.there hq
    exact (hnumbered.of_mem_page ht.wellFormed hpage hr).1

/-- A page tells of nothing beyond the next place. -/
theorem ahead_request_iff (ht : Tracked location p n told s store) (hn : n + 1 < Store.seqBound)
    (ns : String) (limit cursor : Nat) :
    Store.Ahead (told ++ s.tells now (.request ns limit cursor)) store ↔
      Store.Ahead told store := by
  obtain ⟨m, hm, hnumbered⟩ := ht.numbered
  have hnext : store.nextSeq = m + 1 := hnumbered.nextSeq_eq (by omega)
  refine ⟨fun ha q hq => ha q (List.mem_append_left _ hq), fun ha q hq => ?_⟩
  rcases List.mem_append.1 hq with hq | hq
  · exact ha q hq
  · obtain ⟨page, hpage, r, hr, rfl⟩ := mem_tells_request ht.there hq
    have hle := (hnumbered.of_mem_page ht.wellFormed hpage hr).2
    omega

/-- After a restart what is told of lies before the next place if and only if there is a live
record in the highest place that is told of. -/
theorem reopen (ht : Tracked location p n told s store) (hn : n + 1 < Store.seqBound)
    (hloc : location ≠ Store.inMemory) (now : Instant) (maxTtl : Duration) :
    ∃ store', Tracked location p n told (s.act location now (.reopen maxTtl)) store' ∧
      store'.closed = false ∧ (∀ k, store'.records.get? k = store.live? now k) ∧
      (Store.Ahead told store' ↔ ∀ q ∈ told, s.Reaches now q) := by
  obtain ⟨base, hhoused⟩ := ht.housed
  obtain ⟨m, hm, hnumbered⟩ := ht.numbered
  obtain ⟨v', base', store', m', hopen, hhoused', hclosed, hget, hnumbered', hle, hattained⟩ :=
    hhoused.reopen hloc hnumbered maxTtl now
  have hact : s.act location now (.reopen maxTtl) = ⟨now, some store', v'⟩ := by
    simp [act, Shelf.reopen, Shelf.close, ht.there, hopen, Except.toOption]
  have hnext : store'.nextSeq = m' + 1 := hnumbered'.nextSeq_eq (by omega)
  refine ⟨store', ?_, hclosed, hget, fun ha q hq => ?_, fun hreaches q hq => ?_⟩
  · rw [hact]
    exact ⟨rfl, ⟨base', hhoused'⟩, ⟨m', by omega, hnumbered'⟩, ht.told⟩
  · have hlt := ha q hq
    have hpos := ht.told q hq
    obtain ⟨k, r, hlive, hseq⟩ := hattained.resolve_left (by omega)
    exact ⟨k, r, by rw [live?_eq ht.there, hlive], by omega⟩
  · obtain ⟨k, r, hlive, hqr⟩ := hreaches q hq
    rw [live?_eq ht.there] at hlive
    have hplaced := (hnumbered'.placed k r (by rw [hget, hlive])).2
    omega

theorem act (ht : Tracked location p n told s store) (hn : n + 2 < Store.seqBound)
    (hloc : location ≠ Store.inMemory) (now : Instant) {deed : Deed} (hread : deed.Readable) :
    ∃ m ≤ n + 1, ∃ store', Tracked location p m (told ++ s.tells now deed)
      (s.act location now deed) store' := by
  cases deed with
  | work op => exact ⟨n + 1, Nat.le_refl _, _, ht.work hn now hread⟩
  | request ns limit cursor => exact ⟨n, Nat.le_succ n, store, ht.request now ns limit cursor⟩
  | reopen maxTtl =>
      obtain ⟨store', ht', -⟩ := ht.reopen (by omega) hloc now maxTtl
      rw [tells, List.append_nil]
      exact ⟨n, Nat.le_succ n, store', ht'⟩

theorem run (ht : Tracked location p n told s store) (hloc : location ≠ Store.inMemory)
    {deeds : List (Instant × Deed)} (hread : ∀ a ∈ deeds, a.2.Readable)
    (hfew : n + deeds.length + 1 < Store.seqBound) :
    ∃ m ≤ n + deeds.length, ∃ store', Tracked location p m (told ++ s.told location deeds)
      (s.run location deeds) store' := by
  induction deeds generalizing s told n store with
  | nil => exact ⟨n, Nat.le_refl n, store, by rwa [Shelf.told, List.append_nil]⟩
  | cons a rest ih =>
      obtain ⟨now, deed⟩ := a
      rw [List.length_cons] at hfew
      obtain ⟨m, hm, store₁, ht₁⟩ := ht.act (by omega) hloc now (hread _ List.mem_cons_self)
      obtain ⟨m', hm', store', ht'⟩ :=
        ih ht₁ (fun a ha => hread a (List.mem_cons_of_mem _ ha)) (by omega)
      refine ⟨m', by rw [List.length_cons]; omega, store', ?_⟩
      rwa [List.append_assoc] at ht'

/-- A client who goes on to an empty page is shown every key that stays live and lies behind the
cursor at which it began, restarts or not. -/
theorem mem_pages (ht : Tracked location p n told s store) (hloc : location ≠ Store.inMemory)
    {k : Record.Key} {ns : String} (hns : ns = "" ∨ k.1 = ns) {q cursor : Nat}
    (hplace : ∀ r, store.records.get? k = some r → r.seq = q) (hcursor : cursor < q)
    {deeds : List (Instant × Deed)} (hread : ∀ a ∈ deeds, a.2.Readable)
    (hfew : n + deeds.length + 1 < Store.seqBound) (hsome : AsksForSome deeds)
    (hlive : s.StaysLive location k deeds) {last : Page}
    (hlast : (s.pages location ns cursor deeds).getLast? = some last)
    (hempty : last.records = []) :
    ∃ r ∈ Store.shownOn (s.pages location ns cursor deeds), r.key = k ∧ r.seq = q := by
  induction deeds generalizing s told n store cursor with
  | nil => cases hlast
  | cons a rest ih =>
      obtain ⟨now, deed⟩ := a
      have hread' : ∀ a ∈ rest, a.2.Readable := fun a ha => hread a (List.mem_cons_of_mem _ ha)
      have hsome' : AsksForSome rest := fun a ha => hsome a (List.mem_cons_of_mem _ ha)
      rw [List.length_cons] at hfew
      obtain ⟨hnow, hrest⟩ := hlive
      rw [live?_eq ht.there] at hnow
      obtain ⟨c, hc⟩ := Option.isSome_iff_exists.1 hnow
      have hseq : c.seq = q := hplace c (Store.live?_eq_some_iff.1 hc).1
      cases deed with
      | work op =>
          refine ih (ht.work (by omega) now (hread _ List.mem_cons_self)) ?_ hcursor hread'
            (by omega) hsome' hrest hlast
          exact fun r hr => (Store.seq_perform hc hr).trans hseq
      | reopen maxTtl =>
          obtain ⟨store', ht', -, hget, -⟩ := ht.reopen (by omega) hloc now maxTtl
          refine ih ht' ?_ hcursor hread' (by omega) hsome' hrest hlast
          intro r hr
          rw [hget, hc] at hr
          cases hr
          exact hseq
      | request ns' limit cursor' =>
          have ht' := ht.request now ns' limit cursor'
          by_cases hmine : ns' = ns ∧ cursor' = cursor
          · obtain ⟨rfl, rfl⟩ := hmine
            cases hpage : s.page? now ns' limit cursor' with
            | none =>
                rw [pages_of_no_page hpage] at hlast ⊢
                exact ih ht' hplace hcursor hread' (by omega) hsome' hrest hlast
            | some page =>
                rw [pages_of_page? hpage] at hlast ⊢
                have hq := (page?_eq_some_iff ht.there).1 hpage
                have hlimit : 1 ≤ limit := hsome _ List.mem_cons_self _ _ _ rfl
                obtain ⟨m, -, hnumbered⟩ := ht.numbered
                refine Store.exists_shownOn_cons hlast hempty ?_
                rcases hnumbered.shown_or_ahead ht.wellFormed hq hlimit hc hns (hseq ▸ hcursor)
                  with hshown | ⟨hahead, hnonempty⟩
                · have hkey := ht.wellFormed.filed k c (Store.live?_eq_some_iff.1 hc).1
                  exact .inl ⟨c, hshown, hkey, hseq⟩
                · exact .inr ⟨hnonempty,
                    ih ht' hplace (hseq ▸ hahead) hread' (by omega) hsome' hrest⟩
          · rw [pages_of_other hmine] at hlast ⊢
            exact ih ht' hplace hcursor hread' (by omega) hsome' hrest hlast

end Tracked

/-- Places ascend if and only if what was told of lies before the next place to be handed out,
and every restart keeps up. -/
theorem ascends_iff (ht : Tracked location p n told s store) (hloc : location ≠ Store.inMemory)
    {deeds : List (Instant × Deed)} (hread : ∀ a ∈ deeds, a.2.Readable)
    (hfew : n + deeds.length + 1 < Store.seqBound) :
    s.Ascends location told deeds ↔
      (s.InsertsNext location deeds → Store.Ahead told store) ∧ s.KeepsUp location told deeds := by
  induction deeds generalizing s told n store with
  | nil => simp [Ascends, InsertsNext, KeepsUp]
  | cons a rest ih =>
      obtain ⟨now, deed⟩ := a
      have hread' : ∀ a ∈ rest, a.2.Readable := fun a ha => hread a (List.mem_cons_of_mem _ ha)
      rw [List.length_cons] at hfew
      cases deed with
      | work op =>
          have hop : op.Readable := hread _ List.mem_cons_self
          obtain ⟨m, hm, hnumbered⟩ := ht.numbered
          rw [Ascends, KeepsUp, InsertsNext, ih (ht.work (by omega) now hop) hread' (by omega),
            tells, placed?_work ht.there]
          cases hins : store.inserts now op with
          | true =>
              have hinsert (ha : Store.Ahead told store) :=
                ha.insert hnumbered (by omega) hins
              simp only [if_true, Option.some.injEq, forall_eq', Option.isSome_some, true_or,
                forall_const, Option.toList_some]
              exact ⟨fun h => ⟨h.1, h.2.2⟩, fun h => ⟨h.1, fun _ => hinsert h.1, h.2⟩⟩
          | false =>
              simp [Store.ahead_perform_iff hnumbered (by omega) hins]
      | request ns limit cursor =>
          have ht' := ht.request now ns limit cursor
          rw [Ascends, KeepsUp, InsertsNext, act, ih ht' hread' (by omega),
            ht.ahead_request_iff (by omega)]
          simp [placed?, inserted?]
      | reopen maxTtl =>
          obtain ⟨store', ht', -, -, hahead⟩ := ht.reopen (by omega) hloc now maxTtl
          rw [Ascends, KeepsUp, InsertsNext, tells, List.append_nil, ih ht' hread' (by omega),
            hahead]
          simp [placed?, inserted?]

/-- Where places ascend, no client is led past what is inserted. -/
theorem Ascends.delivers (ht : Tracked location p n [] s store) (hloc : location ≠ Store.inMemory)
    {deeds : List (Instant × Deed)} (hread : ∀ a ∈ deeds, a.2.Readable)
    (hfew : n + deeds.length + 1 < Store.seqBound) (h : s.Ascends location [] deeds) :
    s.Delivers location deeds := by
  intro before now deed after r hsplit hr cursor hcursor ns hns s' hsome hlive last hlast hempty
  subst hsplit
  rw [List.length_append, List.length_cons] at hfew
  obtain ⟨m, hm, store₁, ht₁⟩ :=
    ht.run hloc (fun a ha => hread a (List.mem_append_left _ ha)) (by omega)
  rw [List.nil_append] at ht₁
  have hread' : ∀ a ∈ (now, deed) :: after, a.2.Readable :=
    fun a ha => hread a (List.mem_append_right _ ha)
  cases deed with
  | request ns' limit cursor' => cases hr
  | reopen maxTtl => cases hr
  | work op =>
      have hlater := h.of_append.1 r.seq (by rw [placed?, hr]; rfl)
      rw [List.nil_append] at hlater
      rw [inserted?_work ht₁.there] at hr
      have ht₂ := ht₁.work (by omega) now (hread' _ List.mem_cons_self)
      have hget := Store.get?_inserted? ht₁.wellFormed hr
      obtain ⟨m', -, hnumbered⟩ := ht₂.numbered
      have hbehind : cursor < r.seq := by
        rcases List.mem_cons.1 hcursor with rfl | hcursor
        · exact (hnumbered.placed _ r hget).1
        · exact hlater cursor hcursor
      have hplace : ∀ r', (store₁.perform now op).records.get? r.key = some r' →
          r'.seq = r.seq := by
        intro r' hr'
        rw [hget] at hr'
        cases hr'
        rfl
      exact ht₂.mem_pages hloc hns hplace hbehind
        (fun a ha => hread' a (List.mem_cons_of_mem _ ha)) (by omega) hsome hlive hlast hempty

theorem tracked_of_openStore {v v' : Volume} {maxTtl : Duration} {t : Instant} {s₀ : Store}
    (hloc : location ≠ Store.inMemory)
    (hempty : (v.database? (v.fileOf location)).getD [] = [])
    (hopen : v.openStore location maxTtl t = (v', .ok s₀)) :
    Tracked location (v.fileOf location) 0 [] ⟨t, some s₀, v'⟩ s₀ := by
  obtain ⟨hhoused, hnumbered⟩ := Store.Housed.of_openStore hloc hempty hopen
  exact ⟨rfl, ⟨[], hhoused⟩, ⟨0, Nat.le_refl 0, hnumbered⟩, nofun⟩

/-- **Cursors survive restarts that keep up, and no others.** A store is opened on an empty file
or where there is none, is worked on, asked for pages, and closed and opened again any number of
times, at any times. Each place that is handed out lies beyond all that anyone was told of
before if and only if each restart after which one is handed out finds a live record in the
highest place that was told of, or beyond. Then a client who goes on from a cursor that it held
before is shown what was inserted since. -/
theorem cursors_survive_iff {v v' : Volume} {maxTtl : Duration} {t : Instant} {s₀ : Store}
    (hloc : location ≠ Store.inMemory)
    (hempty : (v.database? (v.fileOf location)).getD [] = [])
    (hopen : v.openStore location maxTtl t = (v', .ok s₀)) (deeds : List (Instant × Deed))
    (hread : ∀ a ∈ deeds, a.2.Readable) (hfew : deeds.length + 1 < Store.seqBound) :
    let s : Shelf := ⟨t, some s₀, v'⟩
    (s.Ascends location [] deeds ↔ s.KeepsUp location [] deeds) ∧
      (s.KeepsUp location [] deeds → s.Delivers location deeds) := by
  intro s
  have ht : Tracked location (v.fileOf location) 0 [] s s₀ :=
    tracked_of_openStore hloc hempty hopen
  have hfew' : 0 + deeds.length + 1 < Store.seqBound := by rwa [Nat.zero_add]
  have hascends : s.Ascends location [] deeds ↔ s.KeepsUp location [] deeds := by
    rw [ascends_iff ht hloc hread hfew', and_iff_right_iff_imp]
    exact fun _ _ => nofun
  exact ⟨hascends, fun hkeeps => (hascends.2 hkeeps).delivers ht hloc hread hfew'⟩

/-- What is opened among no files. -/
def opened : Shelf := ⟨0, some Store.Session.roomSession.store, Store.Session.roomSession.volume⟩

/-- A registration in a namespace for so many seconds, without addresses. -/
def register (ns : String) (secs : Nat) : Operation := .upsert ⟨ns, default, [], .ofSecs secs⟩

theorem register_readable (ns : String) (secs : Nat) : (register ns secs).Readable := nofun

/-- Two registrations, a restart and another registration. The second runs for so many seconds. -/
def restartWith (secs : Nat) : List (Instant × Deed) :=
  [(1000, .work (register "chat" 60)), (2000, .work (register "room" secs)),
    (4000, .reopen (.ofSecs 60)), (5000, .work (register "late" 60))]

theorem restartWith_readable (secs : Nat) : ∀ a ∈ restartWith secs, a.2.Readable := by
  intro a ha
  simp only [restartWith, List.mem_cons, List.not_mem_nil, or_false] at ha
  rcases ha with rfl | rfl | rfl | rfl
  · exact register_readable "chat" 60
  · exact register_readable "room" secs
  · trivial
  · exact register_readable "late" 60

theorem cursors_survive_iff_lasting :
    "records" ≠ Store.inMemory ∧
    (Volume.empty.database? (Volume.empty.fileOf "records")).getD [] = [] ∧
    Volume.empty.openStore "records" (.ofSecs 60) 0 =
      (opened.volume, .ok Store.Session.roomSession.store) ∧
    (∀ a ∈ restartWith 60, a.2.Readable) ∧ (restartWith 60).length + 1 < Store.seqBound ∧
    opened.Ascends "records" [] (restartWith 60) ∧
    opened.Delivers "records" (restartWith 60) := by
  have hloc : "records" ≠ Store.inMemory := by decide
  have hempty : (Volume.empty.database? (Volume.empty.fileOf "records")).getD [] = [] := rfl
  have hopen : Volume.empty.openStore "records" (.ofSecs 60) 0 =
      (opened.volume, .ok Store.Session.roomSession.store) := Store.Session.roomSession_opened
  have hread : ∀ a ∈ restartWith 60, a.2.Readable := restartWith_readable 60
  have hfew : (restartWith 60).length + 1 < Store.seqBound := by decide
  obtain ⟨hascends, hdelivers⟩ :=
    cursors_survive_iff hloc hempty hopen (restartWith 60) hread hfew
  have hkeeps : opened.KeepsUp "records" [] (restartWith 60) := by
    refine ⟨fun _ q hq => ?_, trivial⟩
    -- The second registration is still live.
    have hle : q ≤ 2 := (by decide : ∀ q ∈ [1, 2], q ≤ 2) q hq
    exact ⟨("room", default), ⟨"room", default, [], 62000, 2⟩, by decide, hle⟩
  exact ⟨hloc, hempty, hopen, hread, hfew, hascends.2 hkeeps, hdelivers hkeeps⟩

/-- **A restart can hand out a place again.** The second registration is in place 2, expires and
is dropped when the store is opened again; the next one is put in place 2 as well, where who has
seen the second does not look. -/
theorem place_reused_after_restart : ¬ opened.Ascends "records" [] (restartWith 1) := by
  have hempty : (Volume.empty.database? (Volume.empty.fileOf "records")).getD [] = [] := rfl
  have hloc : "records" ≠ Store.inMemory := by decide
  have ht : Tracked "records" _ 0 [] opened _ :=
    tracked_of_openStore hloc hempty Store.Session.roomSession_opened
  have ht₁ := ht.work (by decide) 1000 (register_readable "chat" 60)
  have ht₂ := ht₁.work (by decide) 2000 (register_readable "room" 1)
  obtain ⟨store', ht', hclosed, hget, -⟩ := ht₂.reopen (by decide) hloc 4000 (.ofSecs 60)
  have hlate : store'.inserts 5000 (register "late" 60) = true := by
    have hnone : store'.live? 5000 ("late", default) = none := by
      rw [Store.live?, hget]
      decide
    rw [register, Store.inserts, Store.upsert_eq hclosed]
    simp [Registration.key, hnone]
  rw [ascends_iff ht hloc (restartWith_readable 1) (by decide)]
  rintro ⟨-, hkeeps, -⟩
  obtain ⟨k, r, hlive, hle⟩ :=
    hkeeps (.inl (by rw [placed?_work ht'.there, hlate]; rfl)) 2 (by decide)
  -- Only the first registration is live when the store is opened again.
  rw [live?_eq ht₂.there, Store.live?_eq_some_iff] at hlive
  have hfirst := (by decide : ∀ a ∈ ((Store.Session.roomSession.store.perform 1000
    (register "chat" 60)).perform 2000 (register "room" 1)).records,
      4000 < a.2.expiresAt → a.2.seq < 2) _ (Table.mem_of_get?_eq_some hlive.1) hlive.2
  exact absurd hle (Nat.not_le.2 hfirst)

end Shelf

end Rendezvous
