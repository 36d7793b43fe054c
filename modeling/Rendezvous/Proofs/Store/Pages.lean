import Rendezvous.Proofs.Store.Numbering

/-!
# Rendezvous.Proofs.Store.Pages

A client reads what is registered page by page, while the store is worked on. No record is
shown to it twice, and a key that keeps a live record all the while is shown once, whatever is
done to its record meanwhile: a live record keeps its place, so that it neither slips behind the
client nor is met again.

* `Store.PagingStep`, `Store.pages`: what happens, and the pages that the client gets;
* `Store.StaysLive`: a key keeps a live record;
* `Store.pairwise_pages`, `Store.mem_pages`: the order of what is shown, and what is shown;
* `Store.pages_stable`.
-/

namespace Rendezvous.Store

/-! ### One page -/

section Query

variable {s : Store} {now : Instant} {ns : String} {limit cursor : Nat} {page : Page}

/-- All that can be shown behind a cursor, in order. -/
def found (s : Store) (now : Instant) (ns : String) (cursor : Nat) : List Record :=
  (s.records.values.filter (onPage now ns cursor)).mergeSort fun a b => a.seq ≤ b.seq

theorem records_of_query (hq : s.query now ns limit cursor = .ok page) :
    page.records = (s.found now ns cursor).take limit := by
  unfold query at hq
  split at hq
  · cases hq
  · cases hq
    rfl

/-- Where what is found stands in order, it need not be sorted. -/
theorem query_of_filter {l : List Record} (h : s.closed = false)
    (hl : s.records.values.filter (onPage now ns cursor) = l)
    (hsorted : l.Pairwise fun a b => a.seq ≤ b.seq) :
    s.query now ns limit cursor =
      .ok ⟨l.take limit, ((l.take limit).getLast?.map (·.seq)).getD cursor⟩ := by
  have hsort : (l.mergeSort fun a b => a.seq ≤ b.seq) = l :=
    List.mergeSort_of_pairwise (hsorted.imp fun hle => decide_eq_true hle)
  rw [query, if_neg (by simp [h]), hl, hsort]

theorem cursor_of_query (hq : s.query now ns limit cursor = .ok page) :
    page.cursor = (page.records.getLast?.map (·.seq)).getD cursor := by
  unfold query at hq
  split at hq
  · cases hq
  · cases hq
    rfl

theorem sorted_found (s : Store) (now : Instant) (ns : String) (cursor : Nat) :
    (s.found now ns cursor).Pairwise fun a b => a.seq ≤ b.seq := by
  have h : (s.found now ns cursor).Pairwise fun a b => decide (a.seq ≤ b.seq) = true :=
    List.pairwise_mergeSort
      (by simp only [decide_eq_true_eq]; exact fun _ _ _ => Nat.le_trans)
      (by simp only [Bool.or_eq_true, decide_eq_true_eq]; exact fun a b => Nat.le_total _ _)
      (s.records.values.filter (onPage now ns cursor))
  simpa using h

theorem lt_of_mem_found {r : Record} (hr : r ∈ s.found now ns cursor) : cursor < r.seq := by
  have hpage := (List.mem_filter.1 (List.mem_mergeSort.1 hr)).2
  simp only [onPage, Bool.and_eq_true, decide_eq_true_eq] at hpage
  exact hpage.1.1

theorem mem_found (hs : s.WellFormed) {k : Record.Key} {r : Record}
    (hlive : s.live? now k = some r) (hns : ns = "" ∨ k.1 = ns) (hcursor : cursor < r.seq) :
    r ∈ s.found now ns cursor := by
  obtain ⟨hget, hlt⟩ := live?_eq_some_iff.1 hlive
  have hkey : r.namespaceName = k.1 := congrArg Prod.fst (hs.filed k r hget)
  refine List.mem_mergeSort.2 (List.mem_filter.2 ⟨?_, ?_⟩)
  · exact List.mem_map.2 ⟨(k, r), Table.mem_of_get?_eq_some hget, rfl⟩
  · have hopen : ns.isEmpty = true ∨ r.namespaceName = ns := by
      rcases hns with rfl | rfl
      · exact Or.inl rfl
      · exact Or.inr hkey
    simpa [onPage, Record.isExpired, hcursor, hlt] using hopen

/-- No two records in a store have one place, so that the order of what is found is strict. -/
theorem Numbered.pairwise_found {n : Nat} (h : s.Numbered n) (hs : s.WellFormed)
    (now : Instant) (ns : String) (cursor : Nat) :
    (s.found now ns cursor).Pairwise fun a b => a.seq < b.seq := by
  have hvalues : s.records.values.Pairwise fun a b => a.seq ≠ b.seq := by
    refine List.pairwise_map.2 ((List.pairwise_map.1 hs.distinct).imp_of_mem ?_)
    intro a b ha hb hne heq
    have hget := Table.get?_eq_some_of_mem hs.distinct ha
    have hget' := Table.get?_eq_some_of_mem hs.distinct hb
    exact hne (h.apart _ _ _ _ hget hget' heq)
  have hapart : (s.found now ns cursor).Pairwise fun a b => a.seq ≠ b.seq :=
    (List.mergeSort_perm _ _).symm.pairwise (hvalues.filter _) fun hne => Ne.symm hne
  exact ((s.sorted_found now ns cursor).and hapart).imp fun h => Nat.lt_of_le_of_ne h.1 h.2

/-- Nothing on a page stands behind the cursor that comes with it. -/
theorem le_cursor_of_mem (hq : s.query now ns limit cursor = .ok page) {r : Record}
    (hr : r ∈ page.records) : r.seq ≤ page.cursor := by
  have hsorted : page.records.Pairwise fun a b => a.seq ≤ b.seq := by
    rw [records_of_query hq]
    exact (s.sorted_found now ns cursor).sublist (List.take_sublist ..)
  rw [cursor_of_query hq]
  obtain ⟨init, last, hlast⟩ :=
    (List.eq_nil_or_concat page.records).resolve_left (List.ne_nil_of_mem hr)
  rw [List.concat_eq_append] at hlast
  rw [hlast] at hr hsorted ⊢
  rw [List.getLast?_concat]
  rcases List.mem_append.1 hr with hr | hr
  · exact (List.pairwise_append.1 hsorted).2.2 r hr last (List.mem_singleton.2 rfl)
  · rw [List.mem_singleton.1 hr]
    exact Nat.le_refl _

theorem lt_of_mem_page (hq : s.query now ns limit cursor = .ok page) {r : Record}
    (hr : r ∈ page.records) : cursor < r.seq := by
  rw [records_of_query hq] at hr
  exact lt_of_mem_found (List.mem_of_mem_take hr)

/-- The cursor does not go back. -/
theorem cursor_le (hq : s.query now ns limit cursor = .ok page) : cursor ≤ page.cursor := by
  cases hlast : page.records.getLast? with
  | none =>
      rw [cursor_of_query hq, hlast]
      exact Nat.le_refl _
  | some r =>
      have hr := List.mem_of_getLast? hlast
      exact Nat.le_of_lt (Nat.lt_of_lt_of_le (lt_of_mem_page hq hr) (le_cursor_of_mem hq hr))

/-- A page passes over nothing: what the cursor goes past is on it. -/
theorem mem_page (hq : s.query now ns limit cursor = .ok page) {n : Nat} (h : s.Numbered n)
    (hs : s.WellFormed) {r : Record} (hr : r ∈ s.found now ns cursor)
    (hle : r.seq ≤ page.cursor) : r ∈ page.records := by
  have hstrict := h.pairwise_found hs now ns cursor
  have hlt := lt_of_mem_found hr
  rw [← List.take_append_drop limit (s.found now ns cursor), ← records_of_query hq] at hr hstrict
  rcases List.mem_append.1 hr with hr | hr
  · exact hr
  · exfalso
    rw [cursor_of_query hq] at hle
    cases hlast : page.records.getLast? with
    | none =>
        rw [hlast] at hle
        exact absurd (Nat.lt_of_lt_of_le hlt hle) (Nat.lt_irrefl _)
    | some last =>
        rw [hlast] at hle
        have hmem := List.mem_of_getLast? hlast
        exact absurd ((List.pairwise_append.1 hstrict).2.2 last hmem r hr) (Nat.not_lt.2 hle)

/-- A page with room for a record is empty only if there is nothing left to show. -/
theorem found_eq_nil (hq : s.query now ns limit cursor = .ok page) (hlimit : 1 ≤ limit)
    (hempty : page.records = []) : s.found now ns cursor = [] := by
  rw [records_of_query hq, List.take_eq_nil_iff] at hempty
  rcases hempty with h | h
  · omega
  · exact h

end Query

/-! ### Page after page -/

/-- What happens while a client reads page by page. -/
inductive PagingStep where
  /-- The store is worked on. -/
  | work (op : Operation)
  /-- The client asks for the next page, of so many records at most. -/
  | request (limit : Nat)

/-- The operations among some steps. -/
def workOf : List (Instant × PagingStep) → List (Instant × Operation)
  | [] => []
  | (now, .work op) :: rest => (now, op) :: workOf rest
  | (_, .request _) :: rest => workOf rest

/-- The pages that a client gets who begins at a cursor and goes on from each page's own. -/
def pages (s : Store) (ns : String) (cursor : Nat) : List (Instant × PagingStep) → List Page
  | [] => []
  | (now, .work op) :: rest => (s.perform now op).pages ns cursor rest
  | (now, .request limit) :: rest =>
    match s.query now ns limit cursor with
    | .ok page => page :: s.pages ns page.cursor rest
    | .error _ => s.pages ns cursor rest

/-- All that a client is shown, in order. -/
def shownOn (pages : List Page) : List Record := pages.flatMap (·.records)

/-- A key has a live record when each step is taken; on a clock that does not go back, it then
has one without interruption from the first to the last. -/
def StaysLive (s : Store) (k : Record.Key) : List (Instant × PagingStep) → Prop
  | [] => True
  | (now, .work op) :: rest => (s.live? now k).isSome ∧ (s.perform now op).StaysLive k rest
  | (now, .request _) :: rest => (s.live? now k).isSome ∧ s.StaysLive k rest

theorem pages_of_query {s : Store} {now : Instant} {ns : String} {limit cursor : Nat} {page : Page}
    (hq : s.query now ns limit cursor = .ok page) (rest : List (Instant × PagingStep)) :
    s.pages ns cursor ((now, .request limit) :: rest) = page :: s.pages ns page.cursor rest := by
  rw [pages, hq]

/-- A request that fails leaves the client where it was. -/
theorem pages_of_error {s : Store} {now : Instant} {ns : String} {limit cursor : Nat} {e : Error}
    (hq : s.query now ns limit cursor = .error e) (rest : List (Instant × PagingStep)) :
    s.pages ns cursor ((now, .request limit) :: rest) = s.pages ns cursor rest := by
  rw [pages, hq]

theorem shownOn_cons (page : Page) (rest : List Page) :
    shownOn (page :: rest) = page.records ++ shownOn rest := List.flatMap_cons

section Pages

variable {s : Store} {ns : String} {cursor n : Nat}

/-- What a client is shown lies behind the cursor at which it began. -/
theorem lt_of_mem_shownOn {steps : List (Instant × PagingStep)} {r : Record}
    (hr : r ∈ shownOn (s.pages ns cursor steps)) : cursor < r.seq := by
  induction steps generalizing s cursor with
  | nil => cases hr
  | cons a rest ih =>
      obtain ⟨now, step⟩ := a
      cases step with
      | work op => exact ih hr
      | request limit =>
          cases hq : s.query now ns limit cursor with
          | error e =>
              rw [pages_of_error hq] at hr
              exact ih hr
          | ok page =>
              rw [pages_of_query hq, shownOn_cons, List.mem_append] at hr
              rcases hr with hr | hr
              · exact lt_of_mem_page hq hr
              · exact Nat.lt_of_le_of_lt (cursor_le hq) (ih hr)

/-- A client is shown records in the strict order of their places. -/
theorem pairwise_pages (h : s.Numbered n) (hs : s.WellFormed)
    {steps : List (Instant × PagingStep)} (hfew : n + s.insertions (workOf steps) < seqBound) :
    (shownOn (s.pages ns cursor steps)).Pairwise fun a b => a.seq < b.seq := by
  induction steps generalizing s cursor n with
  | nil => exact List.Pairwise.nil
  | cons a rest ih =>
      obtain ⟨now, step⟩ := a
      cases step with
      | work op =>
          rw [workOf, insertions, ← Nat.add_assoc] at hfew
          exact ih (h.perform op (by omega)) (hs.perform now op) hfew
      | request limit =>
          cases hq : s.query now ns limit cursor with
          | error e =>
              rw [pages_of_error hq]
              exact ih h hs hfew
          | ok page =>
              rw [pages_of_query hq, shownOn_cons, List.pairwise_append]
              refine ⟨?_, ih h hs hfew, ?_⟩
              · rw [records_of_query hq]
                exact (h.pairwise_found hs now ns cursor).sublist (List.take_sublist ..)
              · intro a ha b hb
                exact Nat.lt_of_le_of_lt (le_cursor_of_mem hq ha) (lt_of_mem_shownOn hb)

/-- While a key stays live, its record is always shown in one place. -/
theorem seq_of_mem_shownOn (hs : s.WellFormed) {k : Record.Key} {q : Nat}
    (hplace : ∀ r, s.records.get? k = some r → r.seq = q)
    {steps : List (Instant × PagingStep)} (hlive : s.StaysLive k steps) {r : Record}
    (hr : r ∈ shownOn (s.pages ns cursor steps)) (hk : r.key = k) : r.seq = q := by
  induction steps generalizing s cursor with
  | nil => cases hr
  | cons a rest ih =>
      obtain ⟨now, step⟩ := a
      cases step with
      | work op =>
          obtain ⟨c, hc⟩ := Option.isSome_iff_exists.1 hlive.1
          refine ih (hs.perform now op) ?_ hlive.2 hr
          intro r' hr'
          exact (seq_perform hc hr').trans (hplace c (live?_eq_some_iff.1 hc).1)
      | request limit =>
          cases hq : s.query now ns limit cursor with
          | error e =>
              rw [pages_of_error hq] at hr
              exact ih hs hplace hlive.2 hr
          | ok page =>
              rw [pages_of_query hq, shownOn_cons, List.mem_append] at hr
              rcases hr with hr | hr
              · have hshown := hs.live_of_mem_page hq hr
                rw [hk] at hshown
                exact hplace r (live?_eq_some_iff.1 hshown).1
              · exact ih hs hplace hlive.2 hr

/-- A client who goes on to an empty page is shown every key that stays live and lies behind
the cursor at which it began. -/
theorem mem_pages (h : s.Numbered n) (hs : s.WellFormed) {k : Record.Key}
    (hns : ns = "" ∨ k.1 = ns) {q : Nat} (hplace : ∀ r, s.records.get? k = some r → r.seq = q)
    (hcursor : cursor < q) {steps : List (Instant × PagingStep)}
    (hfew : n + s.insertions (workOf steps) < seqBound)
    (hlimit : ∀ a ∈ steps, ∀ limit, a.2 = .request limit → 1 ≤ limit)
    (hlive : s.StaysLive k steps) {last : Page}
    (hlast : (s.pages ns cursor steps).getLast? = some last) (hempty : last.records = []) :
    ∃ r ∈ shownOn (s.pages ns cursor steps), r.key = k := by
  induction steps generalizing s cursor n with
  | nil => cases hlast
  | cons a rest ih =>
      obtain ⟨now, step⟩ := a
      have hlimit' : ∀ a ∈ rest, ∀ limit, a.2 = .request limit → 1 ≤ limit :=
        fun a ha => hlimit a (List.mem_cons_of_mem _ ha)
      cases step with
      | work op =>
          obtain ⟨c, hc⟩ := Option.isSome_iff_exists.1 hlive.1
          rw [workOf, insertions, ← Nat.add_assoc] at hfew
          refine ih (h.perform op (by omega)) (hs.perform now op) ?_ hcursor hfew hlimit'
            hlive.2 hlast
          intro r hr
          exact (seq_perform hc hr).trans (hplace c (live?_eq_some_iff.1 hc).1)
      | request limit =>
          obtain ⟨c, hc⟩ := Option.isSome_iff_exists.1 hlive.1
          obtain ⟨hget, -⟩ := live?_eq_some_iff.1 hc
          have hseq : c.seq = q := hplace c hget
          have hfound : c ∈ s.found now ns cursor := mem_found hs hc hns (hseq ▸ hcursor)
          cases hq : s.query now ns limit cursor with
          | error e =>
              rw [pages_of_error hq] at hlast ⊢
              exact ih h hs hplace hcursor hfew hlimit' hlive.2 hlast
          | ok page =>
              rw [pages_of_query hq] at hlast ⊢
              rw [shownOn_cons]
              by_cases hpast : q ≤ page.cursor
              · -- The cursor goes past the record on this page.
                have hmem := mem_page hq h hs hfound (hseq ▸ hpast)
                exact ⟨c, List.mem_append_left _ hmem, hs.filed k c hget⟩
              · cases hrest : (s.pages ns page.cursor rest).getLast? with
                | none =>
                    -- This page is the last, and empty although there is a record to show.
                    rw [List.getLast?_eq_none_iff] at hrest
                    rw [hrest, List.getLast?_singleton] at hlast
                    cases hlast
                    have hone := hlimit _ List.mem_cons_self limit rfl
                    rw [found_eq_nil hq hone hempty] at hfound
                    cases hfound
                | some last' =>
                    rw [List.getLast?_cons, hrest] at hlast
                    cases hlast
                    obtain ⟨r, hr, hk⟩ := ih h hs hplace (Nat.not_le.1 hpast) hfew hlimit'
                      hlive.2 hrest
                    exact ⟨r, List.mem_append_right _ hr, hk⟩

/-- A key that stays live has a record to begin with. -/
theorem StaysLive.exists_record {k : Record.Key} {steps : List (Instant × PagingStep)}
    (h : s.StaysLive k steps) (hne : steps ≠ []) : ∃ c, s.records.get? k = some c := by
  cases steps with
  | nil => exact absurd rfl hne
  | cons a rest =>
      obtain ⟨now, step⟩ := a
      have hlive : (s.live? now k).isSome := by
        cases step with
        | work op => exact h.1
        | request limit => exact h.1
      obtain ⟨c, hc⟩ := Option.isSome_iff_exists.1 hlive
      exact ⟨c, (live?_eq_some_iff.1 hc).1⟩

/-- Of records in the strict order of their places, a key that stands in one place has one. -/
theorem filter_key_eq_singleton {shown : List Record}
    (hsorted : shown.Pairwise fun a b => a.seq < b.seq) {k : Record.Key} {q : Nat}
    (hplace : ∀ r ∈ shown, r.key = k → r.seq = q) {r : Record} (hr : r ∈ shown)
    (hk : r.key = k) : shown.filter (fun r => r.key = k) = [r] := by
  have hmem : r ∈ shown.filter (fun r => r.key = k) :=
    List.mem_filter.2 ⟨hr, decide_eq_true hk⟩
  have hall : ∀ r' ∈ shown.filter (fun r => r.key = k), r'.seq = q := by
    intro r' hr'
    obtain ⟨hr', hk'⟩ := List.mem_filter.1 hr'
    exact hplace r' hr' (of_decide_eq_true hk')
  have hstrict := hsorted.filter (fun r => r.key = k)
  match hf : shown.filter (fun r => r.key = k) with
  | [] =>
      rw [hf] at hmem
      cases hmem
  | [a] =>
      rw [hf] at hmem
      rw [hf, List.mem_singleton.1 hmem]
  | a :: b :: rest =>
      rw [hf] at hstrict hall
      have hlt := (List.pairwise_cons.1 hstrict).1 b List.mem_cons_self
      have ha := hall a List.mem_cons_self
      have hb := hall b (List.mem_cons_of_mem _ List.mem_cons_self)
      omega

end Pages

/-! ### From an empty store -/

/-- A store that has held nothing yet. -/
structure Blank (s : Store) : Prop where
  records : s.records = []
  tombstones : s.tombstones = []
  next : s.nextSeq = 1

theorem blank_empty (maxTtl : Duration) : (Store.empty maxTtl).Blank := ⟨rfl, rfl, rfl⟩

theorem Blank.wellFormed {s : Store} (h : s.Blank) : s.WellFormed :=
  (WellFormed.empty s.maxTtl).congr h.records h.tombstones

theorem Blank.numbered {s : Store} (h : s.Blank) : s.Numbered 0 where
  next := h.next
  placed k r hr := by
    rw [h.records] at hr
    cases hr
  apart k k' r r' hr := by
    rw [h.records] at hr
    cases hr

/-- **Paging is stable.** A client begins at cursor 0 and goes on from each page's own, with
pages of one record or more, while the store is worked on in any way. Then it is shown records
in the strict order of their places and no record of a key twice in one place; and if it goes on
to an empty page, every key of the namespace that stays live all the while is shown once. -/
theorem pages_stable {s₀ : Store} (h₀ : s₀.Blank) (before : List (Instant × Operation))
    (ns : String) (steps : List (Instant × PagingStep))
    (hfew : s₀.insertions (before ++ workOf steps) < seqBound)
    (hlimit : ∀ a ∈ steps, ∀ limit, a.2 = .request limit → 1 ≤ limit) :
    let s := s₀.performAll before
    let shown := shownOn (s.pages ns 0 steps)
    shown.Pairwise (fun a b => a.seq < b.seq) ∧
    (shown.map fun r => (r.key, r.seq)).Nodup ∧
    ∀ last, (s.pages ns 0 steps).getLast? = some last → last.records = [] →
      ∀ k, (ns = "" ∨ k.1 = ns) → s.StaysLive k steps →
        ∃ r, shown.filter (fun r => r.key = k) = [r] := by
  intro s shown
  rw [insertions_append] at hfew
  have hn : s.Numbered (0 + s₀.insertions before) := h₀.numbered.performAll (by omega)
  rw [Nat.zero_add] at hn
  have hs : s.WellFormed := h₀.wellFormed.performAll before
  have hsorted : shown.Pairwise (fun a b => a.seq < b.seq) := pairwise_pages hn hs hfew
  refine ⟨hsorted, ?_, ?_⟩
  · refine List.pairwise_map.2 (hsorted.imp ?_)
    intro a b hlt heq
    exact absurd (congrArg Prod.snd heq) (Nat.ne_of_lt hlt)
  · intro last hlast hempty k hns hlive
    have hne : steps ≠ [] := by
      rintro rfl
      cases hlast
    obtain ⟨c, hget⟩ := hlive.exists_record hne
    have hplace : ∀ r, s.records.get? k = some r → r.seq = c.seq := by
      intro r hr
      rw [hget] at hr
      cases hr
      rfl
    obtain ⟨r, hr, hk⟩ := mem_pages hn hs hns hplace (hn.placed k c hget).1 hfew hlimit hlive
      hlast hempty
    have hseq : ∀ r' ∈ shown, r'.key = k → r'.seq = c.seq :=
      fun r' hr' hk' => seq_of_mem_shownOn hs hplace hlive hr' hk'
    exact ⟨r, filter_key_eq_singleton hsorted hseq hr hk⟩

/-- Two rooms, each with a peer. -/
def roomsRegistered : List (Instant × Operation) :=
  [(0, .upsert ⟨"blue", default, [], .ofMillis 100⟩),
    (5, .upsert ⟨"green", default, [], .ofMillis 100⟩)]

/-- Between two requests the peer of the second room registers anew and is then heard of from
another node, while that of the first leaves and a sweep is made. -/
def greenRead : List (Instant × PagingStep) :=
  [(10, .request 1), (20, .work (.upsert ⟨"green", default, [], .ofMillis 50⟩)),
    (30, .work (.remove ("blue", default))),
    (40, .work (.merge ⟨"green", default, [], 500, 9⟩)), (60, .work .reclaim), (150, .request 1)]

theorem pages_stable_green :
    (Store.empty (.ofMillis 1000)).insertions (roomsRegistered ++ workOf greenRead) < seqBound ∧
    (∀ a ∈ greenRead, ∀ limit, a.2 = .request limit → 1 ≤ limit) ∧
    let s := (Store.empty (.ofMillis 1000)).performAll roomsRegistered
    let shown := shownOn (s.pages "green" 0 greenRead)
    (s.pages "green" 0 greenRead).getLast? = some ⟨[], 2⟩ ∧
    s.StaysLive ("green", default) greenRead ∧
    shown.Pairwise (fun a b => a.seq < b.seq) ∧
    ∃ r, shown.filter (fun r => r.key = ("green", default)) = [r] := by
  have hfew : (Store.empty (.ofMillis 1000)).insertions (roomsRegistered ++ workOf greenRead)
      < seqBound := by decide
  have hlimit : ∀ a ∈ greenRead, ∀ limit, a.2 = .request limit → 1 ≤ limit := by
    simp [greenRead]
  have hlive : ((Store.empty (.ofMillis 1000)).performAll roomsRegistered).StaysLive
      ("green", default) greenRead := by
    refine ⟨?_, ?_, ?_, ?_, ?_, ?_, trivial⟩ <;> rfl
  have hlast : (((Store.empty (.ofMillis 1000)).performAll roomsRegistered).pages "green" 0
      greenRead).getLast? = some ⟨[], 2⟩ := by
    have hfirst : ((Store.empty (.ofMillis 1000)).performAll roomsRegistered).query 10 "green" 1 0
        = .ok ⟨[⟨"green", default, [], 105, 2⟩], 2⟩ :=
      query_of_filter rfl (by decide +kernel) (List.pairwise_singleton ..)
    rw [greenRead, pages_of_query hfirst]
    simp only [pages]
    rw [query_of_filter (l := []) rfl (by decide +kernel) List.Pairwise.nil]
    rfl
  obtain ⟨hsorted, -, honce⟩ :=
    pages_stable (blank_empty (.ofMillis 1000)) roomsRegistered "green" greenRead hfew hlimit
  refine ⟨hfew, hlimit, hlast, hlive, hsorted, ?_⟩
  exact honce ⟨[], 2⟩ hlast rfl ("green", default) (Or.inr rfl) hlive

end Rendezvous.Store
