import Mathlib.Data.List.Induction
import Rendezvous.Net.IdleWatch

/-!
# Rendezvous.Proofs.Net.IdleWatch

The last close is never missed. A waiter that was not woken sleeps only while connections are
open, or while the one that closed last is about to wake it: it asks to be woken before it looks
at the count, and the count is brought to zero before it is woken.

* `IdleWatch.Turned`: what a turn does, if it can be taken;
* `IdleTurn.closed`, `IdleTurn.numbered`: the connections of some turns;
* `IdleWatch.Watched`: what holds after some turns; `Watched.step`, `watched_run`;
* `IdleWatch.counts_lt`: counters of 64 bits are enough;
* `IdleWatch.finds_idle`: a waiter that is let go on finds that no connection is open;
* `IdleWatch.last_close_heard`: no close is missed, no wait ends too early;
* `IdleWatch.waits_as_told`: a wait among closings that are given beforehand is one of the runs.
-/

namespace Rendezvous

/-- Whether a wait is under way. -/
def WaitStage.waiting : WaitStage → Bool
  | .asking | .looking _ | .asleep _ => true
  | _ => false

theorem WaitStage.waiting_roused (s : WaitStage) : s.roused.waiting = s.waiting := by
  cases s <;> rfl

theorem WaitStage.roused_ne (s : WaitStage) : s.roused ≠ .asleep false := by
  cases s <;> simp [roused]

theorem WaitStage.roused_eq_idle {s : WaitStage} : s.roused = .idle ↔ s = .idle := by
  cases s <;> simp [roused]

/-! ### What turns tell -/

namespace IdleTurn

/-- The connections that were closed, in order. -/
def closed (turns : List IdleTurn) : List ConnectionId :=
  turns.filterMap fun
    | .close id => some id
    | _ => none

/-- The connections that were opened, in order: they are numbered from 1. -/
def numbered (turns : List IdleTurn) : List ConnectionId :=
  (List.range (turns.count .track)).map fun i => ⟨i + 1⟩

variable {turns : List IdleTurn} {t : IdleTurn}

theorem closed_snoc_close (turns : List IdleTurn) (id : ConnectionId) :
    closed (turns ++ [.close id]) = closed turns ++ [id] := by
  simp [closed]

theorem closed_snoc (ht : ∀ id, t ≠ .close id) : closed (turns ++ [t]) = closed turns := by
  cases t with
  | close id => exact absurd rfl (ht id)
  | _ => simp [closed]

theorem count_snoc (ht : t ≠ .track) :
    (turns ++ [t]).count .track = turns.count .track := by
  rw [List.count_append, List.count_singleton, if_neg (by simpa using ht), Nat.add_zero]

theorem numbered_snoc (ht : t ≠ .track) : numbered (turns ++ [t]) = numbered turns := by
  rw [numbered, count_snoc ht, numbered]

theorem count_snoc_track (turns : List IdleTurn) :
    (turns ++ [track]).count track = turns.count track + 1 := by
  rw [List.count_append, List.count_singleton_self]

theorem numbered_snoc_track (turns : List IdleTurn) :
    numbered (turns ++ [.track]) = numbered turns ++ [⟨turns.count .track + 1⟩] := by
  rw [numbered, count_snoc_track, List.range_succ, List.map_append, numbered]
  rfl

theorem nodup_numbered (turns : List IdleTurn) : (numbered turns).Nodup := by
  refine List.Pairwise.map _ ?_ List.nodup_range
  intro i j hij
  simpa using hij

end IdleTurn

namespace IdleWatch

/-- What a turn does, if it can be taken. -/
inductive Turned (w : IdleWatch) : IdleTurn → IdleWatch → Prop where
  | track : Turned w .track
      { w with active := w.active + 1, total := w.total + 1, opened := ⟨w.total + 1⟩ :: w.opened }
  | close {id : ConnectionId} (hopen : id ∈ w.opened) : Turned w (.close id)
      { w with active := w.active - 1, opened := w.opened.erase id,
               waking := if w.active = 1 then w.waking + 1 else w.waking }
  | wake (hwaking : w.waking ≠ 0) : Turned w .wake
      { w with waking := w.waking - 1, wait := w.wait.roused }
  | beginWait (hwait : w.wait.waiting = false) :
      Turned w .beginWait { w with wait := .asking }
  | ask (hwait : w.wait = .asking) : Turned w .ask { w with wait := .looking false }
  | lookEmpty {woken : Bool} (hwait : w.wait = .looking woken) (hactive : w.active = 0) :
      Turned w .look { w with wait := .idle }
  | lookBusy {woken : Bool} (hwait : w.wait = .looking woken) (hactive : w.active ≠ 0) :
      Turned w .look { w with wait := .asleep woken }
  | rouse (hwait : w.wait = .asleep true) : Turned w .rouse { w with wait := .asking }
  | expire (hwait : w.wait.waiting = true) : Turned w .expire { w with wait := .timedOut }

variable {w w' : IdleWatch} {turns : List IdleTurn} {t : IdleTurn}

theorem turned_of_step? (h : w.step? t = some w') : w.Turned t w' := by
  cases t with
  | track =>
      cases h
      exact .track
  | close id =>
      rw [step?] at h
      split at h
      · rename_i hopen
        cases h
        exact .close (List.contains_iff_mem.1 hopen)
      · cases h
  | wake =>
      rw [step?] at h
      split at h
      · cases h
      · rename_i hwaking
        cases h
        exact .wake hwaking
  | beginWait =>
      simp only [step?] at h
      split at h <;> cases h
      all_goals
        rename_i hwait
        exact .beginWait (by rw [hwait]; rfl)
  | ask =>
      simp only [step?] at h
      split at h <;> cases h
      rename_i hwait
      exact .ask hwait
  | look =>
      simp only [step?] at h
      split at h <;> cases h
      rename_i woken hwait
      split
      · rename_i hactive
        exact .lookEmpty hwait hactive
      · rename_i hactive
        exact .lookBusy hwait hactive
  | rouse =>
      simp only [step?] at h
      split at h <;> cases h
      rename_i hwait
      exact .rouse hwait
  | expire =>
      simp only [step?] at h
      split at h <;> cases h
      all_goals
        rename_i hwait
        exact .expire (by rw [hwait]; rfl)

/-! ### Runs -/

theorem run?_append (w : IdleWatch) (turns later : List IdleTurn) :
    w.run? (turns ++ later) = (w.run? turns).bind (·.run? later) := by
  induction turns generalizing w with
  | nil => rfl
  | cons t rest ih =>
      rw [List.cons_append, run?, run?]
      cases w.step? t with
      | none => rfl
      | some w' => exact ih w'

/-- A run is one that was a turn shorter, and a turn. -/
theorem run?_snoc (hrun : w.run? (turns ++ [t]) = some w') :
    ∃ u, w.run? turns = some u ∧ u.step? t = some w' := by
  rw [run?_append] at hrun
  obtain ⟨u, hu, hlast⟩ := Option.bind_eq_some_iff.1 hrun
  refine ⟨u, hu, ?_⟩
  rw [run?] at hlast
  cases hstep : u.step? t with
  | none =>
      rw [hstep] at hlast
      cases hlast
  | some v =>
      rw [hstep] at hlast
      exact hlast

/-! ### What holds after some turns -/

/-- What was done since the latest wait began. -/
def Since (turns since : List IdleTurn) : Prop :=
  ∃ before, turns = before ++ .beginWait :: since ∧ .beginWait ∉ since

theorem Since.snoc {since : List IdleTurn} (h : Since turns since) (ht : t ≠ .beginWait) :
    Since (turns ++ [t]) (since ++ [t]) := by
  obtain ⟨before, rfl, hnot⟩ := h
  refine ⟨before, by simp, ?_⟩
  simpa [Ne.symm ht] using hnot

/-- There was a moment, since the latest wait began, at which no connection was open. -/
def SeenEmpty (turns : List IdleTurn) : Prop :=
  ∃ before during after w, turns = before ++ .beginWait :: (during ++ after) ∧
    .beginWait ∉ during ++ after ∧
    start.run? (before ++ .beginWait :: during) = some w ∧ w.active = 0

theorem SeenEmpty.of_since {since : List IdleTurn} (h : Since turns since)
    (hrun : start.run? turns = some w) (hactive : w.active = 0) : SeenEmpty turns := by
  obtain ⟨before, rfl, hnot⟩ := h
  refine ⟨before, since, [], w, ?_, ?_, hrun, hactive⟩
  · rw [List.append_nil]
  · rwa [List.append_nil]

theorem SeenEmpty.snoc (h : SeenEmpty turns) (ht : t ≠ .beginWait) :
    SeenEmpty (turns ++ [t]) := by
  obtain ⟨before, during, after, w, rfl, hnot, hrun, hactive⟩ := h
  refine ⟨before, during, after ++ [t], w, by simp, ?_, hrun, hactive⟩
  simpa [Ne.symm ht] using hnot

/-- What the counts say after some turns. -/
structure Counted (turns : List IdleTurn) (w : IdleWatch) : Prop where
  total : w.total = turns.count .track
  active : w.active = w.opened.length
  /-- Those that were opened are open or were closed, each once. -/
  guards : (w.opened ++ IdleTurn.closed turns).Perm (IdleTurn.numbered turns)

namespace Counted

theorem nodup_opened (h : Counted turns w) : w.opened.Nodup :=
  (List.nodup_append.1 (h.guards.nodup_iff.2 (IdleTurn.nodup_numbered turns))).1

theorem track (h : Counted turns w) :
    Counted (turns ++ [.track]) { w with
      active := w.active + 1, total := w.total + 1, opened := ⟨w.total + 1⟩ :: w.opened } where
  total := by
    rw [IdleTurn.count_snoc_track, h.total]
  active := by
    rw [List.length_cons, h.active]
  guards := by
    rw [IdleTurn.closed_snoc (by simp), IdleTurn.numbered_snoc_track, h.total, List.cons_append]
    exact (h.guards.cons _).trans (List.perm_append_singleton _ _).symm

theorem close (h : Counted turns w) {id : ConnectionId} (hopen : id ∈ w.opened) (n : Nat) :
    Counted (turns ++ [.close id]) { w with
      active := w.active - 1, opened := w.opened.erase id, waking := n } where
  total := by
    rw [IdleTurn.count_snoc (by simp), h.total]
  active := by
    rw [List.length_erase_of_mem hopen, h.active]
  guards := by
    rw [IdleTurn.closed_snoc_close, IdleTurn.numbered_snoc (by simp), ← List.append_assoc]
    refine (List.perm_append_singleton id _).trans ?_
    rw [← List.cons_append]
    exact ((List.perm_cons_erase hopen).symm.append_right _).trans h.guards

/-- Turns of the waiter and of those that wake it open and close nothing. -/
theorem other (h : Counted turns w) (htrack : t ≠ .track) (hclose : ∀ id, t ≠ .close id)
    (n : Nat) (stage : WaitStage) :
    Counted (turns ++ [t]) { w with waking := n, wait := stage } where
  total := by
    rw [IdleTurn.count_snoc htrack, h.total]
  active := h.active
  guards := by
    rw [IdleTurn.closed_snoc hclose, IdleTurn.numbered_snoc htrack]
    exact h.guards

end Counted

/-- What holds after some turns. -/
structure Watched (turns : List IdleTurn) (w : IdleWatch) : Prop where
  ran : start.run? turns = some w
  counted : Counted turns w
  /-- A waiter that was not woken sleeps while a connection is open, or is about to be woken. -/
  alarm : w.wait = .asleep false → w.active = 0 → 0 < w.waking
  begun : w.wait.waiting = true → ∃ since, Since turns since
  found : w.wait = .idle → SeenEmpty turns

namespace Watched

theorem start : Watched [] .start where
  ran := rfl
  counted := ⟨rfl, rfl, .nil⟩
  alarm h := by cases h
  begun h := by cases h
  found h := by cases h

theorem begun_snoc (h : Watched turns w) (ht : t ≠ .beginWait)
    (hwait : w.wait.waiting = true) : ∃ since, Since (turns ++ [t]) since := by
  obtain ⟨since, hsince⟩ := h.begun hwait
  exact ⟨since ++ [t], hsince.snoc ht⟩

theorem found_snoc (h : Watched turns w) (ht : t ≠ .beginWait) (hwait : w.wait = .idle) :
    SeenEmpty (turns ++ [t]) :=
  (h.found hwait).snoc ht

/-- A waiter goes on in its wait: it falls asleep only while connections are open, and ends well
only when none is. -/
theorem goesOn (h : Watched turns w) {stage : WaitStage}
    (hran : IdleWatch.start.run? (turns ++ [t]) = some { w with wait := stage })
    (htrack : t ≠ .track) (hclose : ∀ id, t ≠ .close id) (hbegin : t ≠ .beginWait)
    (hwait : w.wait.waiting = true) (hasleep : stage = .asleep false → w.active ≠ 0)
    (hidle : stage = .idle → w.active = 0) : Watched (turns ++ [t]) { w with wait := stage } where
  ran := hran
  counted := h.counted.other htrack hclose _ _
  alarm hstage hactive := absurd hactive (hasleep hstage)
  begun _ := h.begun_snoc hbegin hwait
  found hstage := by
    obtain ⟨since, hsince⟩ := h.begun hwait
    exact (SeenEmpty.of_since hsince h.ran (hidle hstage)).snoc hbegin

/-- A turn keeps what holds. -/
theorem step (h : Watched turns w) (hstep : w.step? t = some w') :
    Watched (turns ++ [t]) w' := by
  have hran : IdleWatch.start.run? (turns ++ [t]) = some w' := by
    simp only [run?_append, h.ran, Option.bind_some, run?, hstep]
  cases turned_of_step? hstep with
  | track =>
      refine ⟨hran, h.counted.track, ?_, h.begun_snoc (by simp), h.found_snoc (by simp)⟩
      intro _ hactive
      exact absurd hactive (Nat.succ_ne_zero _)
  | close hopen =>
      refine ⟨hran, h.counted.close hopen _, ?_, h.begun_snoc (by simp), h.found_snoc (by simp)⟩
      intro _ hactive
      -- Whoever brings the count to zero is about to wake the waiter.
      have hone : w.active = 1 := by
        have hpos := List.length_pos_of_mem hopen
        have hzero : w.active - 1 = 0 := hactive
        rw [← h.counted.active] at hpos
        omega
      simp [hone]
  | wake _ =>
      refine ⟨hran, h.counted.other (by simp) (by simp) _ _, ?_, ?_, ?_⟩
      · intro hwait
        exact absurd hwait (WaitStage.roused_ne _)
      · intro hwait
        exact h.begun_snoc (by simp) (by rwa [← WaitStage.waiting_roused])
      · intro hwait
        exact h.found_snoc (by simp) (WaitStage.roused_eq_idle.1 hwait)
  | beginWait hwait =>
      refine ⟨hran, h.counted.other (by simp) (by simp) _ _, ?_, ?_, ?_⟩
      · intro hasleep
        cases hasleep
      · intro _
        exact ⟨[], turns, rfl, List.not_mem_nil⟩
      · intro hidle
        cases hidle
  | ask hwait =>
      exact h.goesOn hran (by simp) (by simp) (by simp) (by rw [hwait]; rfl) (by simp) (by simp)
  | lookEmpty hwait hactive =>
      exact h.goesOn hran (by simp) (by simp) (by simp) (by rw [hwait]; rfl) (by simp)
        fun _ => hactive
  | lookBusy hwait hactive =>
      exact h.goesOn hran (by simp) (by simp) (by simp) (by rw [hwait]; rfl) (fun _ => hactive)
        (by simp)
  | rouse hwait =>
      exact h.goesOn hran (by simp) (by simp) (by simp) (by rw [hwait]; rfl) (by simp) (by simp)
  | expire hwait => exact h.goesOn hran (by simp) (by simp) (by simp) hwait (by simp) (by simp)

end Watched

/-- Whatever turns are taken. -/
theorem watched_run (hrun : start.run? turns = some w) : Watched turns w := by
  induction turns using List.reverseRecOn generalizing w with
  | nil =>
      cases hrun
      exact .start
  | append_singleton turns t ih =>
      obtain ⟨u, hu, hstep⟩ := run?_snoc hrun
      exact (ih hu).step hstep

/-- Counters of 64 bits do for any run in which fewer than 2^64 connections are opened. -/
theorem counts_lt (hrun : start.run? turns = some w) (hfew : turns.count .track < Nat.pow 2 64) :
    w.active < Nat.pow 2 64 ∧ w.total < Nat.pow 2 64 := by
  have hcounted := (watched_run hrun).counted
  have hopened : w.opened.length ≤ turns.count .track := by
    have hlength := hcounted.guards.length_eq
    rw [List.length_append, IdleTurn.numbered, List.length_map, List.length_range] at hlength
    omega
  rw [hcounted.active, hcounted.total]
  exact ⟨Nat.lt_of_le_of_lt hopened hfew, hfew⟩

/-- A waiter that is let go on while no connection is open finds it so, without waiting for
anybody but those who are about to wake it. -/
theorem finds_idle (h : Watched turns w) (hwait : w.wait.waiting = true) (hactive : w.active = 0) :
    ∃ more, (∀ t ∈ more, t = .wake ∨ t = .rouse ∨ t = .ask ∨ t = .look) ∧
      ∃ w', w.run? more = some w' ∧ w'.wait = .idle := by
  cases hstage : w.wait with
  | asking =>
      refine ⟨[.ask, .look], by simp, ?_⟩
      simp [run?, step?, hstage, hactive]
  | looking woken =>
      refine ⟨[.look], by simp, ?_⟩
      simp [run?, step?, hstage, hactive]
  | asleep woken =>
      cases woken with
      | true =>
          refine ⟨[.rouse, .ask, .look], by simp, ?_⟩
          simp [run?, step?, hstage, hactive]
      | false =>
          have hwaking : w.waking ≠ 0 := Nat.ne_of_gt (h.alarm hstage hactive)
          refine ⟨[.wake, .rouse, .ask, .look], by simp, ?_⟩
          simp [run?, step?, hstage, hactive, hwaking, WaitStage.roused]
  | notBegun | idle | timedOut =>
      rw [hstage] at hwait
      cases hwait

/-- **The last close is never missed.** Whatever turns are taken: the count is that of the
connections that were opened and have not begun to close; they are numbered from 1 in the order in
which they were opened; a waiter that was not woken sleeps only while connections are open or
while one that closed is about to wake it; a wait that ends well has seen a moment, since it began,
at which no connection was open; and whenever none is, a wait can end well by the turns of the
waiter and of those who are about to wake it. -/
theorem last_close_heard (hrun : start.run? turns = some w) :
    (w.active = w.opened.length ∧
      (w.opened ++ IdleTurn.closed turns).Perm (IdleTurn.numbered turns)) ∧
    (∀ before after, turns = before ++ .track :: after →
      ∃ u u', start.run? before = some u ∧ u.step? .track = some u' ∧
        u'.opened = ⟨before.count .track + 1⟩ :: u.opened) ∧
    (w.wait = .asleep false → w.waking = 0 → w.active ≠ 0) ∧
    (w.wait = .idle → SeenEmpty turns) ∧
    (w.wait.waiting = true → w.active = 0 →
      ∃ more, (∀ t ∈ more, t = .wake ∨ t = .rouse ∨ t = .ask ∨ t = .look) ∧
        ∃ w', w.run? more = some w' ∧ w'.wait = .idle) := by
  have hw : Watched turns w := watched_run hrun
  refine ⟨⟨hw.counted.active, hw.counted.guards⟩, ?_, ?_, hw.found, finds_idle hw⟩
  · rintro before after rfl
    rw [run?_append] at hrun
    obtain ⟨u, hu, -⟩ := Option.bind_eq_some_iff.1 hrun
    refine ⟨u, _, hu, rfl, ?_⟩
    rw [(watched_run hu).counted.total]
  · intro hwait hwaking hactive
    have hpos := hw.alarm hwait hactive
    omega

/-- A connection closes after the waiter has looked, another opens before the waiter is woken, and
closes in turn. -/
def raced : List IdleTurn :=
  [.track, .beginWait, .ask, .look, .close ⟨1⟩, .track, .wake, .rouse, .ask, .look, .close ⟨2⟩]

theorem last_close_heard_raced :
    ∃ w, start.run? raced = some w ∧ w.wait = .asleep false ∧ w.active = 0 ∧
      ∃ more, (∀ t ∈ more, t = .wake ∨ t = .rouse ∨ t = .ask ∨ t = .look) ∧
        ∃ w', w.run? more = some w' ∧ w'.wait = .idle := by
  have hrun : start.run? raced = some ⟨0, 2, [], 1, .asleep false⟩ := by decide
  obtain ⟨-, -, -, -, hfinds⟩ := last_close_heard hrun
  exact ⟨_, hrun, rfl, rfl, hfinds rfl rfl⟩

/-! ### Closings that are given beforehand -/

/-- The connections of a host that is watched. -/
def connections (w : IdleWatch) : Connections := ⟨w.opened, w.total⟩

/-- A waiter that is about to ask, or sleeps while connections are open; nobody has yet to wake
it. -/
structure Patient (w : IdleWatch) : Prop where
  active : w.active = w.opened.length
  nodup : w.opened.Nodup
  waking : w.waking = 0
  wait : w.wait = .asking ∨ w.wait = .asleep false ∧ w.active ≠ 0

namespace Patient

theorem connections_close (h : Patient w) (id : ConnectionId) (n : Nat) (stage : WaitStage) :
    connections { w with active := n, opened := w.opened.erase id, wait := stage } =
      w.connections.close id := by
  have hfilter : w.opened.erase id = w.opened.filter (· ≠ id) := by
    rw [h.nodup.erase_eq_filter]
    refine List.filter_congr fun c _ => ?_
    rw [Bool.eq_iff_iff, bne_iff_ne, decide_eq_true_iff]
  rw [Connections.close, connections, connections, hfilter]

/-- A connection closes, and the waiter is woken if it was the last. -/
theorem close (h : Patient w) (id : ConnectionId) :
    ∃ more w', w.run? more = some w' ∧ Patient w' ∧ w'.connections = w.connections.close id := by
  by_cases hopen : id ∈ w.opened
  swap
  · refine ⟨[], w, rfl, h, ?_⟩
    rw [← h.connections_close id w.active w.wait, List.erase_of_not_mem hopen]
  have hlength : (w.opened.erase id).length = w.active - 1 := by
    rw [List.length_erase_of_mem hopen, h.active]
  have hnodup : (w.opened.erase id).Nodup := h.nodup.erase id
  by_cases hlast : w.active = 1
  · rw [hlast] at hlength
    obtain hwait | ⟨hwait, -⟩ := h.wait
    · refine ⟨[.close id, .wake], { w with active := 0, opened := w.opened.erase id }, ?_,
        ⟨hlength.symm, hnodup, h.waking, .inl hwait⟩, h.connections_close id 0 w.wait⟩
      simp [run?, step?, hopen, hlast, hwait, h.waking, WaitStage.roused]
    · refine ⟨[.close id, .wake, .rouse],
        { w with active := 0, opened := w.opened.erase id, wait := .asking }, ?_,
        ⟨hlength.symm, hnodup, h.waking, .inl rfl⟩, h.connections_close id 0 .asking⟩
      simp [run?, step?, hopen, hlast, hwait, h.waking, WaitStage.roused]
  · refine ⟨[.close id], { w with active := w.active - 1, opened := w.opened.erase id }, ?_,
      ⟨hlength.symm, hnodup, h.waking, ?_⟩, h.connections_close id (w.active - 1) w.wait⟩
    · simp [run?, step?, hopen, hlast]
    · obtain hwait | ⟨hwait, hbusy⟩ := h.wait
      · exact .inl hwait
      · have hmore : w.active - 1 ≠ 0 := by omega
        exact .inr ⟨hwait, hmore⟩

theorem closeAll (h : Patient w) (ids : List ConnectionId) :
    ∃ more w', w.run? more = some w' ∧ Patient w' ∧
      w'.connections = w.connections.closeAll ids := by
  induction ids generalizing w with
  | nil => exact ⟨[], w, rfl, h, rfl⟩
  | cons id ids ih =>
      obtain ⟨first, u, hu, hpatient, hclose⟩ := h.close id
      obtain ⟨more, w', hw', hpatient', hrest⟩ := ih hpatient
      refine ⟨first ++ more, w', ?_, hpatient', ?_⟩
      · rw [run?_append, hu]
        exact hw'
      · rw [hrest, hclose]
        rfl

/-- A patient waiter that finds no connection open has done so by asking and looking. -/
theorem looks (h : Patient w) (hactive : w.active = 0) :
    w.run? [.ask, .look] = some { w with wait := .idle } := by
  obtain hwait | ⟨-, hbusy⟩ := h.wait
  · simp [run?, step?, hwait, hactive]
  · exact absurd hactive hbusy

theorem expires (h : Patient w) : w.run? [.expire] = some { w with wait := .timedOut } := by
  obtain hwait | ⟨hwait, -⟩ := h.wait
  · simp [run?, step?, hwait]
  · simp [run?, step?, hwait]

theorem waits (h : Patient w) (now deadline : Nat) (ahead : List Connections.Closing) :
    ∃ more w', w.run? more = some w' ∧
      w'.connections = (w.connections.waitForIdle now deadline ahead).connections ∧
      w'.wait =
        if (w.connections.waitForIdle now deadline ahead).idle then .idle else .timedOut := by
  have hcount : w.connections.active = w.active := h.active.symm
  induction ahead generalizing w now with
  | nil =>
      rw [Connections.waitForIdle, hcount]
      by_cases hactive : w.active = 0
      · rw [if_pos hactive]
        exact ⟨_, _, h.looks hactive, rfl, rfl⟩
      · rw [if_neg hactive]
        exact ⟨_, _, h.expires, rfl, rfl⟩
  | cons k ahead ih =>
      rw [Connections.waitForIdle, hcount]
      by_cases hactive : w.active = 0
      · rw [if_pos hactive]
        exact ⟨_, _, h.looks hactive, rfl, rfl⟩
      rw [if_neg hactive]
      by_cases hmoment : k.moment < deadline
      · rw [if_pos hmoment]
        obtain ⟨first, u, hu, hpatient, hclose⟩ := h.closeAll k.ids
        rw [← hclose]
        obtain ⟨more, w', hw', hends⟩ :=
          ih hpatient (Nat.max now k.moment) hpatient.active.symm
        refine ⟨first ++ more, w', ?_, hends⟩
        rw [run?_append, hu]
        exact hw'
      · rw [if_neg hmoment]
        exact ⟨_, _, h.expires, rfl, rfl⟩

end Patient

/-- A wait among closings that are given beforehand is one of the runs: it leaves the same
connections open, and ends well in one if and only if in the other. -/
theorem waits_as_told (hrun : start.run? turns = some w) (hwaking : w.waking = 0)
    (hwait : w.wait.waiting = false) (now deadline : Nat) (ahead : List Connections.Closing) :
    ∃ more w', start.run? (turns ++ .beginWait :: more) = some w' ∧
      w'.connections = (w.connections.waitForIdle now deadline ahead).connections ∧
      w'.wait =
        if (w.connections.waitForIdle now deadline ahead).idle then .idle else .timedOut := by
  have hcounted := (watched_run hrun).counted
  have hbegin : w.step? .beginWait = some { w with wait := .asking } := by
    cases hstage : w.wait with
    | notBegun | idle | timedOut => simp [step?, hstage]
    | asking | looking | asleep =>
        rw [hstage] at hwait
        cases hwait
  have hpatient : Patient { w with wait := .asking } :=
    ⟨hcounted.active, hcounted.nodup_opened, hwaking, .inl rfl⟩
  obtain ⟨more, w', hmore, hends⟩ := hpatient.waits now deadline ahead
  refine ⟨more, w', ?_, hends⟩
  rw [run?_append, hrun, Option.bind_some, run?, hbegin]
  exact hmore

end IdleWatch

end Rendezvous
