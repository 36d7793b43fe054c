import Rendezvous.Lifecycle.Supervisor

/-!
# Rendezvous.Proofs.Lifecycle.Supervision

A supervisor keeps its tasks in order however they, the calls to shut down and its own turns
interleave. What happens to one task follows a course that its state tells, whatever happens to
the others; the supervisor for its part interrupts the tasks in their order, each of them once,
and counts every ending before it stops.

The gate of a task tells the supervisor only that the task has not begun *yet*. A task that has
passed it may be interrupted before it begins, and it begins all the same.

* `Course`: what happens to one task;
* `Supervisor.Moves`: what a turn can do;
* `Supervisor.Orderly`: what every turn preserves; `Supervisor.Orderly.step`,
  `Supervisor.Orderly.run`;
* `Supervisor.supervision_safe`.
-/

namespace Rendezvous

/-- The task to which something happens. -/
def Happening.task : Happening → Nat
  | .admitted i | .started i | .interrupted i | .ended i => i

namespace TaskState

/-- Whether the task has passed its gate. -/
def hasPassed : TaskState → Bool
  | .admitted | .running | .returned _ => true
  | .registered | .skipped => false

/-- Whether the task has begun. -/
def hasBegun : TaskState → Bool
  | .running | .returned _ => true
  | .registered | .admitted | .skipped => false

/-- Whether the task ran to an end. -/
def hasReturned : TaskState → Bool
  | .returned _ => true
  | .registered | .admitted | .running | .skipped => false

/-- Whether nothing more is to be expected of the task. -/
def isOver : TaskState → Bool
  | .returned _ | .skipped => true
  | .registered | .admitted | .running => false

theorem hasReturned_eq_hasBegun {st : TaskState} (h : st.isOver = true ∨ st = .registered) :
    st.hasReturned = st.hasBegun := by
  cases st with
  | admitted | running => simp [isOver] at h
  | registered | returned | skipped => rfl

end TaskState

/-! ### The course of a task -/

/-- What happens to a task, by how far it has come and whether it was interrupted. A task that
was interrupted does not pass its gate; one that has passed it begins, interrupted or not. -/
inductive Course (i : Nat) : TaskState → Bool → List Happening → Prop where
  | registered : Course i .registered false []
  | passed {h : List Happening} :
      Course i .registered false h → Course i .admitted false (h ++ [.admitted i])
  | began {b : Bool} {h : List Happening} :
      Course i .admitted b h → Course i .running b (h ++ [.started i])
  | ended {b : Bool} {h : List Happening} (e : Ending) :
      Course i .running b h → Course i (.returned e) b (h ++ [.ended i])
  | skipped {h : List Happening} : Course i .registered true h → Course i .skipped true h
  | interrupted {st : TaskState} {h : List Happening} :
      Course i st false h → Course i st true (h ++ [.interrupted i])

namespace Course

variable {i : Nat} {st : TaskState} {b : Bool} {h : List Happening}

theorem count_started (hc : Course i st b h) : h.count (.started i) = st.hasBegun.toNat := by
  induction hc with
  | registered => rfl
  | skipped _ ih => exact ih
  | passed _ ih => simp [ih, TaskState.hasBegun]
  | began _ ih => simp [ih, TaskState.hasBegun]
  | ended e _ ih => simp [ih, TaskState.hasBegun]
  | interrupted _ ih => simp [ih]

theorem count_ended (hc : Course i st b h) : h.count (.ended i) = st.hasReturned.toNat := by
  induction hc with
  | registered => rfl
  | skipped _ ih => exact ih
  | passed _ ih => simp [ih, TaskState.hasReturned]
  | began _ ih => simp [ih, TaskState.hasReturned]
  | ended e _ ih => simp [ih, TaskState.hasReturned]
  | interrupted _ ih => simp [ih]

theorem count_interrupted (hc : Course i st b h) : h.count (.interrupted i) = b.toNat := by
  induction hc with
  | registered => rfl
  | skipped _ ih => exact ih
  | passed _ ih | began _ ih | ended e _ ih | interrupted _ ih => simp [ih]

/-- To pass its gate is the first thing that happens to a task, if it ever does. -/
theorem first (hc : Course i st b h) :
    if st.hasPassed then ∃ rest, h = .admitted i :: rest ∧ .admitted i ∉ rest
    else .admitted i ∉ h := by
  induction hc with
  | registered => exact List.not_mem_nil
  | skipped _ ih => exact ih
  | @passed h hc ih =>
      have hnone : h = [] := by
        cases hc
        rfl
      exact ⟨[], by rw [hnone, List.nil_append], List.not_mem_nil⟩
  | began _ ih | ended e _ ih =>
      obtain ⟨rest, rfl, hrest⟩ := ih
      exact ⟨rest ++ [_], rfl, by simpa using hrest⟩
  | @interrupted st h _ ih =>
      cases hst : st.hasPassed with
      | false =>
          rw [hst] at ih
          exact fun hmem => ih (by simpa using hmem)
      | true =>
          rw [hst] at ih
          obtain ⟨rest, rfl, hrest⟩ := ih
          exact ⟨rest ++ [_], rfl, by simpa using hrest⟩

/-- No task passes its gate once it was interrupted. -/
theorem not_passed (hc : Course i st b h) : ¬ [.interrupted i, .admitted i].Sublist h := by
  intro hsub
  have hfirst := hc.first
  have hmem : .admitted i ∈ h := hsub.subset (by simp)
  split at hfirst
  · obtain ⟨rest, rfl, hrest⟩ := hfirst
    cases hsub with
    | cons _ hlater => exact hrest (hlater.subset (by simp))
  · exact hfirst hmem

/-- A task that begins once it was interrupted had passed its gate before. -/
theorem passed_of_late (hc : Course i st b h) (hsub : [.interrupted i, .started i].Sublist h) :
    [.admitted i, .interrupted i, .started i].Sublist h := by
  have hbegun : st.hasBegun = true := by
    have hpos : 0 < h.count (.started i) := List.count_pos_iff.2 (hsub.subset (by simp))
    rw [hc.count_started] at hpos
    cases hst : st.hasBegun <;> simp [hst] at hpos
    rfl
  have hfirst := hc.first
  rw [if_pos (by cases st <;> simp_all [TaskState.hasBegun, TaskState.hasPassed])] at hfirst
  obtain ⟨rest, rfl, -⟩ := hfirst
  cases hsub with
  | cons _ hlater => exact hlater.cons_cons _

end Course

namespace Supervisor

variable {s s' : Supervisor} {l : Label}

/-! ### Turns -/

/-- What a turn can do. -/
inductive Moves (s : Supervisor) : Label → Supervisor → Prop where
  | trigger : Moves s .trigger { s with triggered := true }
  /-- A task that was interrupted is turned away at its gate. -/
  | skip {i : Nat} {t : SupervisedTask} (hget : s.tasks[i]? = some t)
      (hlaunched : s.launched = true) (hstate : t.state = .registered)
      (hint : t.interrupted = true) :
      Moves s (.enter i)
        { s.setTask i { t with state := .skipped } with done := s.done ++ [(i, none)] }
  | pass {i : Nat} {t : SupervisedTask} (hget : s.tasks[i]? = some t)
      (hlaunched : s.launched = true) (hstate : t.state = .registered)
      (hint : t.interrupted = false) :
      Moves s (.enter i) ((s.setTask i { t with state := .admitted }).note (.admitted i))
  /-- Nothing is asked of a task that has passed its gate. -/
  | begin {i : Nat} {t : SupervisedTask} (hget : s.tasks[i]? = some t)
      (hstate : t.state = .admitted) :
      Moves s (.begin i) ((s.setTask i { t with state := .running }).note (.started i))
  | finish {i : Nat} {t : SupervisedTask} {e : Ending} (hget : s.tasks[i]? = some t)
      (hstate : t.state = .running) :
      Moves s (.finish i e)
        { (s.setTask i { t with state := .returned e }).note (.ended i) with
          done := s.done ++ [(i, some e)] }
  | join {i : Nat} {ending : Option Ending} {rest : List (Nat × Option Ending)}
      (hphase : s.phase = .watching) (hdone : s.done = (i, ending) :: rest) :
      Moves s .join
        (close { s with done := rest, joined := s.joined + 1 } (ending.map fun e => (i, e)))
  | observe (hphase : s.phase = .watching) (htriggered : s.triggered = true) :
      Moves s .observe (s.close none)
  | interrupt {i : Nat} {t : SupervisedTask} {panics : Bool} (hphase : s.phase = .interrupting i)
      (hget : s.tasks[i]? = some t) :
      Moves s (.interrupt panics)
        { (s.setTask i { t with interrupted := true }).note (.interrupted i) with
          phase := .interrupting (i + 1) }
  /-- All tasks are interrupted. -/
  | wait {i : Nat} {panics : Bool} (hphase : s.phase = .interrupting i)
      (hget : s.tasks[i]? = none) : Moves s (.interrupt panics) { s with phase := .draining }
  | drain {d : Nat × Option Ending} {rest : List (Nat × Option Ending)}
      (hphase : s.phase = .draining) (hdone : s.done = d :: rest) :
      Moves s .drain { s with done := rest, joined := s.joined + 1 }
  | stop (hphase : s.phase = .draining) (hjoined : s.joined = s.spawned) :
      Moves s .stop { s with phase := .stopped }

theorem moves_of_step? (h : s.step? l = some s') : Moves s l s' := by
  cases l with
  | trigger => cases h; exact .trigger
  | enter i =>
      cases hget : s.tasks[i]? with
      | none => simp [step?, hget] at h
      | some t =>
          simp only [step?, hget, Bool.or_eq_true, Bool.not_eq_true', decide_eq_true_eq] at h
          split at h
          · cases h
          rename_i hcan
          obtain ⟨hlaunched, hstate⟩ := not_or.1 hcan
          rw [Bool.not_eq_false] at hlaunched
          rw [ne_eq, Classical.not_not] at hstate
          split at h <;> cases h
          · exact .skip hget hlaunched hstate ‹_›
          · exact .pass hget hlaunched hstate (Bool.eq_false_iff.2 ‹_›)
  | begin i =>
      cases hget : s.tasks[i]? with
      | none => simp [step?, hget] at h
      | some t =>
          simp only [step?, hget] at h
          split at h <;> cases h
          exact .begin hget (Classical.not_not.1 ‹_›)
  | finish i e =>
      cases hget : s.tasks[i]? with
      | none => simp [step?, hget] at h
      | some t =>
          simp only [step?, hget] at h
          split at h <;> cases h
          exact .finish hget (Classical.not_not.1 ‹_›)
  | join =>
      simp only [step?] at h
      split at h <;> cases h
      exact .join ‹_› ‹_›
  | observe =>
      simp only [step?] at h
      split at h
      · split at h <;> cases h
        exact .observe ‹_› ‹_›
      · cases h
  | interrupt panics =>
      simp only [step?] at h
      split at h
      · split at h <;> cases h
        · exact .interrupt ‹_› ‹_›
        · exact .wait ‹_› ‹_›
      · cases h
  | drain =>
      simp only [step?] at h
      split at h <;> cases h
      exact .drain ‹_› ‹_›
  | stop =>
      simp only [step?] at h
      split at h
      · split at h <;> cases h
        exact .stop ‹_› ‹_›
      · cases h

/-- The tasks stay in their places, and whether they were let go at all stays as it was. -/
theorem Moves.fixed (hm : Moves s l s') :
    s'.tasks.length = s.tasks.length ∧ s'.launched = s.launched := by
  cases hm <;> simp [setTask, note, close]

/-! ### Changes of one task -/

/-- What has happened to one task. -/
def about (s : Supervisor) (i : Nat) : List Happening := s.history.filter (·.task = i)

/-- How many tasks the supervisor has interrupted. -/
def reached (s : Supervisor) : Nat :=
  match s.phase with
  | .watching => 0
  | .interrupting i => i
  | .draining | .stopped => s.tasks.length

theorem about_note (s : Supervisor) (h : Happening) (j : Nat) :
    (s.note h).about j = s.about j ++ if h.task = j then [h] else [] := by
  simp only [about, note, List.filter_append, List.filter_cons, List.filter_nil,
    decide_eq_true_eq]

section SetTask

variable {i : Nat} {t : SupervisedTask}

theorem getElem?_setTask (hget : s.tasks[i]? = some t) (t' : SupervisedTask) (j : Nat) :
    (s.setTask i t').tasks[j]? = if i = j then some t' else s.tasks[j]? := by
  obtain ⟨hi, -⟩ := List.getElem?_eq_some_iff.1 hget
  rw [setTask, List.getElem?_set, if_pos hi]

/-- The task that was changed is as it was changed, and every other as it was. -/
theorem task_setTask {motive : Nat → SupervisedTask → Prop} (hget : s.tasks[i]? = some t)
    {t' : SupervisedTask} (hself : motive i t')
    (hother : ∀ j u, i ≠ j → s.tasks[j]? = some u → motive j u) :
    ∀ j u, (s.setTask i t').tasks[j]? = some u → motive j u := by
  intro j u hu
  rw [getElem?_setTask hget] at hu
  by_cases hj : i = j
  · subst hj
    rw [if_pos rfl] at hu
    cases hu
    exact hself
  · rw [if_neg hj] at hu
    exact hother j u hj hu

theorem countP_setTask (hget : s.tasks[i]? = some t) (p : SupervisedTask → Bool)
    (t' : SupervisedTask) :
    (s.setTask i t').tasks.countP p + (p t).toNat = s.tasks.countP p + (p t').toNat := by
  obtain ⟨hi, rfl⟩ := List.getElem?_eq_some_iff.1 hget
  have hpos : p s.tasks[i] = true → 0 < s.tasks.countP p := fun h =>
    List.countP_pos_iff.2 ⟨_, List.getElem_mem hi, h⟩
  rw [setTask, List.countP_set hi]
  cases ht : p s.tasks[i] <;> cases p t' <;> simp
  · exact Nat.sub_add_cancel (hpos ht)
  · have := hpos ht
    omega

end SetTask

/-- A task that was interrupted stays so. -/
theorem Moves.interrupted_mono (hm : Moves s l s') {j : Nat} {u : SupervisedTask}
    (hu : s.tasks[j]? = some u) (hint : u.interrupted = true) :
    ∃ u', s'.tasks[j]? = some u' ∧ u'.interrupted = true := by
  have hset {i : Nat} {t : SupervisedTask} (hget : s.tasks[i]? = some t) (t' : SupervisedTask)
      (hkeep : t.interrupted = true → t'.interrupted = true) :
      ∃ u', (s.setTask i t').tasks[j]? = some u' ∧ u'.interrupted = true := by
    rw [getElem?_setTask hget]
    by_cases hij : i = j
    · subst hij
      cases hget.symm.trans hu
      exact ⟨t', if_pos rfl, hkeep hint⟩
    · exact ⟨u, by rw [if_neg hij, hu], hint⟩
  cases hm with
  | trigger | join | observe | wait | drain | stop => exact ⟨u, hu, hint⟩
  | @skip i t hget => exact hset hget { t with state := .skipped } fun h => h
  | @pass i t hget => exact hset hget { t with state := .admitted } fun h => h
  | @begin i t hget => exact hset hget { t with state := .running } fun h => h
  | @finish i t e hget => exact hset hget { t with state := .returned e } fun h => h
  | @interrupt i t _ _ hget => exact hset hget { t with interrupted := true } fun _ => rfl

/-! ### What every turn preserves -/

/-- What is true of a supervisor at any time. -/
structure Orderly (s : Supervisor) : Prop where
  course : ∀ (i : Nat) (t : SupervisedTask), s.tasks[i]? = some t →
    Course i t.state t.interrupted (s.about i)
  known : ∀ h ∈ s.history, h.task < s.tasks.length
  reached : ∀ (i : Nat) (t : SupervisedTask), s.tasks[i]? = some t →
    (t.interrupted = true ↔ i < s.reached)
  /-- A task that never began was interrupted. -/
  skipped : ∀ i, (i, none) ∈ s.done → ∃ t, s.tasks[i]? = some t ∧ t.interrupted = true
  /-- Every task that is over was looked at or will be. -/
  settled : s.tasks.countP (·.state.isOver) = s.joined + s.done.length
  held : s.launched = false → ∀ (i : Nat) (t : SupervisedTask), s.tasks[i]? = some t →
    t.state = .registered
  stopped : s.phase = .stopped → s.joined = s.spawned

namespace Orderly

theorem start (names : List String) (triggered : Bool) :
    Orderly (Supervisor.start names triggered) := by
  have hfresh : ∀ (i : Nat) (t : SupervisedTask),
      (Supervisor.start names triggered).tasks[i]? = some t →
        t.state = .registered ∧ t.interrupted = false := by
    intro i t hget
    obtain ⟨name, -, rfl⟩ := List.mem_map.1 (List.mem_of_getElem? hget)
    exact ⟨rfl, rfl⟩
  refine ⟨?_, by simp [Supervisor.start], ?_, by simp [Supervisor.start], ?_,
    fun _ i t hget => (hfresh i t hget).1, ?_⟩
  · intro i t hget
    rw [(hfresh i t hget).1, (hfresh i t hget).2]
    exact .registered
  · intro i t hget
    have hi := (List.getElem?_eq_some_iff.1 hget).1
    rw [(hfresh i t hget).2]
    cases names with
    | nil => simp [Supervisor.start] at hi
    | cons name rest => cases triggered <;> simp [Supervisor.start, Supervisor.reached]
  · refine (List.countP_eq_zero.2 fun t ht => ?_).trans (by simp [Supervisor.start])
    obtain ⟨i, hget⟩ := List.getElem?_of_mem ht
    rw [(hfresh i t hget).1]
    simp [TaskState.isOver]
  · intro hphase
    cases names with
    | nil => cases triggered <;> rfl
    | cons name rest => cases triggered <;> simp [Supervisor.start] at hphase

/-- The next task that the supervisor interrupts was not interrupted before. -/
theorem not_interrupted (ho : Orderly s) {i : Nat} {t : SupervisedTask}
    (hphase : s.phase = .interrupting i) (hget : s.tasks[i]? = some t) : t.interrupted = false := by
  have hiff := ho.reached i t hget
  rw [Supervisor.reached, hphase] at hiff
  exact Bool.eq_false_iff.2 fun h => Nat.lt_irrefl i (hiff.1 h)

/-- While the supervisor watches, no task is interrupted. -/
theorem ending_of_watching (ho : Orderly s) (hphase : s.phase = .watching) {i : Nat}
    {ending : Option Ending} (hdone : (i, ending) ∈ s.done) : ending.isSome = true := by
  cases ending with
  | some e => rfl
  | none =>
      obtain ⟨t, hget, hint⟩ := ho.skipped i hdone
      have hlt := (ho.reached i t hget).1 hint
      rw [Supervisor.reached, hphase] at hlt
      exact absurd hlt (Nat.not_lt_zero i)

/-- A change of one task, along its course, with what is noted of it. -/
theorem course_setTask (ho : Orderly s) {i : Nat} {t t' : SupervisedTask}
    (hget : s.tasks[i]? = some t) {h : Happening} (htask : h.task = i)
    (hc : Course i t'.state t'.interrupted (s.about i ++ [h])) :
    ∀ j u, ((s.setTask i t').note h).tasks[j]? = some u →
      Course j u.state u.interrupted (((s.setTask i t').note h).about j) := by
  refine task_setTask hget ?_ fun j u hj hu => ?_
  · rw [about_note, if_pos htask]
    exact hc
  · rw [about_note, if_neg (htask ▸ hj), List.append_nil]
    exact ho.course j u hu

theorem step_course (ho : Orderly s) (hm : Moves s l s') :
    ∀ i t, s'.tasks[i]? = some t → Course i t.state t.interrupted (s'.about i) := by
  cases hm with
  | trigger | join | observe | wait | drain | stop => exact ho.course
  | skip hget hlaunched hstate hint =>
      refine task_setTask hget ?_ fun j u _ hu => ho.course j u hu
      have hc := ho.course _ _ hget
      rw [hstate, hint] at hc
      exact hint ▸ hc.skipped
  | pass hget hlaunched hstate hint =>
      have hc := ho.course _ _ hget
      rw [hstate, hint] at hc
      exact ho.course_setTask hget rfl (hint ▸ hc.passed)
  | begin hget hstate =>
      have hc := ho.course _ _ hget
      rw [hstate] at hc
      exact ho.course_setTask hget rfl hc.began
  | finish hget hstate =>
      have hc := ho.course _ _ hget
      rw [hstate] at hc
      exact ho.course_setTask hget rfl (hc.ended _)
  | interrupt hphase hget =>
      have hc := ho.course _ _ hget
      rw [ho.not_interrupted hphase hget] at hc
      exact ho.course_setTask hget rfl hc.interrupted

theorem step_known (ho : Orderly s) (hm : Moves s l s') :
    ∀ h ∈ s'.history, h.task < s'.tasks.length := by
  intro h hh
  rw [hm.fixed.1]
  have hin {i : Nat} {t : SupervisedTask} (hget : s.tasks[i]? = some t) : i < s.tasks.length :=
    (List.getElem?_eq_some_iff.1 hget).1
  have hnew {i : Nat} {t : SupervisedTask} (hget : s.tasks[i]? = some t) {x : Happening}
      (hx : x.task = i) (hmem : h ∈ s.history ++ [x]) : h.task < s.tasks.length := by
    rcases List.mem_append.1 hmem with hold | hlast
    · exact ho.known h hold
    · rw [List.mem_singleton.1 hlast, hx]
      exact hin hget
  cases hm with
  | trigger | join | observe | wait | drain | stop | skip => exact ho.known h hh
  | pass hget | begin hget | finish hget | interrupt _ hget => exact hnew hget rfl hh

theorem step_reached (ho : Orderly s) (hm : Moves s l s') :
    ∀ (i : Nat) (t : SupervisedTask), s'.tasks[i]? = some t →
      (t.interrupted = true ↔ i < s'.reached) := by
  have hold : ∀ (n : Nat), s.reached = n → ∀ (i : Nat) (t : SupervisedTask),
      s.tasks[i]? = some t → (t.interrupted = true ↔ i < n) :=
    fun n hn => hn ▸ ho.reached
  -- A turn of a task changes neither the phase nor whether the task was interrupted.
  have hsame {i : Nat} {t : SupervisedTask} (hget : s.tasks[i]? = some t) (st : TaskState) :
      ∀ (j : Nat) (u : SupervisedTask), (s.setTask i { t with state := st }).tasks[j]? = some u →
        (u.interrupted = true ↔ j < (s.setTask i { t with state := st }).reached) := by
    have hr : (s.setTask i { t with state := st }).reached = s.reached := by
      simp [Supervisor.reached, setTask]
    rw [hr]
    exact task_setTask hget (ho.reached i t hget) fun j u _ hu => ho.reached j u hu
  cases hm with
  | trigger | drain => exact ho.reached
  | skip hget | pass hget | begin hget | finish hget => exact hsame hget _
  | join hphase | observe hphase => exact hold 0 (by rw [Supervisor.reached, hphase])
  | stop hphase => exact hold s.tasks.length (by rw [Supervisor.reached, hphase])
  | @interrupt i t _ hphase hget =>
      -- The boundary moves by one, past the task that is interrupted now.
      have hbefore := hold i (by rw [Supervisor.reached, hphase])
      refine task_setTask hget (by simp [Supervisor.reached]) fun j u hj hu => ?_
      rw [hbefore j u hu]
      exact ⟨Nat.lt_succ_of_lt, fun hlt => Nat.lt_of_le_of_ne (Nat.le_of_lt_succ hlt) (Ne.symm hj)⟩
  | @wait i _ hphase hget =>
      -- There is no next task: the supervisor has got past the last.
      intro j u hu
      have hj := (List.getElem?_eq_some_iff.1 hu).1
      have hlen := List.getElem?_eq_none_iff.1 hget
      rw [hold i (by rw [Supervisor.reached, hphase]) j u hu]
      exact ⟨fun _ => hj, fun _ => Nat.lt_of_lt_of_le hj hlen⟩

theorem step_skipped (ho : Orderly s) (hm : Moves s l s') :
    ∀ i, (i, none) ∈ s'.done → ∃ t, s'.tasks[i]? = some t ∧ t.interrupted = true := by
  intro j hj
  -- Only a task that was interrupted is turned away, and it stays interrupted.
  have hbefore : ∃ t, s.tasks[j]? = some t ∧ t.interrupted = true := by
    cases hm with
    | trigger | observe | wait | stop | pass | begin | interrupt => exact ho.skipped j hj
    | join _ hdone | drain _ hdone => exact ho.skipped j (hdone ▸ List.mem_cons_of_mem _ hj)
    | skip hget _ _ hint =>
        rcases List.mem_append.1 hj with hold | hlast
        · exact ho.skipped j hold
        · cases List.mem_singleton.1 hlast
          exact ⟨_, hget, hint⟩
    | finish =>
        rcases List.mem_append.1 hj with hold | hlast
        · exact ho.skipped j hold
        · cases List.mem_singleton.1 hlast
  obtain ⟨t, hget, hint⟩ := hbefore
  exact hm.interrupted_mono hget hint

theorem step_settled (ho : Orderly s) (hm : Moves s l s') :
    s'.tasks.countP (·.state.isOver) = s'.joined + s'.done.length := by
  have hset := ho.settled
  cases hm with
  | trigger | observe | wait | stop => exact hset
  | join _ hdone | drain _ hdone =>
      rw [hdone, List.length_cons] at hset
      exact hset.trans (by simp only [close]; omega)
  | @pass i t hget _ hstate =>
      have h := countP_setTask hget (·.state.isOver) { t with state := .admitted }
      rw [hstate] at h
      exact (Nat.add_right_cancel h).trans hset
  | @begin i t hget hstate =>
      have h := countP_setTask hget (·.state.isOver) { t with state := .running }
      rw [hstate] at h
      exact (Nat.add_right_cancel h).trans hset
  | @interrupt i t _ _ hget =>
      have h := countP_setTask hget (·.state.isOver) { t with interrupted := true }
      exact (Nat.add_right_cancel h).trans hset
  | @skip i t hget _ hstate =>
      have h := countP_setTask hget (·.state.isOver) { t with state := .skipped }
      rw [hstate] at h
      refine h.trans ?_
      rw [hset, List.length_append]
      rfl
  | @finish i t e hget hstate =>
      have h := countP_setTask hget (·.state.isOver) { t with state := .returned e }
      rw [hstate] at h
      refine h.trans ?_
      rw [hset, List.length_append]
      rfl

theorem step_held (ho : Orderly s) (hm : Moves s l s') :
    s'.launched = false → ∀ (i : Nat) (t : SupervisedTask), s'.tasks[i]? = some t →
      t.state = .registered := by
  intro hlaunch
  have hheld := ho.held (hm.fixed.2 ▸ hlaunch)
  cases hm with
  | trigger | join | observe | wait | drain | stop => exact hheld
  | skip _ hlaunched | pass _ hlaunched => exact absurd (hlaunched.symm.trans hlaunch) (by simp)
  | begin hget hstate | finish hget hstate =>
      exact absurd (hstate.symm.trans (hheld _ _ hget)) (by simp)
  | @interrupt i t _ _ hget =>
      exact task_setTask hget (hheld i t hget) fun j u _ hu => hheld j u hu

theorem step_stopped (ho : Orderly s) (hm : Moves s l s') :
    s'.phase = .stopped → s'.joined = s'.spawned := by
  intro hphase
  have hspawned : s'.spawned = s.spawned := by
    rw [spawned, spawned, hm.fixed.1, hm.fixed.2]
  rw [hspawned]
  cases hm with
  | trigger | skip | pass | begin | finish => exact ho.stopped hphase
  | stop _ hjoined => exact hjoined
  | drain hdraining => exact absurd (hdraining.symm.trans hphase) (by simp)
  | join | observe | interrupt | wait => simp [close] at hphase

/-- Every turn preserves what is true of a supervisor at any time. -/
theorem step (ho : Orderly s) (h : s.step? l = some s') : Orderly s' :=
  have hm := moves_of_step? h
  ⟨ho.step_course hm, ho.step_known hm, ho.step_reached hm, ho.step_skipped hm, ho.step_settled hm,
    ho.step_held hm, ho.step_stopped hm⟩

end Orderly

/-! ### Runs -/

theorem run?_induction {motive : Supervisor → Prop}
    (hstep : ∀ {s s' : Supervisor} {l : Label}, motive s → s.step? l = some s' → motive s')
    {labels : List Label} (hrun : s.run? labels = some s') (hs : motive s) : motive s' := by
  induction labels generalizing s with
  | nil =>
      cases hrun
      exact hs
  | cons l rest ih =>
      rw [run?] at hrun
      split at hrun
      · exact ih hrun (hstep hs ‹_›)
      · cases hrun

theorem Orderly.run (ho : Orderly s) {labels : List Label} (hrun : s.run? labels = some s') :
    Orderly s' :=
  run?_induction Orderly.step hrun ho

theorem fixed_run {labels : List Label} (hrun : s.run? labels = some s') :
    s'.tasks.length = s.tasks.length ∧ s'.launched = s.launched :=
  run?_induction (motive := fun u => u.tasks.length = s.tasks.length ∧ u.launched = s.launched)
    (fun hu hstep =>
      have hfixed := (moves_of_step? hstep).fixed
      ⟨hfixed.1.trans hu.1, hfixed.2.trans hu.2⟩)
    hrun ⟨rfl, rfl⟩

namespace Orderly

variable {i : Nat} {t : SupervisedTask}

theorem count_about (s : Supervisor) {h : Happening} (htask : h.task = i) :
    (s.about i).count h = s.history.count h :=
  List.count_filter (by simp [htask])

theorem count_interrupted (ho : Orderly s) (hget : s.tasks[i]? = some t) :
    s.history.count (.interrupted i) = t.interrupted.toNat :=
  (count_about s rfl).symm.trans (ho.course i t hget).count_interrupted

theorem count_started (ho : Orderly s) (hget : s.tasks[i]? = some t) :
    s.history.count (.started i) = t.state.hasBegun.toNat :=
  (count_about s rfl).symm.trans (ho.course i t hget).count_started

theorem count_ended (ho : Orderly s) (hget : s.tasks[i]? = some t) :
    s.history.count (.ended i) = t.state.hasReturned.toNat :=
  (count_about s rfl).symm.trans (ho.course i t hget).count_ended

/-- Nothing happens to a task that is not there. -/
theorem not_mem_of_none (ho : Orderly s) (hnone : s.tasks[i]? = none) {h : Happening}
    (htask : h.task = i) : h ∉ s.history := fun hmem =>
  absurd (htask ▸ ho.known h hmem) (Nat.not_lt.2 (List.getElem?_eq_none_iff.1 hnone))

theorem count_le_one (ho : Orderly s) (i : Nat) :
    s.history.count (.interrupted i) ≤ 1 ∧ s.history.count (.started i) ≤ 1 := by
  cases hget : s.tasks[i]? with
  | some t =>
      rw [ho.count_interrupted hget, ho.count_started hget]
      exact ⟨Bool.toNat_le _, Bool.toNat_le _⟩
  | none =>
      have hint : Happening.interrupted i ∉ s.history := ho.not_mem_of_none hget rfl
      have hstart : Happening.started i ∉ s.history := ho.not_mem_of_none hget rfl
      rw [List.count_eq_zero.2 hint, List.count_eq_zero.2 hstart]
      exact ⟨Nat.zero_le 1, Nat.zero_le 1⟩

/-- What happens to one task in some order happens in that order as far as that task goes. -/
theorem sublist_about (s : Supervisor) {l : List Happening} (hl : ∀ h ∈ l, h.task = i)
    (hsub : l.Sublist s.history) : l.Sublist (s.about i) := by
  have hfilter := hsub.filter (·.task = i)
  rwa [List.filter_eq_self.2 (fun h hh => decide_eq_true (hl h hh))] at hfilter

theorem not_passed (ho : Orderly s) (i : Nat) :
    ¬ [Happening.interrupted i, .admitted i].Sublist s.history := by
  intro hsub
  cases hget : s.tasks[i]? with
  | some t =>
      exact (ho.course i t hget).not_passed (sublist_about s (by simp [Happening.task]) hsub)
  | none =>
      have hnot : Happening.interrupted i ∉ s.history := ho.not_mem_of_none hget rfl
      exact hnot (hsub.subset List.mem_cons_self)

/-- A task begins late just if the supervisor interrupts it between its gate and its beginning. -/
theorem late_iff (ho : Orderly s) (i : Nat) :
    [Happening.interrupted i, .started i].Sublist s.history ↔
      [Happening.admitted i, .interrupted i, .started i].Sublist s.history := by
  refine ⟨fun hsub => ?_, (List.sublist_cons_self _ _).trans⟩
  cases hget : s.tasks[i]? with
  | some t =>
      refine List.Sublist.trans ?_ (List.filter_sublist (p := fun h => h.task = i))
      exact (ho.course i t hget).passed_of_late (sublist_about s (by simp [Happening.task]) hsub)
  | none =>
      have hnot : Happening.interrupted i ∉ s.history := ho.not_mem_of_none hget rfl
      exact (hnot (hsub.subset List.mem_cons_self)).elim

/-- Tasks that are not let go do not begin. -/
theorem not_started (ho : Orderly s) (hlaunched : s.launched = false) (i : Nat) :
    .started i ∉ s.history := by
  cases hget : s.tasks[i]? with
  | some t =>
      refine List.count_eq_zero.1 ((ho.count_started hget).trans ?_)
      rw [ho.held hlaunched i t hget]
      rfl
  | none => exact ho.not_mem_of_none hget rfl

/-- Once the supervisor has stopped, no task runs: it counted as many endings as there are
tasks, and every ending is that of a task which is over. -/
theorem hasReturned_of_stopped (ho : Orderly s) (hphase : s.phase = .stopped)
    (hget : s.tasks[i]? = some t) : t.state.hasReturned = t.state.hasBegun := by
  refine TaskState.hasReturned_eq_hasBegun ?_
  cases hlaunched : s.launched with
  | false => exact Or.inr (ho.held hlaunched i t hget)
  | true =>
      have hjoined : s.joined = s.tasks.length := by
        rw [ho.stopped hphase, spawned, if_pos hlaunched]
      have hle : s.tasks.countP (·.state.isOver) ≤ s.tasks.length := List.countP_le_length
      have hall : s.tasks.countP (·.state.isOver) = s.tasks.length := by
        have hset := ho.settled
        omega
      exact Or.inl (List.countP_eq_length.1 hall t (List.mem_of_getElem? hget))

end Orderly

/-- Whenever there is a task that is let go, it can begin late: it passes its gate, there is a call
to shut down, and the supervisor interrupts it before it begins. -/
theorem begins_late {names : List String} (hnames : names ≠ []) :
    ∃ s, (start names false).run? [.enter 0, .trigger, .observe, .interrupt false, .begin 0]
        = some s ∧ [Happening.interrupted 0, .started 0].Sublist s.history := by
  cases names with
  | nil => exact (hnames rfl).elim
  | cons name rest => exact ⟨_, rfl, List.sublist_cons_self (Happening.admitted 0) _⟩

/-- **A supervisor is safe, but for tasks between their gates and their beginnings.** Take any
turns of the tasks, of the supervisor and of whoever calls to shut down, before the start or at
any later time.

* No task is interrupted twice or begins twice, and none passes its gate once it was interrupted. A
  task begins after its interruption just if that fell between its gate and its beginning.
* None begins at all if there was a call to shut down before the start.
* The supervisor does not take a task that never began for the first to end.
* Once it has stopped, it has interrupted every task, and every task that began has ended.

That a task begins late can happen whatever the tasks are, unless there is none or there was a call
to shut down before the start. -/
theorem supervision_safe (names : List String) (triggered : Bool) :
    (∀ labels s, (start names triggered).run? labels = some s →
      (∀ i, s.history.count (.interrupted i) ≤ 1 ∧ s.history.count (.started i) ≤ 1 ∧
        ¬ [Happening.interrupted i, .admitted i].Sublist s.history ∧
        ([Happening.interrupted i, .started i].Sublist s.history ↔
          [Happening.admitted i, .interrupted i, .started i].Sublist s.history)) ∧
      (triggered = true → ∀ i, .started i ∉ s.history) ∧
      (∀ s', s.step? .join = some s' → s'.first.isSome = true) ∧
      (s.phase = .stopped → ∀ i < names.length,
        s.history.count (.interrupted i) = 1 ∧
        s.history.count (.ended i) = s.history.count (.started i))) ∧
    ((∃ labels s i, (start names triggered).run? labels = some s ∧
        [Happening.interrupted i, .started i].Sublist s.history) ↔
      triggered = false ∧ names ≠ []) := by
  refine ⟨fun labels s hrun => ?_, fun ⟨labels, s, i, hrun, hlate⟩ => ?_, ?_⟩
  · have ho : Orderly s := (Orderly.start names triggered).run hrun
    obtain ⟨hlength, hlaunched⟩ := fixed_run hrun
    refine ⟨fun i => ⟨(ho.count_le_one i).1, (ho.count_le_one i).2, ho.not_passed i,
      ho.late_iff i⟩, ?_, ?_, ?_⟩
    · rintro rfl
      exact ho.not_started hlaunched
    · intro s' hstep
      cases moves_of_step? hstep with
      | join hphase hdone =>
          have hsome := ho.ending_of_watching hphase (hdone ▸ List.mem_cons_self)
          rw [close, Option.isSome_map, hsome]
    · intro hphase i hi
      have hin : i < s.tasks.length := by
        rw [hlength]
        simpa [start] using hi
      have hget : s.tasks[i]? = some s.tasks[i] := List.getElem?_eq_getElem hin
      have hint : s.tasks[i].interrupted = true :=
        (ho.reached i _ hget).2 (by rw [reached, hphase]; exact hin)
      rw [ho.count_interrupted hget, ho.count_ended hget, ho.count_started hget, hint,
        ho.hasReturned_of_stopped hphase hget]
      exact ⟨rfl, rfl⟩
  · have ho : Orderly s := (Orderly.start names triggered).run hrun
    obtain ⟨hlength, hlaunched⟩ := fixed_run hrun
    have hstarted : Happening.started i ∈ s.history := hlate.subset (by simp)
    refine ⟨Bool.eq_false_iff.2 fun htriggered => ?_, fun hnames => ?_⟩
    · subst htriggered
      exact ho.not_started hlaunched i hstarted
    · have hin : i < s.tasks.length := ho.known _ hstarted
      rw [hlength, hnames] at hin
      exact Nat.not_lt_zero i hin
  · rintro ⟨rfl, hnames⟩
    obtain ⟨s, hrun, hlate⟩ := begins_late hnames
    exact ⟨_, s, 0, hrun, hlate⟩

/-- One of three tasks panics and what interrupts the first panics too; the last comes to its gate
only when it is interrupted already. -/
def panickingTurns : List Label :=
  [.enter 0, .begin 0, .enter 1, .begin 1, .finish 1 (.panicked none), .join, .interrupt true,
    .trigger, .interrupt false, .interrupt false, .enter 2, .interrupt false, .drain,
    .finish 0 (.error "late"), .drain, .stop]

theorem supervision_safe_panicking :
    ∃ s, (start ["server", "sweeper", "metrics"] false).run? panickingTurns = some s ∧
      s.phase = .stopped ∧
      s.history = [.admitted 0, .started 0, .admitted 1, .started 1, .ended 1, .interrupted 0,
        .interrupted 1, .interrupted 2, .ended 0] ∧
      ∀ i < 3, s.history.count (.interrupted i) = 1 ∧
        s.history.count (.ended i) = s.history.count (.started i) := by
  have hrun : (start ["server", "sweeper", "metrics"] false).run? panickingTurns = some _ := rfl
  obtain ⟨-, -, -, hstopped⟩ :=
    (supervision_safe ["server", "sweeper", "metrics"] false).1 panickingTurns _ hrun
  exact ⟨_, hrun, rfl, rfl, hstopped rfl⟩

/-- Of two tasks the first has begun and the second has passed its gate. The first returns, the
supervisor looks at that and interrupts both, and then the second begins. -/
def lateTurns : List Label :=
  [.enter 0, .begin 0, .enter 1, .finish 0 .ok, .join, .interrupt false, .interrupt false,
    .interrupt false, .begin 1, .finish 1 .ok, .drain, .stop]

/-- A task can begin after it was interrupted, and the supervisor stops as if nothing had been
amiss. -/
theorem supervision_late :
    ∃ s, (start ["server", "sweeper"] false).run? lateTurns = some s ∧ s.phase = .stopped ∧
      s.outcome = .ok () ∧
      s.history = [.admitted 0, .started 0, .admitted 1, .ended 0, .interrupted 0, .interrupted 1,
        .started 1, .ended 1] ∧
      [Happening.interrupted 1, .started 1].Sublist s.history :=
  ⟨_, rfl, rfl, rfl, rfl, by decide⟩

end Supervisor

end Rendezvous
