import Rendezvous.Proofs.Lifecycle.Supervision
import Rendezvous.Lifecycle.Timeline

/-!
# Rendezvous.Proofs.Lifecycle.FirstEnding

What a supervisor reports is decided by one turn. While it watches, nothing that ends is lost on
it; then it looks at the ending in front or hears the call to shut down, and what the tasks come
to after that, interrupted and waited for, changes nothing any more.

The turn that looks and the turn that hears may both be open, and either can be taken. A call to
shut down tells some tasks to stop before the supervisor has heard of it, so the ending in front
can be one that the call itself brought about.

* `Supervisor.endings`: how the tasks end in some turns;
* `Supervisor.Resolved`: what a supervisor has made of the turns so far; `Resolved.step`,
  `Resolved.run`;
* `Supervisor.outcome_of_first_ending`, `Supervisor.stopped_of_still`;
* `Supervisor.shutdown_clean_iff`.
-/

namespace Rendezvous

/-- The ending that a turn brings, with the task that comes to it. -/
def Label.ending? : Label → Option (Nat × Ending)
  | .finish i e => some (i, e)
  | .trigger | .enter _ | .begin _ | .join | .observe | .interrupt _ | .drain | .stop => none

namespace Supervisor

variable {s s' : Supervisor} {l : Label} {labels past : List Label} {names : List String}
  {triggered : Bool}

/-- How the tasks end in some turns, the first to end in front. -/
def endings (labels : List Label) : List (Nat × Ending) := labels.filterMap Label.ending?

theorem endings_append (labels labels' : List Label) :
    endings (labels ++ labels') = endings labels ++ endings labels' :=
  List.filterMap_append

theorem endings_snoc (past : List Label) (l : Label) :
    endings (past ++ [l]) = endings past ++ l.ending?.toList := by
  rw [endings_append]
  cases l <;> rfl

/-- Induction over a run that keeps the turns taken so far. -/
theorem run?_past {motive : List Label → Supervisor → Prop}
    (hstep : ∀ {past : List Label} {s s' : Supervisor} {l : Label},
      motive past s → s.step? l = some s' → motive (past ++ [l]) s')
    (past : List Label) (hrun : s.run? labels = some s') (hs : motive past s) :
    motive (past ++ labels) s' := by
  induction labels generalizing s past with
  | nil =>
      cases hrun
      rwa [List.append_nil]
  | cons l rest ih =>
      rw [run?] at hrun
      split at hrun
      · rw [List.append_cons]
        exact ih _ hrun (hstep hs ‹_›)
      · cases hrun

/-! ### The names of the tasks -/

theorem names_setTask {i : Nat} {t t' : SupervisedTask} (hget : s.tasks[i]? = some t)
    (hname : t'.name = t.name) : (s.setTask i t').tasks.map (·.name) = s.tasks.map (·.name) := by
  refine List.ext_getElem? fun j => ?_
  rw [List.getElem?_map, List.getElem?_map, getElem?_setTask hget]
  by_cases hj : i = j
  · subst hj
    rw [if_pos rfl, hget, Option.map_some, Option.map_some, hname]
  · rw [if_neg hj]

/-- Every task keeps its name and its place. -/
theorem Moves.names_eq (hm : Moves s l s') : s'.tasks.map (·.name) = s.tasks.map (·.name) := by
  cases hm with
  | trigger | join | observe | wait | drain | stop => rfl
  | skip hget | pass hget | begin hget | finish hget | interrupt _ hget =>
      exact names_setTask hget rfl

theorem names_run (hrun : s.run? labels = some s') :
    s'.tasks.map (·.name) = s.tasks.map (·.name) :=
  run?_induction (motive := fun u => u.tasks.map (·.name) = s.tasks.map (·.name))
    (fun hu hstep => (moves_of_step? hstep).names_eq.trans hu) hrun rfl

/-! ### What a supervisor makes of the turns -/

/-- What a supervisor has made of the turns so far. -/
inductive Resolved (past : List Label) (s : Supervisor) : Prop where
  /-- It watches still, and has everything that ended in front of it. -/
  | watching (hphase : s.phase = .watching) (hfirst : s.first = none) (hjoined : s.joined = 0)
      (hlaunched : s.launched = true) (htasks : s.tasks ≠ []) (hobserve : .observe ∉ past)
      (htrigger : s.triggered = true → .trigger ∈ past)
      (hdone : s.done = (endings past).map fun d => (d.1, some d.2))
  /-- It never watched, as there was nothing to be let go. -/
  | idle (hphase : s.phase ≠ .watching) (hfirst : s.first = none)
      (hidle : s.launched = false ∨ s.tasks = []) (hobserve : .observe ∉ past)
      (hnone : endings past = [])
  /-- It heard the call to shut down. -/
  | heard (hphase : s.phase ≠ .watching) (hfirst : s.first = none) (hobserve : .observe ∈ past)
      (htrigger : .trigger ∈ past)
  /-- It looked at the ending in front. -/
  | looked {d : Nat × Ending} (hphase : s.phase ≠ .watching) (hfirst : s.first = some d)
      (hobserve : .observe ∉ past) (hhead : (endings past).head? = some d)

/-- A supervisor that watches no more never does again, and stands by what it has made of it. -/
theorem Moves.decided (hm : Moves s l s') (hphase : s.phase ≠ .watching) :
    s'.phase ≠ .watching ∧ s'.first = s.first ∧ l ≠ .observe := by
  cases hm with
  | trigger | skip | pass | begin | finish | drain => exact ⟨hphase, rfl, by simp⟩
  | join hwatching | observe hwatching => exact absurd hwatching hphase
  | interrupt | wait | stop => exact ⟨by simp, rfl, by simp⟩

/-- Only a task that is there and was let go can end. -/
theorem Moves.lt_of_ending? (hm : Moves s l s') (ho : Orderly s) {d : Nat × Ending}
    (hd : l.ending? = some d) : s.launched = true ∧ d.1 < s.tasks.length := by
  cases hm with
  | trigger | skip | pass | begin | join | observe | interrupt | wait | drain | stop => cases hd
  | @finish i t e hget hstate =>
      cases hd
      refine ⟨Bool.not_eq_false _ ▸ fun hlaunched => ?_, (List.getElem?_eq_some_iff.1 hget).1⟩
      exact absurd (hstate.symm.trans (ho.held hlaunched i t hget)) (by simp)

/-- The tasks that end in a run are there and were let go. -/
theorem lt_of_mem_endings (hrun : (start names triggered).run? labels = some s) :
    ∀ d ∈ endings labels, triggered = false ∧ d.1 < names.length := by
  have hstart := (fixed_run hrun)
  suffices h : Orderly s ∧ ∀ d ∈ endings labels, s.launched = true ∧ d.1 < s.tasks.length by
    simpa [hstart.1, hstart.2, start] using h.2
  refine run?_past
    (motive := fun past u => Orderly u ∧
      ∀ d ∈ endings past, u.launched = true ∧ d.1 < u.tasks.length)
    (fun {past u u' l} hu hstep => ⟨hu.1.step hstep, fun d hd => ?_⟩) [] hrun
    ⟨.start names triggered, fun d hd => absurd hd List.not_mem_nil⟩
  have hm := moves_of_step? hstep
  rw [hm.fixed.1, hm.fixed.2]
  rw [endings_snoc, List.mem_append, Option.mem_toList] at hd
  exact hd.elim (hu.2 d) (hm.lt_of_ending? hu.1)

namespace Resolved

theorem start (names : List String) (triggered : Bool) :
    Resolved [] (Supervisor.start names triggered) := by
  cases names with
  | nil => exact .idle (by simp [Supervisor.start]) rfl (.inr rfl) List.not_mem_nil rfl
  | cons name rest =>
      cases triggered with
      | true => exact .idle (by simp [Supervisor.start]) rfl (.inl rfl) List.not_mem_nil rfl
      | false =>
          exact .watching rfl rfl rfl rfl (by simp [Supervisor.start]) List.not_mem_nil
            (by simp [Supervisor.start]) rfl

theorem step_watching (ho : Orderly s) (hm : Moves s l s') (hphase : s.phase = .watching)
    (hfirst : s.first = none) (hjoined : s.joined = 0) (hlaunched : s.launched = true)
    (htasks : s.tasks ≠ []) (hobserve : .observe ∉ past)
    (htrigger : s.triggered = true → .trigger ∈ past)
    (hdone : s.done = (endings past).map fun d => (d.1, some d.2)) :
    Resolved (past ++ [l]) s' := by
  have htasks' : s'.tasks ≠ [] := by
    rw [← List.length_pos_iff, hm.fixed.1]
    exact List.length_pos_iff.2 htasks
  have hold {l : Label} (h : s.triggered = true) : .trigger ∈ past ++ [l] :=
    List.mem_append_left _ (htrigger h)
  cases hm with
  | trigger =>
      exact .watching hphase hfirst hjoined hlaunched htasks' (by simpa using hobserve)
        (fun _ => by simp) (by simpa [endings_snoc, Label.ending?] using hdone)
  | pass | begin =>
      refine .watching hphase hfirst hjoined hlaunched htasks' (by simpa using hobserve) hold ?_
      rw [endings_snoc, List.map_append, ← hdone]
      exact (List.append_nil s.done).symm
  | @finish i t e =>
      refine .watching hphase hfirst hjoined hlaunched htasks' (by simpa using hobserve) hold ?_
      rw [endings_snoc, List.map_append, ← hdone]
      rfl
  | @skip i t hget _ _ hint =>
      -- No task is interrupted yet, so none is turned away.
      have hlt := (ho.reached i t hget).1 hint
      rw [reached, hphase] at hlt
      exact absurd hlt (Nat.not_lt_zero i)
  | @join i ending rest _ hcons =>
      rw [hcons] at hdone
      obtain ⟨d, after, hendings, hd, -⟩ := List.map_eq_cons_iff.1 hdone.symm
      obtain ⟨rfl, rfl⟩ := Prod.mk.inj hd
      refine .looked (d := d) (by simp [close]) rfl (by simpa using hobserve) ?_
      rw [endings_snoc, hendings]
      rfl
  | observe _ htriggered =>
      exact .heard (by simp [close]) rfl (by simp) (hold htriggered)
  | interrupt hinterrupting | wait hinterrupting =>
      exact absurd (hphase.symm.trans hinterrupting) (by simp)
  | drain hdraining | stop hdraining => exact absurd (hphase.symm.trans hdraining) (by simp)

theorem step (ho : Orderly s) (hr : Resolved past s) (hstep : s.step? l = some s') :
    Resolved (past ++ [l]) s' := by
  have hm := moves_of_step? hstep
  cases hr with
  | watching hphase hfirst hjoined hlaunched htasks hobserve htrigger hdone =>
      exact step_watching ho hm hphase hfirst hjoined hlaunched htasks hobserve htrigger hdone
  | idle hphase hfirst hidle hobserve hnone =>
      obtain ⟨hphase', hfirst', hl⟩ := hm.decided hphase
      have hidle' : s'.launched = false ∨ s'.tasks = [] := by
        rwa [hm.fixed.2, ← List.length_eq_zero_iff, hm.fixed.1, List.length_eq_zero_iff]
      refine .idle hphase' (hfirst'.trans hfirst) hidle' (by simp [hobserve, hl.symm]) ?_
      rw [endings_snoc, hnone, List.nil_append]
      cases hd : l.ending? with
      | none => rfl
      | some d =>
          -- A task that ends would have been let go.
          obtain ⟨hlaunched, hlt⟩ := hm.lt_of_ending? ho hd
          rcases hidle with hnever | htasks
          · exact absurd (hlaunched.symm.trans hnever) (by simp)
          · simp [htasks] at hlt
  | heard hphase hfirst hobserve htrigger =>
      obtain ⟨hphase', hfirst', -⟩ := hm.decided hphase
      exact .heard hphase' (hfirst'.trans hfirst) (List.mem_append_left _ hobserve)
        (List.mem_append_left _ htrigger)
  | @looked d hphase hfirst hobserve hhead =>
      obtain ⟨hphase', hfirst', hl⟩ := hm.decided hphase
      refine .looked hphase' (hfirst'.trans hfirst) (by simp [hobserve, hl.symm]) ?_
      rw [endings_snoc, List.head?_append, hhead, Option.some_or]

/-- What a supervisor has made of all the turns of a run. -/
theorem run (hrun : (Supervisor.start names triggered).run? labels = some s) :
    Orderly s ∧ Resolved labels s :=
  run?_past (motive := fun past u => Orderly u ∧ Resolved past u)
    (fun hu hstep => ⟨hu.1.step hstep, step hu.1 hu.2 hstep⟩) [] hrun
    ⟨.start names triggered, .start names triggered⟩

/-- Once it watches no more, a supervisor that did not hear the call to shut down goes by the
first ending of all, with those that came after it looked. -/
theorem first_eq (hr : Resolved past s) (hphase : s.phase ≠ .watching) :
    s.first = if .observe ∈ past then none else (endings past).head? := by
  cases hr with
  | watching hwatching => exact absurd hwatching hphase
  | idle _ hfirst _ hobserve hnone => rw [if_neg hobserve, hnone, hfirst, List.head?_nil]
  | heard _ hfirst hobserve => rw [if_pos hobserve, hfirst]
  | looked _ hfirst hobserve hhead => rw [if_neg hobserve, hhead, hfirst]

/-- The supervisor hears a call to shut down only where there was one. -/
theorem trigger_of_observe (hr : Resolved past s) (hmem : .observe ∈ past) : .trigger ∈ past := by
  cases hr with
  | watching _ _ _ _ _ hobserve | idle _ _ _ hobserve | looked _ _ hobserve =>
      exact absurd hmem hobserve
  | heard _ _ _ htrigger => exact htrigger

end Resolved

/-! ### What is reported -/

theorem outcome_eq_error_iff (f : Failure) :
    s.outcome = .error f ↔ ∃ i e, s.first = some (i, e) ∧
      (s.tasks.map (·.name))[i]? = some f.task ∧ e.failure? = some f.source := by
  rw [outcome]
  cases s.first with
  | none => simp
  | some d =>
      obtain ⟨i, e⟩ := d
      simp only [Option.some.injEq, Prod.mk.injEq, and_assoc, exists_and_left, exists_eq_left',
        List.getElem?_map]
      cases e.failure? with
      | none => simp
      | some source =>
          cases s.tasks[i]? with
          | none => simp
          | some t =>
              obtain ⟨task, wording⟩ := f
              simp

theorem outcome_eq_ok_iff : s.outcome = .ok () ↔ ∀ f, s.outcome ≠ .error f := by
  cases s.outcome with
  | ok => simp
  | error f => simp

/-- The error that a supervisor reports is that of the first task to end, under its name, unless
the supervisor heard the call to shut down. -/
theorem outcome_eq_error_iff_of_run
    (hrun : (start names triggered).run? labels = some s) (hstopped : s.phase = .stopped)
    (f : Failure) :
    s.outcome = .error f ↔ .observe ∉ labels ∧ ∃ i e, (endings labels).head? = some (i, e) ∧
      names[i]? = some f.task ∧ e.failure? = some f.source := by
  have hfirst := (Resolved.run hrun).2.first_eq (by rw [hstopped]; simp)
  have hnames : s.tasks.map (·.name) = names := by
    rw [names_run hrun]
    simp [start, Function.comp_def]
  rw [outcome_eq_error_iff, hnames, hfirst]
  by_cases hobserve : Label.observe ∈ labels <;> simp [hobserve]

/-! ### Coming to a stop -/

/-- Whether nothing is left to happen but a call to shut down. -/
def Still (s : Supervisor) : Prop := ∀ l, l ≠ .trigger → s.step? l = none

theorem Still.isOver (hstill : s.Still) (hlaunched : s.launched = true) {i : Nat}
    {t : SupervisedTask} (hget : s.tasks[i]? = some t) : t.state.isOver = true := by
  cases hstate : t.state with
  | returned | skipped => rfl
  | registered =>
      have h := hstill (.enter i) (by simp)
      simp [step?, hget, hlaunched, hstate] at h
      split at h <;> cases h
  | admitted =>
      have h := hstill (.begin i) (by simp)
      simp [step?, hget, hstate] at h
  | running =>
      have h := hstill (.finish i .ok) (by simp)
      simp [step?, hget, hstate] at h

theorem Still.countP_isOver (hstill : s.Still) (hlaunched : s.launched = true) :
    s.tasks.countP (·.state.isOver) = s.tasks.length := by
  refine List.countP_eq_length.2 fun t ht => ?_
  obtain ⟨i, hget⟩ := List.getElem?_of_mem ht
  exact hstill.isOver hlaunched hget

/-- A supervisor waits for its tasks alone: where no task has a turn left and it has none itself,
it has stopped. -/
theorem stopped_of_still (hrun : (start names triggered).run? labels = some s)
    (hstill : s.Still) : s.phase = .stopped := by
  obtain ⟨ho, hr⟩ := Resolved.run hrun
  have hsettled := ho.settled
  cases hphase : s.phase with
  | stopped => rfl
  | interrupting i =>
      have h := hstill (.interrupt false) (by simp)
      simp only [step?, hphase] at h
      split at h <;> cases h
  | watching =>
      cases hr with
      | watching _ _ hjoined hlaunched htasks =>
          cases hdone : s.done with
          | cons d rest =>
              have h := hstill .join (by simp)
              simp [step?, hphase, hdone] at h
          | nil =>
              -- All tasks are over, and yet none was looked at or waits to be.
              rw [hstill.countP_isOver hlaunched, hjoined, hdone] at hsettled
              exact absurd (List.length_eq_zero_iff.1 hsettled) htasks
      | idle hnot | heard hnot | looked hnot => exact absurd hphase hnot
  | draining =>
      cases hdone : s.done with
      | cons d rest =>
          have h := hstill .drain (by simp)
          simp [step?, hphase, hdone] at h
      | nil =>
          have hjoined : s.joined = s.spawned := by
            rw [hdone, List.length_nil, Nat.add_zero] at hsettled
            rw [← hsettled, spawned]
            cases hlaunched : s.launched with
            | true => rw [if_pos rfl, hstill.countP_isOver hlaunched]
            | false =>
                refine List.countP_eq_zero.2 fun t ht => ?_
                obtain ⟨i, hget⟩ := List.getElem?_of_mem ht
                rw [ho.held hlaunched i t hget]
                simp [TaskState.isOver]
          have h := hstill .stop (by simp)
          simp [step?, hphase, hjoined] at h

/-! ### The first ending -/

/-- A supervisor that watches a task sees one end before it stops. -/
theorem head?_endings_of_run (hrun : (start names false).run? labels = some s)
    (hnames : names ≠ []) (hobserve : .observe ∉ labels) (hphase : s.phase ≠ .watching) :
    ∃ i e, (endings labels).head? = some (i, e) := by
  cases (Resolved.run hrun).2 with
  | watching hwatching => exact absurd hwatching hphase
  | heard _ _ hmem => exact absurd hmem hobserve
  | @looked d _ _ _ hhead => exact ⟨d.1, d.2, hhead⟩
  | idle _ _ hidle =>
      obtain ⟨hlength, hlaunched⟩ := fixed_run hrun
      rcases hidle with hnever | htasks
      · exact absurd (hlaunched.symm.trans hnever) (by simp [start])
      · rw [htasks] at hlength
        simp only [start, List.length_nil, List.length_map] at hlength
        exact absurd (List.length_eq_zero_iff.1 hlength.symm) hnames

/-- **The first ending decides.** Take any turns of the tasks and of the supervisor, with no call
to shut down. Where nothing is left to happen, the supervisor has stopped. Once it has, it
reports an error exactly if the first task to end came to an error or a panic, and then that one,
under the name the task was registered with; where the first task to end returned, all is well,
whatever the others came to. If there were tasks at all, there was a first to end. -/
theorem outcome_of_first_ending (hrun : (start names false).run? labels = some s)
    (hquiet : .trigger ∉ labels) :
    (s.Still → s.phase = .stopped) ∧
    (s.phase = .stopped →
      (∀ f, s.outcome = .error f ↔ ∃ i e, (endings labels).head? = some (i, e) ∧
        names[i]? = some f.task ∧ e.failure? = some f.source) ∧
      (∀ i, (endings labels).head? = some (i, .ok) → s.outcome = .ok ()) ∧
      (names ≠ [] → ∃ i e, (endings labels).head? = some (i, e))) := by
  have hobserve : .observe ∉ labels := fun hmem =>
    hquiet ((Resolved.run hrun).2.trigger_of_observe hmem)
  refine ⟨stopped_of_still hrun, fun hstopped => ?_⟩
  have herror (f : Failure) :
      s.outcome = .error f ↔ ∃ i e, (endings labels).head? = some (i, e) ∧
        names[i]? = some f.task ∧ e.failure? = some f.source := by
    rw [outcome_eq_error_iff_of_run hrun hstopped]
    exact and_iff_right hobserve
  refine ⟨herror, fun i hhead => ?_, fun hnames => ?_⟩
  · refine outcome_eq_ok_iff.2 fun f hf => ?_
    obtain ⟨j, e, hhead', -, hfailure⟩ := (herror f).1 hf
    rw [hhead] at hhead'
    cases hhead'
    cases hfailure
  · exact head?_endings_of_run hrun hnames hobserve (by rw [hstopped]; simp)

/-- Two tasks of one name. The second panics; the first, interrupted, comes to an error of its
own before the supervisor has looked at all of them. -/
def twinTurns : List Label :=
  [.enter 0, .begin 0, .enter 1, .begin 1, .enter 2, .begin 2,
    .finish 1 (.panicked (some "boom")), .finish 0 (.error "late"), .join, .interrupt false, .interrupt true, .interrupt false, .interrupt false,
    .finish 2 (.panicked none), .drain, .drain, .stop]

theorem outcome_of_first_ending_twins :
    ∃ s, (start ["worker", "worker", "sweeper"] false).run? twinTurns = some s ∧
      s.outcome = .error ⟨"worker", "task panicked: boom"⟩ := by
  have hrun : (start ["worker", "worker", "sweeper"] false).run? twinTurns = some _ := rfl
  obtain ⟨-, hall⟩ := outcome_of_first_ending hrun (by decide)
  exact ⟨_, hrun, ((hall rfl).1 _).2 ⟨1, .panicked (some "boom"), rfl, rfl, rfl⟩⟩

/-! ### A call to shut down -/

theorem outcome_eq_ok_iff_of_run
    (hrun : (start names triggered).run? labels = some s) (hstopped : s.phase = .stopped) :
    s.outcome = .ok () ↔ .observe ∈ labels ∨
      ∀ i e, (endings labels).head? = some (i, e) → e.failure? = none := by
  rw [outcome_eq_ok_iff]
  constructor
  · intro hok
    by_cases hobserve : .observe ∈ labels
    · exact .inl hobserve
    · refine .inr fun i e hhead => ?_
      cases hfailure : e.failure? with
      | none => rfl
      | some source =>
          obtain ⟨-, hi⟩ := lt_of_mem_endings hrun _ (List.mem_of_head? hhead)
          exact absurd ((outcome_eq_error_iff_of_run hrun hstopped ⟨names[i], source⟩).2
            ⟨hobserve, i, e, hhead, List.getElem?_eq_getElem hi, hfailure⟩) (hok _)
  · intro hclean f hf
    obtain ⟨hobserve, i, e, hhead, -, hfailure⟩ :=
      (outcome_eq_error_iff_of_run hrun hstopped f).1 hf
    rw [hclean.resolve_left hobserve i e hhead] at hfailure
    cases hfailure

/-- **A call to shut down is clean unless a task is quicker than the supervisor.** A supervisor
that was told to shut down before it began reports no error. Where the call comes later, but
before any task has ended, it reports none exactly if it heard the call, or the first task to end
after the call returned; it does not hear the call if it looks at a task that has ended by
then. -/
theorem shutdown_clean_iff (names : List String) :
    (∀ labels s, (start names true).run? labels = some s → s.phase = .stopped →
      s.outcome = .ok ()) ∧
    (∀ before after s, (start names false).run? (before ++ .trigger :: after) = some s →
      endings before = [] → s.phase = .stopped →
      (s.outcome = .ok () ↔ .observe ∈ before ++ after ∨
        ∀ i e, (endings after).head? = some (i, e) → e.failure? = none)) := by
  refine ⟨fun labels s hrun hstopped => ?_, fun before after s hrun hbefore hstopped => ?_⟩
  · refine (outcome_eq_ok_iff_of_run hrun hstopped).2 (.inr fun i e hhead => ?_)
    exact absurd (lt_of_mem_endings hrun _ (List.mem_of_head? hhead)).1 (by simp)
  · have hendings : endings (before ++ .trigger :: after) = endings after := by
      rw [endings_append, hbefore, List.nil_append]
      rfl
    rw [outcome_eq_ok_iff_of_run hrun hstopped, hendings]
    simp

/-- The supervisor hears the call, and only then does the task that was told to stop come to an
error. -/
def heardTurns : List Label :=
  [.observe, .finish 0 (.error "told to stop"), .interrupt false, .interrupt false, .drain, .stop]

/-- The turns of a supervisor that interrupts its one task and has nothing to wait for. -/
def idleTurns : List Label := [.interrupt false, .interrupt false, .stop]

theorem shutdown_clean_iff_heard :
    (∃ s, (start ["worker"] true).run? idleTurns = some s ∧ s.outcome = .ok ()) ∧
    ∃ s, (start ["worker"] false).run? ([.enter 0, .begin 0] ++ .trigger :: heardTurns) = some s ∧
      s.outcome = .ok () := by
  obtain ⟨hbefore, hlater⟩ := shutdown_clean_iff ["worker"]
  exact ⟨⟨_, rfl, hbefore idleTurns _ rfl rfl⟩,
    ⟨_, rfl, (hlater [.enter 0, .begin 0] heardTurns _ rfl rfl rfl).2 (.inl (by decide))⟩⟩

/-- The task that was told to stop comes to its error first, and the supervisor looks at that. -/
def toldTurns : List Label :=
  [.finish 0 (.error "told to stop"), .join, .interrupt false, .interrupt false, .stop]

/-- A worker that waits to be told to stop, and comes to an error when it is. -/
def toldWorker : TaskPlan := ⟨"worker", 0, true, 0, .error "told to stop", true⟩

/-- A call to shut down can end in an error, although no task had ended when it came. So it goes
on the clock, too. -/
theorem shutdown_not_clean_told :
    (∃ s, (start ["worker"] false).run? ([.enter 0, .begin 0] ++ .trigger :: toldTurns) = some s ∧
      endings [.enter 0, .begin 0] = [] ∧ s.phase = .stopped ∧
      s.outcome = .error ⟨"worker", "told to stop"⟩) ∧
    (Timeline.start [toldWorker] false (some 20)).run.supervisor.outcome
      = .error ⟨"worker", "told to stop"⟩ :=
  ⟨⟨_, rfl, rfl, rfl, rfl⟩, rfl⟩

end Supervisor

end Rendezvous
