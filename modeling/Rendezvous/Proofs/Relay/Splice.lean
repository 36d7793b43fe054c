import Rendezvous.Relay.Splice

/-!
# Rendezvous.Proofs.Relay.Splice

A circuit carries bytes as they come, and within its budget, in whatever order its two directions
and the world around them take their turns.

Of each direction, what was sent is split into what is written, what is held to be written, and
what is ahead; only the chunk that goes beyond the budget is in none of them. What is not ahead
has been counted, so that what is written has been counted too.

* `SpliceTurn.arrival`, `arrivals`: what arrives on a stream;
* `Splice.Moves`, `Splice.moves_of_step?`: what a turn can do;
* `Flow.Faithful`: what is true of a direction; `Splice.Sound`: of a circuit;
* `Splice.Sound.step`, `Splice.Sound.run`;
* `Splice.splice_faithful`.
-/

namespace Rendezvous.Relay

/-! ### What arrives -/

namespace SpliceTurn

/-- The bytes that arrive on a stream. -/
def arrival (way : Way) : SpliceTurn → Bytes
  | .arrive w bytes => if w = way then bytes else []
  | _ => []

/-- Whether it is a turn of a direction, and not of the world around. -/
def isOwn : SpliceTurn → Bool
  | .begin _ | .read _ _ | .write _ _ | .finish _ => true
  | _ => false

end SpliceTurn

/-- What arrives on a stream in some turns, in order. -/
def arrivals (way : Way) (ts : List SpliceTurn) : Bytes := ts.flatMap (·.arrival way)

theorem arrivals_snoc (way : Way) (ts : List SpliceTurn) (t : SpliceTurn) :
    arrivals way (ts ++ [t]) = arrivals way ts ++ t.arrival way := by
  simp [arrivals]

/-! ### The bytes of a direction -/

namespace Flow

/-- What is still to be taken up. -/
def ahead (f : Flow) : Bytes :=
  match f.stage with
  | .fresh => f.leftover ++ f.arrived
  | _ => f.arrived

/-- What is taken up and still to be written. -/
def held (f : Flow) : Bytes :=
  match f.stage with
  | .writing _ rest => rest
  | _ => []

/-- A direction takes up a chunk, and has yet to write it. -/
structure Takes (f : Flow) (chunk : Bytes) (f' : Flow) : Prop where
  going : f.stage ≠ .done
  ahead : f.ahead = chunk ++ f'.arrived
  ne_nil : chunk ≠ []
  written : f'.written = f.written
  held : f.held = []
  stage : f'.stage = .reading

variable {f f' : Flow} {chunk rest : Bytes}

theorem ahead_of_stage (h : f.stage ≠ .fresh) : f.ahead = f.arrived := by
  cases hst : f.stage with
  | fresh => exact absurd hst h
  | reading | writing | done => simp only [ahead, hst]

theorem held_of_writing (h : f.stage = .writing chunk rest) : f.held = rest := by
  simp only [held, h]

theorem held_of_stage (h : ∀ chunk rest, f.stage ≠ .writing chunk rest) : f.held = [] := by
  cases hst : f.stage with
  | writing chunk rest => exact absurd hst (h chunk rest)
  | fresh | reading | done => simp only [held, hst]

/-- What a direction has written, once it has written some of a chunk. -/
theorem written_writeSome (n : Nat) :
    (f.writeSome chunk rest n).written = f.written ++ rest.take n := by
  rw [writeSome]
  cases rest.drop n <;> rfl

theorem held_writeSome (n : Nat) : (f.writeSome chunk rest n).held = rest.drop n := by
  rw [writeSome]
  cases rest.drop n <;> rfl

theorem ahead_writeSome (n : Nat) : (f.writeSome chunk rest n).ahead = f.arrived := by
  rw [writeSome]
  cases rest.drop n <;> rfl

/-- What is true of a direction to which some bytes were sent. Unless it is known to be whole, it
may have lost the last chunk that it took up. -/
structure Faithful (sent : Bytes) (whole : Bool) (f : Flow) : Prop where
  bytes : ∃ lost, sent = f.written ++ f.held ++ lost ++ f.ahead ∧ (whole = true → lost = [])
  rest : ∀ chunk rest, f.stage = .writing chunk rest → rest ≠ []
  done : f.stage = .done → f.arrived = [] ∧ f.closed = true

namespace Faithful

variable {sent : Bytes}

theorem start (leftover : Bytes) : Faithful leftover true (.start leftover) := by
  refine ⟨⟨[], ?_, fun _ => rfl⟩, nofun, nofun⟩
  simp [Flow.start, ahead, held]

variable (hf : Faithful sent true f)
include hf

theorem sent_eq : sent = f.written ++ f.held ++ f.ahead := by
  obtain ⟨lost, hsent, hlost⟩ := hf.bytes
  rw [hlost rfl, List.append_nil] at hsent
  exact hsent

theorem mono (whole : Bool) : Faithful sent whole f := by
  obtain ⟨lost, hsent, hlost⟩ := hf.bytes
  exact ⟨⟨lost, hsent, fun _ => hlost rfl⟩, hf.rest, hf.done⟩

theorem arrive (hopen : f.closed = false) (bytes : Bytes) :
    Faithful (sent ++ bytes) true { f with arrived := f.arrived ++ bytes } := by
  refine ⟨⟨[], ?_, fun _ => rfl⟩, hf.rest, fun hdone => ?_⟩
  · rw [hf.sent_eq]
    cases hst : f.stage <;> simp [ahead, held, hst]
  · rw [(hf.done hdone).2] at hopen
    cases hopen

theorem close : Faithful sent true { f with closed := true } := by
  refine ⟨⟨[], ?_, fun _ => rfl⟩, hf.rest, fun hdone => ⟨(hf.done hdone).1, rfl⟩⟩
  rw [hf.sent_eq, List.append_nil]
  rfl

/-- A direction begins that has nothing left over. -/
theorem begin (hst : f.stage = .fresh) (hnone : f.leftover = []) :
    Faithful sent true { f with stage := .reading } := by
  refine ⟨⟨[], ?_, fun _ => rfl⟩, nofun, nofun⟩
  rw [hf.sent_eq]
  simp [ahead, held, hst, hnone]

theorem carry (htakes : f.Takes chunk f') : Faithful sent true (f'.writeChunk chunk) := by
  refine ⟨⟨[], ?_, fun _ => rfl⟩, fun c rest hrest => ?_, nofun⟩
  · rw [hf.sent_eq, htakes.ahead, htakes.held]
    simp [writeChunk, ahead, held, htakes.written]
  · cases hrest
    exact htakes.ne_nil

/-- A chunk that does not fit is lost. -/
theorem cut (htakes : f.Takes chunk f') : Faithful sent false f' := by
  refine ⟨⟨chunk, ?_, nofun⟩, fun c rest hrest => ?_, fun hdone => ?_⟩
  · rw [hf.sent_eq, htakes.ahead, htakes.held]
    simp [ahead, held, htakes.stage, htakes.written]
  · rw [htakes.stage] at hrest
    cases hrest
  · rw [htakes.stage] at hdone
    cases hdone

theorem write (hst : f.stage = .writing chunk rest) (n : Nat) :
    Faithful sent true (f.writeSome chunk rest n) := by
  refine ⟨⟨[], ?_, fun _ => rfl⟩, fun c more hmore => ?_, fun hdone => ?_⟩
  · have hahead : f.ahead = f.arrived := ahead_of_stage (by simp [hst])
    rw [hf.sent_eq, held_of_writing hst, hahead, written_writeSome, held_writeSome,
      ahead_writeSome, List.append_nil, List.append_assoc f.written (rest.take n),
      List.take_append_drop]
  · rw [writeSome] at hmore
    cases hdrop : rest.drop n with
    | nil => simp [hdrop] at hmore
    | cons b more' =>
        simp only [hdrop, FlowStage.writing.injEq] at hmore
        rw [← hmore.2]
        exact List.cons_ne_nil _ _
  · rw [writeSome] at hdone
    cases hdrop : rest.drop n <;> simp [hdrop] at hdone

theorem finish (hst : f.stage = .reading) (hnone : f.arrived = []) (hclosed : f.closed = true) :
    Faithful sent true { f with stage := .done } := by
  refine ⟨⟨[], ?_, fun _ => rfl⟩, nofun, fun _ => ⟨hnone, hclosed⟩⟩
  rw [hf.sent_eq]
  simp [ahead, held, hst]

end Faithful

/-! ### What a direction has to do -/

end Flow

/-- How often a direction in this stage turns to another, apart from the bytes that it carries. -/
def FlowStage.changes : FlowStage → Nat
  | .fresh => 2
  | .reading | .writing _ _ => 1
  | .done => 0

namespace Flow

variable {f f' : Flow} {chunk rest : Bytes}

/-- How many turns a direction takes at most, with what has arrived. -/
def work (f : Flow) : Nat := 2 * f.ahead.length + f.held.length + f.stage.changes

theorem work_arrive (bytes : Bytes) :
    ({ f with arrived := f.arrived ++ bytes } : Flow).work ≤ f.work + 2 * bytes.length := by
  cases hst : f.stage <;> simp [work, ahead, held, hst] <;> omega

theorem work_begin (hst : f.stage = .fresh) (hnone : f.leftover = []) :
    ({ f with stage := .reading } : Flow).work + 1 ≤ f.work := by
  simp [work, ahead, held, hst, hnone, FlowStage.changes]

theorem Takes.lt_work (h : f.Takes chunk f') :
    2 * (chunk.length + f'.arrived.length) + 1 ≤ f.work := by
  have hchanges : 1 ≤ f.stage.changes := by
    cases hst : f.stage with
    | done => exact absurd hst h.going
    | fresh | reading | writing => simp [FlowStage.changes]
  rw [work, h.ahead, List.length_append]
  omega

theorem Takes.work_carry (h : f.Takes chunk f') : (f'.writeChunk chunk).work + 1 ≤ f.work := by
  have hwork : (f'.writeChunk chunk).work = 2 * f'.arrived.length + chunk.length + 1 := rfl
  have hlt := h.lt_work
  have hpos := List.length_pos_iff.2 h.ne_nil
  omega

theorem Takes.work_cut (h : f.Takes chunk f') : f'.work + 1 ≤ f.work := by
  have hwork : f'.work = 2 * f'.arrived.length + 1 := by
    rw [work, ahead_of_stage (by simp [h.stage]), held_of_stage (by simp [h.stage]), h.stage]
    rfl
  have hlt := h.lt_work
  have hpos := List.length_pos_iff.2 h.ne_nil
  omega

theorem work_write {n : Nat} (hst : f.stage = .writing chunk rest) (hpos : n ≠ 0)
    (hle : n ≤ rest.length) : (f.writeSome chunk rest n).work + 1 ≤ f.work := by
  have hahead : f.ahead = f.arrived := ahead_of_stage (by simp [hst])
  have hchanges : (f.writeSome chunk rest n).stage.changes = 1 := by
    rw [writeSome]
    cases rest.drop n <;> rfl
  have hbefore : f.stage.changes = 1 := by rw [hst, FlowStage.changes]
  rw [work, work, hchanges, hbefore, ahead_writeSome, held_writeSome, hahead, held_of_writing hst,
    List.length_drop]
  omega

theorem work_finish (hst : f.stage = .reading) :
    ({ f with stage := .done } : Flow).work + 1 ≤ f.work := by
  simp [work, ahead, held, hst, FlowStage.changes]

end Flow

/-! ### Turns -/

/-- A budget once some bytes are counted. -/
def Budget.counted (b : Budget) (n : Nat) : Budget := ⟨b.used + n, b.max⟩

theorem Budget.charge_of_fits {b : Budget} {n : Nat} (h : b.exceeds n = false) :
    b.charge n = (b.counted n, .ok ()) := by
  cases hmax : b.max with
  | none => simp only [charge, counted, hmax]
  | some max =>
      simp only [exceeds, hmax, Option.any_some, decide_eq_false_iff_not] at h
      simp only [charge, counted, hmax, if_neg h]

theorem Budget.charge_of_exceeds {b : Budget} {n : Nat} (h : b.exceeds n = true) :
    ∃ max, b.max = some max ∧ max < b.used + n ∧
      b.charge n = (b.counted n, .error (.data max)) := by
  cases hmax : b.max with
  | none => simp [exceeds, hmax] at h
  | some max =>
      simp only [exceeds, hmax, Option.any_some, decide_eq_true_eq] at h
      exact ⟨max, rfl, h, by simp only [charge, counted, hmax, if_pos h]⟩

namespace Splice

variable {s s' : Splice} {t : SpliceTurn} {way : Way} {f : Flow}

@[simp] theorem flow_setFlow (s : Splice) (f : Flow) (way way' : Way) :
    (s.setFlow f way).flow way' = if way = way' then f else s.flow way' := by
  cases way <;> cases way' <;> rfl

@[simp] theorem budget_setFlow : (s.setFlow f way).budget = s.budget := by cases way <;> rfl

@[simp] theorem result_setFlow : (s.setFlow f way).result = s.result := by cases way <;> rfl

/-- Something that both directions have, added up. -/
def total (s : Splice) (g : Flow → Nat) : Nat := g s.forth + g s.back

theorem total_setFlow (s : Splice) (f : Flow) (way : Way) (g : Flow → Nat) :
    (s.setFlow f way).total g + g (s.flow way) = s.total g + g f := by
  cases way <;> simp only [total, setFlow, flow] <;> omega

/-- The chunk that a turn takes up, if it is one that does. -/
def chunk? (s : Splice) : SpliceTurn → Option Bytes
  | .begin way =>
    let f := s.flow way
    if f.leftover.isEmpty then none else some f.leftover
  | .read way n => some ((s.flow way).arrived.take n)
  | _ => none

theorem arrival_of_chunk? {chunk : Bytes} (h : s.chunk? t = some chunk) (way : Way) :
    t.arrival way = [] := by
  cases t with
  | begin | read => rfl
  | _ => cases h

/-- What a turn can do. -/
inductive Moves (s : Splice) : SpliceTurn → Splice → Prop where
  | arrive {way : Way} {bytes : Bytes} (hopen : (s.flow way).closed = false) :
      Moves s (.arrive way bytes)
        (s.setFlow { s.flow way with arrived := (s.flow way).arrived ++ bytes } way)
  | close {way : Way} : Moves s (.close way) (s.setFlow { s.flow way with closed := true } way)
  | begin {way : Way} (hst : (s.flow way).stage = .fresh) (hnone : (s.flow way).leftover = []) :
      Moves s (.begin way) (s.setFlow { s.flow way with stage := .reading } way)
  | carry {t : SpliceTurn} {way : Way} {f : Flow} {chunk : Bytes} (hchunk : s.chunk? t = some chunk)
      (htakes : (s.flow way).Takes chunk f) (hfits : s.budget.exceeds chunk.length = false) :
      Moves s t ({ s with budget := s.budget.counted chunk.length }.setFlow (f.writeChunk chunk) way)
  /-- A chunk does not fit the budget. -/
  | cut {t : SpliceTurn} {way : Way} {f : Flow} {chunk : Bytes} {max : Nat}
      (hchunk : s.chunk? t = some chunk) (htakes : (s.flow way).Takes chunk f)
      (hmax : s.budget.max = some max) (hover : max < s.budget.used + chunk.length) :
      Moves s t ({ s with budget := s.budget.counted chunk.length,
                          result := some (.limited (.data max)) }.setFlow f way)
  | write {way : Way} {chunk rest : Bytes} {n : Nat}
      (hst : (s.flow way).stage = .writing chunk rest) (hpos : n ≠ 0) (hle : n ≤ rest.length) :
      Moves s (.write way n) (s.setFlow ((s.flow way).writeSome chunk rest n) way)
  | finish {way : Way} (hst : (s.flow way).stage = .reading) (hnone : (s.flow way).arrived = [])
      (hclosed : (s.flow way).closed = true) :
      Moves s (.finish way) (s.setFlow { s.flow way with stage := .done } way).settle
  | fail {way : Way} : Moves s (.fail way) { s with result := some .failed }
  | cancel : Moves s .cancel { s with result := some .cancelled }
  | expire {d : Duration} (hlife : s.lifetime = some d) :
      Moves s .expire { s with result := some (.limited (.lifetime d)) }

/-- A chunk that is taken up fits the budget, or it does not. -/
theorem moves_carry {chunk : Bytes} (hchunk : s.chunk? t = some chunk)
    (htakes : (s.flow way).Takes chunk f) : Moves s t (s.carry way f chunk) := by
  rw [Splice.carry]
  cases hfits : s.budget.exceeds chunk.length with
  | false =>
      rw [Budget.charge_of_fits hfits]
      exact .carry hchunk htakes hfits
  | true =>
      obtain ⟨max, hmax, hover, hcharge⟩ := Budget.charge_of_exceeds hfits
      rw [hcharge]
      exact .cut hchunk htakes hmax hover

/-- **A turn that is taken does one of these things**, to a circuit that has not ended. -/
theorem moves_of_step? (h : s.step? t = some s') : s.result = none ∧ Moves s t s' := by
  rw [step?] at h
  split at h
  · cases h
  · rename_i hresult
    refine ⟨Option.not_isSome_iff_eq_none.1 hresult, ?_⟩
    cases t with
    | arrive way bytes =>
        simp only [turn?] at h
        split at h <;> cases h
        exact .arrive (Bool.eq_false_iff.2 ‹_›)
    | close way =>
        simp only [turn?] at h
        split at h <;> cases h
        exact .close
    | begin way =>
        simp only [turn?] at h
        split at h
        · rename_i hst
          split at h <;> cases h
          · exact .begin hst (List.isEmpty_iff.1 ‹_›)
          · rename_i hsome
            have hne : (s.flow way).leftover ≠ [] := fun hnil => hsome (List.isEmpty_iff.2 hnil)
            refine moves_carry (if_neg hsome) ⟨by simp [hst], ?_, hne, rfl, ?_, rfl⟩
            · simp only [Flow.ahead, hst]
            · exact Flow.held_of_stage (by simp [hst])
        · cases h
    | read way n =>
        simp only [turn?] at h
        split at h
        · rename_i hst
          split at h <;> cases h
          rename_i hn
          simp only [not_or, Nat.not_lt] at hn
          obtain ⟨hpos, -, hle⟩ := hn
          have hne : (s.flow way).arrived.take n ≠ [] := by
            rw [ne_eq, List.take_eq_nil_iff, not_or]
            exact ⟨hpos, fun hnil => by simp [hnil] at hle; exact hpos hle⟩
          refine moves_carry rfl ⟨by simp [hst], ?_, hne, rfl, ?_, hst⟩
          · rw [Flow.ahead_of_stage (by simp [hst]), List.take_append_drop]
          · exact Flow.held_of_stage (by simp [hst])
        · cases h
    | write way n =>
        simp only [turn?] at h
        split at h
        · rename_i hst
          split at h <;> cases h
          rename_i hn
          simp only [not_or, Nat.not_lt] at hn
          exact .write hst hn.1 hn.2
        · cases h
    | finish way =>
        simp only [turn?] at h
        split at h
        · rename_i hst
          split at h <;> cases h
          rename_i hend
          rw [Bool.and_eq_true, List.isEmpty_iff] at hend
          exact .finish hst hend.1 hend.2
        · cases h
    | fail way =>
        simp only [turn?] at h
        split at h <;> cases h
        · exact .fail
        · exact .fail
    | cancel =>
        cases h
        exact .cancel
    | expire =>
        obtain ⟨d, hlife, rfl⟩ := Option.map_eq_some_iff.1 h
        exact .expire hlife

/-! ### What every turn preserves -/

/-- Whether the circuit was ended because a chunk did not fit its budget. -/
def isCut (s : Splice) : Bool :=
  match s.result with
  | some (.limited (.data _)) => true
  | _ => false

theorem isCut_of_none (h : s.result = none) : s.isCut = false := by
  simp only [isCut, h]

/-- What is true of a circuit at any time, given what was sent to it on either side. -/
structure Sound (limits : Limits) (sent : Way → Bytes) (s : Splice) : Prop where
  max : s.budget.max = limits.maxData
  flows : ∀ way, (s.flow way).Faithful (sent way) (!s.isCut)
  /-- What is not ahead has been counted. -/
  used : s.budget.used + s.total (·.ahead.length) = (sent .forth).length + (sent .back).length
  fits : s.isCut = false → ∀ max, limits.maxData = some max → s.budget.used ≤ max
  within : ∀ max, limits.maxData = some max →
    s.total (fun f => f.written.length + f.held.length) ≤ max
  closed : s.result = some .closed → ∀ way, (s.flow way).stage = .done
  cut : ∀ max, s.result = some (.limited (.data max)) →
    limits.maxData = some max ∧ max < s.budget.used

/-- As long as no chunk is lost, what was counted is written, or held to be. -/
theorem total_eq_used {sent : Way → Bytes} (hflows : ∀ way, (s.flow way).Faithful (sent way) true)
    (hused : s.budget.used + s.total (·.ahead.length) =
      (sent .forth).length + (sent .back).length) :
    s.total (fun f => f.written.length + f.held.length) = s.budget.used := by
  have hforth := congrArg List.length (hflows .forth).sent_eq
  have hback := congrArg List.length (hflows .back).sent_eq
  simp only [List.length_append, flow] at hforth hback
  simp only [total] at hused ⊢
  omega

namespace Sound

variable {limits : Limits} {sent sent' : Way → Bytes} {chunk : Bytes}

/-- A circuit that has lost no chunk. -/
theorem of_whole (hmax : s.budget.max = limits.maxData)
    (hflows : ∀ way, (s.flow way).Faithful (sent way) true)
    (hused : s.budget.used + s.total (·.ahead.length) = (sent .forth).length + (sent .back).length)
    (hfits : ∀ max, limits.maxData = some max → s.budget.used ≤ max) (hcut : s.isCut = false)
    (hclosed : s.result = some .closed → ∀ way, (s.flow way).stage = .done) :
    Sound limits sent s := by
  refine ⟨hmax, fun way => (hflows way).mono _, hused, fun _ => hfits, fun max hsome => ?_, hclosed,
    fun max hresult => ?_⟩
  · rw [total_eq_used hflows hused]
    exact hfits max hsome
  · simp only [isCut, hresult, Bool.true_eq_false] at hcut

theorem start (limits : Limits) (leftover : Way → Bytes) :
    Sound limits leftover (.start limits (leftover .forth) (leftover .back)) := by
  refine of_whole rfl (fun way => ?_) ?_ (fun _ _ => Nat.zero_le _) rfl nofun
  · cases way <;> exact Flow.Faithful.start _
  · simp [Splice.start, total, Flow.start, Flow.ahead]

variable (hv : Sound limits sent s) (hresult : s.result = none)
include hv hresult

theorem whole (way : Way) : (s.flow way).Faithful (sent way) true := by
  have hflow := hv.flows way
  rwa [isCut_of_none hresult] at hflow

/-- A change of one direction and of what is counted, by which nothing is lost. -/
theorem step_flow {b : Budget} (hf : f.Faithful (sent' way) true)
    (hothers : ∀ w, way ≠ w → sent' w = sent w) (hb : b.max = s.budget.max)
    (hused : b.used + f.ahead.length + (sent way).length =
      s.budget.used + (s.flow way).ahead.length + (sent' way).length)
    (hfits : ∀ max, b.max = some max → b.used ≤ max) :
    Sound limits sent' ({ s with budget := b }.setFlow f way) := by
  have hnone : ({ s with budget := b }.setFlow f way).result = none :=
    result_setFlow.trans hresult
  refine of_whole ?_ (fun w => ?_) ?_ (fun max hmax => ?_) (isCut_of_none hnone) (hnone ▸ nofun)
  · rw [budget_setFlow, ← hv.max, ← hb]
  · rw [flow_setFlow]
    by_cases hway : way = w
    · rw [if_pos hway]
      exact hway ▸ hf
    · rw [if_neg hway, hothers w hway]
      exact hv.whole hresult w
  · have htotal : ({ s with budget := b }.setFlow f way).total (·.ahead.length) +
        (s.flow way).ahead.length = s.total (·.ahead.length) + f.ahead.length :=
      total_setFlow ..
    have hsent : (sent' .forth).length + (sent' .back).length + (sent way).length =
        (sent .forth).length + (sent .back).length + (sent' way).length := by
      cases way with
      | forth =>
          rw [hothers .back nofun]
          omega
      | back =>
          rw [hothers .forth nofun]
          omega
    have hold := hv.used
    rw [budget_setFlow]
    show b.used + _ = _
    omega
  · rw [budget_setFlow]
    exact hfits max (hb.trans (hv.max.trans hmax))

/-- What is counted fits while no chunk is lost. -/
theorem used_le (max : Nat) (hmax : s.budget.max = some max) : s.budget.used ≤ max :=
  hv.fits (isCut_of_none hresult) max (hv.max ▸ hmax)

/-- Bytes that arrive are ahead. -/
theorem step_arrive (hopen : (s.flow way).closed = false) (bytes : Bytes) :
    Sound limits (fun w => sent w ++ (SpliceTurn.arrive way bytes).arrival w)
      (s.setFlow { s.flow way with arrived := (s.flow way).arrived ++ bytes } way) := by
  have hself : (SpliceTurn.arrive way bytes).arrival way = bytes := if_pos rfl
  have hf := (hv.whole hresult way).arrive hopen bytes
  refine hv.step_flow hresult (b := s.budget) (hself.symm ▸ hf) (fun w hw => ?_) rfl ?_
    (hv.used_le hresult)
  · rw [SpliceTurn.arrival, if_neg hw, List.append_nil]
  · have hahead : ({ s.flow way with arrived := (s.flow way).arrived ++ bytes } : Flow).ahead =
        (s.flow way).ahead ++ bytes := by
      cases hst : (s.flow way).stage <;> simp [Flow.ahead, hst]
    rw [hahead, hself, List.length_append, List.length_append]
    omega

/-- A chunk that fits the budget is held to be written. -/
theorem step_carry (htakes : (s.flow way).Takes chunk f)
    (hfits : s.budget.exceeds chunk.length = false) :
    Sound limits sent
      ({ s with budget := s.budget.counted chunk.length }.setFlow (f.writeChunk chunk) way) := by
  refine hv.step_flow hresult ((hv.whole hresult way).carry htakes) (fun _ _ => rfl) rfl ?_
    (fun max hmax => ?_)
  · have hahead : (f.writeChunk chunk).ahead = f.arrived := rfl
    rw [hahead, htakes.ahead, List.length_append]
    show s.budget.used + chunk.length + _ + _ = _
    omega
  · simp only [Budget.exceeds, show s.budget.max = some max from hmax, Option.any_some,
      decide_eq_false_iff_not] at hfits
    exact Nat.le_of_not_lt hfits

/-- A change of one direction by which nothing is counted. -/
theorem step_uncounted (hf : f.Faithful (sent way) true)
    (hahead : f.ahead.length = (s.flow way).ahead.length) :
    Sound limits sent (s.setFlow f way) := by
  refine hv.step_flow hresult (b := s.budget) hf (fun _ _ => rfl) rfl ?_ (hv.used_le hresult)
  rw [hahead]

/-- A circuit that ends without a chunk too many has lost nothing. -/
theorem step_end {ending : CircuitEnd} (hcut : ∀ max, ending ≠ .limited (.data max))
    (hclosed : ending = .closed → ∀ way, (s.flow way).stage = .done) :
    Sound limits sent { s with result := some ending } := by
  refine of_whole hv.max (hv.whole hresult) hv.used (fun max hmax => ?_) ?_ fun h => ?_
  · exact hv.used_le hresult max (hv.max.trans hmax)
  · cases ending with
    | limited limit =>
        cases limit with
        | data max => exact absurd rfl (hcut max)
        | circuits | lifetime => rfl
    | closed | cancelled | failed => rfl
  · exact hclosed (Option.some.inj h)

theorem step_finish (hst : (s.flow way).stage = .reading) (hnone : (s.flow way).arrived = [])
    (hclosed : (s.flow way).closed = true) :
    Sound limits sent (s.setFlow { s.flow way with stage := .done } way).settle := by
  have hv' : Sound limits sent (s.setFlow { s.flow way with stage := .done } way) := by
    refine hv.step_uncounted hresult ((hv.whole hresult way).finish hst hnone hclosed) ?_
    simp only [Flow.ahead, hst]
  rw [settle]
  split
  · rename_i hdone
    refine hv'.step_end (result_setFlow.trans hresult) nofun fun _ w => ?_
    cases w with
    | forth => exact hdone.1
    | back => exact hdone.2
  · exact hv'

/-- A chunk that does not fit the budget ends the circuit, and none of it is written. -/
theorem step_cut {max : Nat} (htakes : (s.flow way).Takes chunk f) (hmax : s.budget.max = some max)
    (hover : max < s.budget.used + chunk.length) :
    Sound limits sent
      ({ s with budget := s.budget.counted chunk.length,
                result := some (.limited (.data max)) }.setFlow f way) := by
  have hahead : f.ahead = f.arrived := Flow.ahead_of_stage (by simp [htakes.stage])
  have hheld : f.held = [] := Flow.held_of_stage (by simp [htakes.stage])
  have htotal (g : Flow → Nat) :
      ({ s with budget := s.budget.counted chunk.length,
                result := some (.limited (.data max)) }.setFlow f way).total g + g (s.flow way) =
        s.total g + g f := total_setFlow ..
  refine ⟨?_, fun w => ?_, ?_, fun hcut => ?_, fun max' hmax' => ?_, fun h => ?_, fun max' h => ?_⟩
  · rw [budget_setFlow]
    exact hv.max
  · simp only [isCut, result_setFlow, Bool.not_true, flow_setFlow]
    split
    · rename_i hway
      exact hway ▸ (hv.whole hresult way).cut htakes
    · exact (hv.whole hresult w).mono false
  · have htaken := htotal (·.ahead.length)
    have hold := hv.used
    rw [budget_setFlow]
    simp only [htakes.ahead, hahead, List.length_append] at htaken
    show s.budget.used + chunk.length + _ = _
    omega
  · simp [isCut] at hcut
  · have hkept := htotal fun f => f.written.length + f.held.length
    simp only [htakes.written, hheld, htakes.held] at hkept
    exact Nat.add_right_cancel hkept ▸ hv.within max' hmax'
  · rw [result_setFlow] at h
    cases h
  · rw [result_setFlow] at h
    cases h
    rw [budget_setFlow]
    exact ⟨hv.max.symm.trans hmax, hover⟩

/-- Every turn preserves what is true of a circuit at any time. -/
theorem step (hm : s.Moves t s') : Sound limits (fun way => sent way ++ t.arrival way) s' := by
  cases hm with
  | arrive hopen => exact hv.step_arrive hresult hopen _
  | @close way =>
      simp only [SpliceTurn.arrival, List.append_nil]
      exact hv.step_uncounted hresult (hv.whole hresult way).close rfl
  | @begin way hst hnone =>
      simp only [SpliceTurn.arrival, List.append_nil]
      refine hv.step_uncounted hresult ((hv.whole hresult way).begin hst hnone) ?_
      simp only [Flow.ahead, hst, hnone, List.nil_append]
  | carry hchunk htakes hfits =>
      simp only [arrival_of_chunk? hchunk, List.append_nil]
      exact hv.step_carry hresult htakes hfits
  | cut hchunk htakes hmax hover =>
      simp only [arrival_of_chunk? hchunk, List.append_nil]
      exact hv.step_cut hresult htakes hmax hover
  | @write way chunk rest n hst =>
      simp only [SpliceTurn.arrival, List.append_nil]
      refine hv.step_uncounted hresult ((hv.whole hresult way).write hst n) ?_
      rw [Flow.ahead_writeSome, Flow.ahead_of_stage]
      rw [hst]
      exact nofun
  | finish hst hnone hclosed =>
      simp only [SpliceTurn.arrival, List.append_nil]
      exact hv.step_finish hresult hst hnone hclosed
  | fail | cancel | expire =>
      simp only [SpliceTurn.arrival, List.append_nil]
      exact hv.step_end hresult nofun nofun

end Sound

/-- The circuit is cut if and only if the next chunk goes beyond the budget. -/
theorem cut_iff {max : Nat} (hresult : s.result = none) (hm : s.Moves t s') :
    s'.result = some (.limited (.data max)) ↔
      s.budget.max = some max ∧
        ∃ chunk, s.chunk? t = some chunk ∧ max < s.budget.used + chunk.length := by
  have hgoes (hnone : s.chunk? t = none) (h : s'.result ≠ some (.limited (.data max))) :
      s'.result = some (.limited (.data max)) ↔ s.budget.max = some max ∧
        ∃ chunk, s.chunk? t = some chunk ∧ max < s.budget.used + chunk.length := by
    refine iff_of_false h ?_
    rintro ⟨-, chunk, hchunk, -⟩
    cases hnone.symm.trans hchunk
  cases hm with
  | arrive | close | write =>
      refine hgoes rfl ?_
      rw [result_setFlow, hresult]
      exact nofun
  | begin hst hnone =>
      refine hgoes ?_ ?_
      · simp only [chunk?, hnone, List.isEmpty_nil, if_true]
      · rw [result_setFlow, hresult]
        exact nofun
  | carry hchunk htakes hfits =>
      refine iff_of_false ?_ ?_
      · rw [result_setFlow]
        exact hresult ▸ nofun
      · rintro ⟨hmax, chunk, hchunk', hover⟩
        cases hchunk.symm.trans hchunk'
        simp only [Budget.exceeds, hmax, Option.any_some, decide_eq_false_iff_not] at hfits
        exact hfits hover
  | cut hchunk htakes hmax hover =>
      rw [result_setFlow]
      constructor
      · intro h
        cases h
        exact ⟨hmax, _, hchunk, hover⟩
      · rintro ⟨hmax', -⟩
        cases hmax.symm.trans hmax'
        rfl
  | finish =>
      refine hgoes rfl ?_
      rw [settle]
      split
      · exact nofun
      · rw [result_setFlow, hresult]
        exact nofun
  | fail | cancel | expire => exact hgoes rfl nofun

/-! ### Progress -/

/-- A circuit that has not ended has a direction that is not done. -/
theorem going_of_moves (hgoing : ∃ way, (s.flow way).stage ≠ .done) (hm : s.Moves t s')
    (hresult : s'.result = none) : ∃ way, (s'.flow way).stage ≠ .done := by
  have hsame {f : Flow} {way : Way} (hf : f.stage = (s.flow way).stage) :
      ∃ w, ((s.setFlow f way).flow w).stage ≠ .done := by
    obtain ⟨w, hw⟩ := hgoing
    refine ⟨w, ?_⟩
    rw [flow_setFlow]
    split
    · rename_i hway
      rw [hf, hway]
      exact hw
    · exact hw
  cases hm with
  | arrive | close => exact hsame rfl
  | @begin way | @carry _ way => exact ⟨way, by simp [Flow.writeChunk]⟩
  | cut =>
      rw [result_setFlow] at hresult
      cases hresult
  | @write way chunk rest n =>
      refine ⟨way, ?_⟩
      rw [flow_setFlow, if_pos rfl, Flow.writeSome]
      cases rest.drop n <;> exact nofun
  | @finish way =>
      rw [settle] at hresult ⊢
      split at hresult
      · cases hresult
      · rename_i hdone
        rw [if_neg hdone]
        by_cases hforth : ((s.setFlow { s.flow way with stage := .done } way).flow .forth).stage = .done
        · exact ⟨.back, fun hback => hdone ⟨hforth, hback⟩⟩
        · exact ⟨.forth, hforth⟩
  | fail | cancel | expire => cases hresult

theorem work_setFlow {k m : Nat} (h : f.work + k ≤ (s.flow way).work + m) :
    (s.setFlow f way).total Flow.work + k ≤ s.total Flow.work + m := by
  have htotal := s.total_setFlow f way Flow.work
  omega

/-- A turn of a direction leaves it less to do; nothing but what arrives makes it more. -/
theorem work_of_moves (hm : s.Moves t s') :
    s'.total Flow.work + (if t.isOwn then 1 else 0) ≤
      s.total Flow.work + 2 * ((t.arrival .forth).length + (t.arrival .back).length) := by
  have hquiet {chunk : Bytes} (h : s.chunk? t = some chunk) :
      (if t.isOwn then 1 else 0) = 1 ∧
        2 * ((t.arrival .forth).length + (t.arrival .back).length) = 0 := by
    rw [arrival_of_chunk? h, arrival_of_chunk? h]
    cases t with
    | begin | read => exact ⟨rfl, rfl⟩
    | _ => cases h
  cases hm with
  | @arrive way bytes =>
      have hbytes : ((SpliceTurn.arrive way bytes).arrival .forth).length +
          ((SpliceTurn.arrive way bytes).arrival .back).length = bytes.length := by
        cases way <;> simp [SpliceTurn.arrival]
      rw [hbytes]
      exact work_setFlow (Flow.work_arrive bytes)
  | close => exact work_setFlow (Nat.le_refl _)
  | begin hst hnone => exact work_setFlow (Flow.work_begin hst hnone)
  | carry hchunk htakes =>
      rw [(hquiet hchunk).1, (hquiet hchunk).2]
      exact work_setFlow htakes.work_carry
  | cut hchunk htakes =>
      rw [(hquiet hchunk).1, (hquiet hchunk).2]
      exact work_setFlow htakes.work_cut
  | write hst hpos hle => exact work_setFlow (Flow.work_write hst hpos hle)
  | @finish way hst =>
      have hsettle (u : Splice) : u.settle.total Flow.work = u.total Flow.work := by
        rw [settle]
        split <;> rfl
      rw [hsettle]
      exact work_setFlow (Flow.work_finish hst)
  | fail | cancel | expire => exact Nat.le_add_right _ _

theorem step?_of_none (hresult : s.result = none) (t : SpliceTurn) : s.step? t = s.turn? t := by
  simp only [step?, hresult, Option.isSome_none, Bool.false_eq_true, if_false]

/-- A direction that is not done takes a turn, or waits for something to arrive. -/
theorem exists_turn {sent : Bytes} {whole : Bool} (hf : (s.flow way).Faithful sent whole)
    (hresult : s.result = none) (hgoing : (s.flow way).stage ≠ .done) :
    (∃ t s', t.isOwn = true ∧ s.step? t = some s') ∨
      (s.flow way).stage = .reading ∧ (s.flow way).arrived = [] ∧ (s.flow way).closed = false := by
  cases hst : (s.flow way).stage with
  | fresh =>
      left
      refine ⟨.begin way, ?_⟩
      simp only [step?_of_none hresult, turn?, hst]
      split
      · exact ⟨_, rfl, rfl⟩
      · exact ⟨_, rfl, rfl⟩
  | reading =>
      cases harrived : (s.flow way).arrived with
      | cons b rest =>
          left
          refine ⟨.read way 1, ?_⟩
          simp [step?_of_none hresult, turn?, hst, harrived, chunkLength, SpliceTurn.isOwn]
      | nil =>
          cases hclosed : (s.flow way).closed with
          | false => exact .inr ⟨rfl, rfl, rfl⟩
          | true =>
              left
              refine ⟨.finish way, ?_⟩
              simp [step?_of_none hresult, turn?, hst, harrived, hclosed, SpliceTurn.isOwn]
  | writing chunk rest =>
      left
      have hpos := List.length_pos_iff.2 (hf.rest chunk rest hst)
      refine ⟨.write way 1, s.setFlow ((s.flow way).writeSome chunk rest 1) way, rfl, ?_⟩
      simp only [step?_of_none hresult, turn?, hst]
      rw [if_neg (by omega)]
  | done => exact absurd hst hgoing

/-! ### Runs -/

theorem run?_cons {ts : List SpliceTurn} {s'' : Splice} (hrun : s.run? (t :: ts) = some s'') :
    ∃ s', s.step? t = some s' ∧ s'.run? ts = some s'' := by
  rw [run?] at hrun
  split at hrun
  · exact ⟨_, ‹_›, hrun⟩
  · cases hrun

/-- What holds at the beginning and is preserved by every turn holds behind every run. -/
theorem run?_induction {motive : List SpliceTurn → Splice → Prop} (hstart : motive [] s)
    (hstep : ∀ done u t u', motive done u → u.result = none → u.Moves t u' →
      motive (done ++ [t]) u') {ts : List SpliceTurn} (hrun : s.run? ts = some s') :
    motive ts s' := by
  suffices h : ∀ done u ts, motive done u → u.run? ts = some s' → motive (done ++ ts) s' from
    h [] s ts hstart hrun
  intro done u ts hu hrun
  induction ts generalizing done u with
  | nil =>
      cases hrun
      rwa [List.append_nil]
  | cons t ts ih =>
      obtain ⟨u', hturn, hrun⟩ := run?_cons hrun
      obtain ⟨hresult, hm⟩ := moves_of_step? hturn
      rw [List.append_cons]
      exact ih _ u' (hstep done u t u' hu hresult hm) hrun

variable {limits : Limits} {leftover : Way → Bytes} {ts : List SpliceTurn}

theorem Sound.run
    (hrun : (Splice.start limits (leftover .forth) (leftover .back)).run? ts = some s) :
    Sound limits (fun way => leftover way ++ arrivals way ts) s := by
  refine run?_induction
    (motive := fun done u => Sound limits (fun way => leftover way ++ arrivals way done) u)
    ?_ (fun done u t u' hu hresult hm => ?_) hrun
  · simpa [arrivals] using Sound.start limits leftover
  · simp only [arrivals_snoc, ← List.append_assoc]
    exact hu.step hresult hm

theorem going_of_run
    (hrun : (Splice.start limits (leftover .forth) (leftover .back)).run? ts = some s) :
    s.result = none → ∃ way, (s.flow way).stage ≠ .done := by
  refine run?_induction (motive := fun _ u => u.result = none → ∃ way, (u.flow way).stage ≠ .done)
    (fun _ => ⟨.forth, FlowStage.noConfusion⟩) (fun _ u t u' hu hresult hm => ?_) hrun
  exact going_of_moves (hu hresult) hm

/-- The turns of the directions are no more than what there is to do. -/
theorem countP_isOwn_le
    (hrun : (Splice.start limits (leftover .forth) (leftover .back)).run? ts = some s) :
    ts.countP (·.isOwn) + s.total Flow.work ≤
      4 + 2 * ((leftover .forth ++ arrivals .forth ts).length +
        (leftover .back ++ arrivals .back ts).length) := by
  refine run?_induction (motive := fun done u => done.countP (·.isOwn) + u.total Flow.work ≤
    4 + 2 * ((leftover .forth ++ arrivals .forth done).length +
      (leftover .back ++ arrivals .back done).length)) ?_ (fun done u t u' hu _ hm => ?_) hrun
  · simp [arrivals, Splice.start, total, Flow.start, Flow.work, Flow.ahead, Flow.held,
      FlowStage.changes]
    omega
  · have hwork := work_of_moves hm
    simp only [arrivals_snoc, List.countP_append, List.countP_singleton, List.length_append]
      at hu ⊢
    omega

/-- **A circuit carries bytes as they come, and within its budget.** Take any turns of the two
directions and of the world around, which lets bytes arrive in any portions and may let a
connection fail or end the circuit at any time. What is sent on either side is what was left over
there, and then what has arrived.

* What is written on the other side is always a beginning of it. Both sides together are never
  written more than the budget.
* What is not ahead of a direction is counted. The circuit is ended by its budget if and only if
  the chunk that is taken up next would go beyond it. So it is not if all that is sent fits, though
  it may fit exactly.
* Once the circuit is closed, everything was written.
* As long as the circuit has not ended, one of its directions goes on, or waits for something to
  arrive. It takes no more turns than there are bytes to read and to write, and two for each
  direction. -/
theorem splice_faithful (limits : Limits) (leftover : Way → Bytes)
    (hrun : (Splice.start limits (leftover .forth) (leftover .back)).run? ts = some s) :
    let sent := fun way => leftover way ++ arrivals way ts
    (∀ way, (s.flow way).written <+: sent way) ∧
    (∀ max, limits.maxData = some max →
      (s.flow .forth).written.length + (s.flow .back).written.length ≤ max) ∧
    s.budget.used + ((s.flow .forth).ahead.length + (s.flow .back).ahead.length) =
      (sent .forth).length + (sent .back).length ∧
    (∀ t s' max, s.step? t = some s' → (s'.result = some (.limited (.data max)) ↔
      limits.maxData = some max ∧
        ∃ chunk, s.chunk? t = some chunk ∧ max < s.budget.used + chunk.length)) ∧
    (∀ max, s.result = some (.limited (.data max)) →
      limits.maxData = some max ∧ max < (sent .forth).length + (sent .back).length) ∧
    (s.result = some .closed → ∀ way, (s.flow way).written = sent way) ∧
    (s.result = none → (∃ t s', t.isOwn = true ∧ s.step? t = some s') ∨
      ∃ way, (s.flow way).stage = .reading ∧ (s.flow way).arrived = [] ∧
        (s.flow way).closed = false) ∧
    ts.countP (·.isOwn) ≤ 4 + 2 * ((sent .forth).length + (sent .back).length) := by
  have hv := Sound.run hrun
  have hsplit (way : Way) : ∃ rest, leftover way ++ arrivals way ts =
      (s.flow way).written ++ rest := by
    obtain ⟨lost, hsent, -⟩ := (hv.flows way).bytes
    exact ⟨_, by rw [hsent, List.append_assoc, List.append_assoc]⟩
  refine ⟨fun way => ?_, fun max hmax => ?_, hv.used, fun t s' max hstep => ?_, fun max hcut => ?_,
    fun hclosed way => ?_, fun hresult => ?_, ?_⟩
  · obtain ⟨rest, hsent⟩ := hsplit way
    exact ⟨rest, hsent.symm⟩
  · have hwithin := hv.within max hmax
    simp only [total, flow] at hwithin ⊢
    omega
  · obtain ⟨hresult, hm⟩ := moves_of_step? hstep
    rw [cut_iff hresult hm, hv.max]
  · obtain ⟨hmax, hover⟩ := hv.cut max hcut
    exact ⟨hmax, Nat.lt_of_lt_of_le hover (Nat.le.intro hv.used)⟩
  · have hdone := hv.closed hclosed way
    have hwhole : s.isCut = false := by simp only [isCut, hclosed]
    obtain ⟨lost, hsent, hlost⟩ := (hv.flows way).bytes
    have harrived := ((hv.flows way).done hdone).1
    rw [hlost (by rw [hwhole]; rfl), Flow.held_of_stage (by simp [hdone]),
      Flow.ahead_of_stage (by simp [hdone]), harrived] at hsent
    simpa using hsent.symm
  · obtain ⟨way, hway⟩ := going_of_run hrun hresult
    exact (exists_turn (hv.flows way) hresult hway).imp_right fun hwaits => ⟨way, hwaits⟩
  · exact Nat.le_trans (Nat.le_add_right _ _) (countP_isOwn_le hrun)

/-- Two bytes are left over and one arrives on one side, two arrive on the other, and all are
written. -/
def fiveTurns : List SpliceTurn :=
  [.begin .forth, .begin .back, .arrive .back [4, 5], .arrive .forth [3], .read .back 2,
    .write .forth 1, .write .back 2, .write .forth 1, .read .forth 1, .write .forth 1]

/-- What is left over there. -/
def twoLeft : Way → Bytes
  | .forth => [1, 2]
  | .back => []

/-- A circuit is closed that carries just as much as it may, and cut by one byte more. -/
theorem splice_faithful_exact :
    let five := Splice.start ⟨none, some 5, none⟩ (twoLeft .forth) (twoLeft .back)
    ∃ s s', five.run? (fiveTurns ++ [.close .back, .finish .back, .close .forth, .finish .forth]) =
        some s ∧ s.result = some .closed ∧ (s.flow .forth).written = [1, 2, 3] ∧
        (s.flow .back).written = [4, 5] ∧
      five.run? (fiveTurns ++ [.arrive .forth [6], .read .forth 1]) = some s' ∧
        s'.result = some (.limited (.data 5)) ∧
        (s'.flow .forth).written.length + (s'.flow .back).written.length ≤ 5 := by
  intro five
  obtain ⟨s, hrun, hclosed⟩ : ∃ s, five.run? (fiveTurns ++
      [.close .back, .finish .back, .close .forth, .finish .forth]) = some s ∧
      s.result = some .closed := ⟨_, rfl, rfl⟩
  obtain ⟨s', hrun', hcut⟩ : ∃ s', five.run? (fiveTurns ++
      [.arrive .forth [6], .read .forth 1]) = some s' ∧
      s'.result = some (.limited (.data 5)) := ⟨_, rfl, rfl⟩
  obtain ⟨-, -, -, -, -, hall, -⟩ := splice_faithful ⟨none, some 5, none⟩ twoLeft hrun
  obtain ⟨-, hwithin, -⟩ := splice_faithful ⟨none, some 5, none⟩ twoLeft hrun'
  exact ⟨s, s', hrun, hclosed, hall hclosed .forth, hall hclosed .back, hrun', hcut,
    hwithin 5 rfl⟩

end Splice

end Rendezvous.Relay
