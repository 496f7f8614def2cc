import GrokDesktop.HostWork.Execution

/-!
# Recovery of Host Work at startup

`recover_host_work` ends what a crash left open: an effect that was being executed needs review,
together with its run; an effect that was only prepared is closed as failed; every other open run is
cancelled or failed. It succeeds exactly when each executing effect can take its run along, which a
run does for one effect only, and when the clock is not behind the runs it moves. Approvals are not
touched.
-/

namespace GrokDesktop

open Table List Option

/-- The recovery leaves the run alone. -/
def Run.isSettled (run : Run) : Bool :=
  run.state = .interruptedNeedsReview || run.state.isTerminal

namespace HostWork

open Except Machine

/-- A clock reading of the recovery. -/
inductive Reading where
  | start (id : EffectId)
  | finish (id : EffectId)
  | interrupt (id : EffectId)
  | close (id : RunId)

def maxHostWorkRecoveryBatch : ℕ := 100

namespace ExecutionState

variable {s s' : ExecutionState} {clock : Reading → UnixMillis}

/-! ## The recovery -/

def isHostRun (s : ExecutionState) (id : RunId) : Bool :=
  (s.runs.lookup id).any fun run => run.isWorkBoundTo .hostDirect

/-- A file or process effect of a run that is bound to the host. -/
def isHostEffect (s : ExecutionState) (effect : SideEffect) : Bool :=
  (effect.kind = .fileWrite || effect.kind = .processExecution) && s.isHostRun effect.runId

def incompleteHostEffects (s : ExecutionState) : List SideEffect :=
  s.effects.values.filter fun effect =>
    s.isHostEffect effect && (effect.state = .prepared || effect.state = .executing)

def isOpenHostRun (run : Run) : Bool := run.isWorkBoundTo .hostDirect && !run.state.isTerminal

/-- The host runs that are not terminal. -/
def openHostRuns (s : ExecutionState) : List Run := s.runs.values.filter isOpenHostRun

/-- The first entries of a listing, by the time of creation and the identifier. -/
def listing {α : Type} (createdAt : α → UnixMillis) (id : α → String) (limit : ℕ) (l : List α) :
    Except ApplicationError (List α) := do
  rejectIf (limit = 0 ∨ 1000 < limit) (.ofStore (.internal "invalid recovery limit"))
  return (l.insertionSort fun a b =>
    createdAt a < createdAt b ∨ createdAt a = createdAt b ∧ id a ≤ id b).take limit

def listRecoverableHostEffects (s : ExecutionState) (limit : ℕ) :
    Except ApplicationError (List SideEffect) :=
  listing SideEffect.createdAt (fun effect => effect.id.value) limit s.incompleteHostEffects

def listRecoverableHostRuns (s : ExecutionState) (limit : ℕ) :
    Except ApplicationError (List Run) :=
  listing Run.createdAt (fun run => run.id.value) limit s.openHostRuns

/-- The recovery of one effect. -/
def recoverEffect (clock : Reading → UnixMillis) (s : ExecutionState) (effect : SideEffect) :
    Except ApplicationError ExecutionState :=
  match effect.state with
  | .executing => do
      let (_, s) ← s.interrupt effect.id effect.revision (clock (.interrupt effect.id))
      return s
  | .prepared => do
      let (executing, s) ← s.start effect.id effect.revision (clock (.start effect.id))
      let (_, s) ← s.finish executing.id executing.revision false (clock (.finish effect.id))
      return s
  | .succeeded | .failed | .needsReview => return s

/-- The recovery of one run. -/
def recoverRun (clock : Reading → UnixMillis) (s : ExecutionState) (stale : Run) :
    Except ApplicationError ExecutionState := do
  let current ← okOr (s.runs.lookup stale.id) .notFound
  if current.isSettled then return s
  else
    let next : RunState := if current.state = .queued then .cancelled else .failed
    let (_, s) ← s.transition current.id current.revision next (clock (.close current.id))
    return s

def recoverHostWork (clock : Reading → UnixMillis) (s : ExecutionState) :
    Except ApplicationError ExecutionState := do
  let incomplete ← s.listRecoverableHostEffects (maxHostWorkRecoveryBatch + 1)
  rejectIf (maxHostWorkRecoveryBatch < incomplete.length)
    (.unavailable "Host Work recovery backlog exceeds the bounded startup pass")
  let s ← incomplete.foldlM (recoverEffect clock) s
  let recoverable ← s.listRecoverableHostRuns (maxHostWorkRecoveryBatch + 1)
  rejectIf (maxHostWorkRecoveryBatch < recoverable.length)
    (.unavailable "Host Work run recovery backlog exceeds the bounded startup pass")
  recoverable.foldlM (recoverRun clock) s

/-! ## What the tables look like -/

/-- Entries are stored under their own identifiers, an effect has a run, and its revision tells how
often it was moved. -/
structure Keyed (runs : Table RunId Run) (effects : Table EffectId SideEffect) : Prop where
  run : ∀ id run, runs.lookup id = some run → run.id = id
  effect : ∀ id effect, effects.lookup id = some effect → effect.id = id ∧
    (runs.lookup effect.runId).isSome ∧ (effect.state = .prepared → effect.revision = 0) ∧
      (effect.state = .executing → effect.revision = 1)

lemma Keyed.insert_run {runs : Table RunId Run} {effects : Table EffectId SideEffect} {id : RunId}
    {run : Run} (h : Keyed runs effects) (hid : run.id = id) :
    Keyed (runs.insert id run) effects := by
  refine ⟨?_, ?_⟩
  · intro id' run' hrun'
    rcases lookup_insert_cases hrun' with hold | ⟨rfl, rfl⟩
    · exact h.run id' run' hold
    · exact hid
  · intro id' effect heff
    obtain ⟨hkey, hrun, hrev⟩ := h.effect id' effect heff
    refine ⟨hkey, ?_, hrev⟩
    rw [lookup_insert]
    split
    · rfl
    · exact hrun

lemma Keyed.insert_moved {id : EffectId} {next : EffectState} {now : UnixMillis}
    {effect : SideEffect} (h : Keyed s.runs s.effects) (heff : s.effects.lookup id = some effect)
    (hperm : SideEffect.permits effect.state next = true) :
    Keyed s.runs (s.effects.insert id (effect.moved next now)) := by
  obtain ⟨hkey, hrun, hprep, -⟩ := h.effect id effect heff
  refine ⟨h.run, ?_⟩
  intro id' effect' heff'
  rcases lookup_insert_cases heff' with hold | ⟨rfl, rfl⟩
  · exact h.effect id' effect' hold
  · refine ⟨hkey, hrun, ?_, ?_⟩
    · rintro rfl
      cases hcase : effect.state <;> simp_all [SideEffect.permits]
    · rintro rfl
      cases hcase : effect.state <;> simp_all [SideEffect.permits, SideEffect.moved]

/-- Every call keeps the tables in order. -/
theorem Keyed.step {e : Event} (h : Keyed s.runs s.effects) (hstep : s.step e = some s') :
    Keyed s'.runs s'.effects := by
  cases e with
  | createWork id projectId threadId now =>
    obtain ⟨out, hout, rfl⟩ := committed_eq_some.1 hstep
    simp only [createWork, bind_eq_ok, pure_eq_ok, Except.ok.injEq] at hout
    obtain ⟨_, _, rfl⟩ := hout
    exact h.insert_run rfl
  | transition id expected next now =>
    rw [ExecutionState.step, ite_none_right_eq_some] at hstep
    obtain ⟨out, hout, rfl⟩ := committed_eq_some.1 hstep.2
    obtain ⟨run, hrun, -, -, rfl⟩ := transition_eq_ok.1 hout
    exact h.insert_run (h.run id run hrun)
  | request input id now =>
    obtain ⟨out, hout, rfl⟩ := committed_eq_some.1 hstep
    obtain ⟨run, hrun, -, -, -, -, hsta⟩ := request_eq_ok hout
    rw [hsta]
    exact h.insert_run (h.run _ run hrun)
  | decide id expected decision command now =>
    obtain ⟨out, hout, rfl⟩ := committed_eq_some.1 hstep
    rcases decide_eq_ok hout with ⟨outcome, -, rfl⟩ | hcommit
    · exact h
    · obtain ⟨_, _, run, _, -, -, hrun, -, -, -, hsta⟩ := commitDecision_eq_ok hcommit
      rw [hsta]
      exact h.insert_run (h.run _ run hrun)
  | prepare input id now =>
    obtain ⟨out, hout, rfl⟩ := committed_eq_some.1 hstep
    simp only [prepare, bind_eq_ok, okOr_eq_ok, pure_eq_ok, Except.ok.injEq] at hout
    obtain ⟨run, hrun, _, _, _, _, _, _, rfl⟩ := hout
    refine ⟨h.run, ?_⟩
    intro id' effect' heff'
    rcases lookup_insert_cases heff' with hold | ⟨rfl, rfl⟩
    · exact h.effect id' effect' hold
    · refine ⟨rfl, by simp [SideEffect.prepare, hrun], fun _ => rfl, fun hsta => ?_⟩
      cases hsta
  | start id expected now | finish id expected succeeded now =>
    obtain ⟨out, hout, rfl⟩ := committed_eq_some.1 hstep
    obtain ⟨_, heff, -, hperm, -, rfl⟩ := moveEffect_eq_ok.1 hout
    exact h.insert_moved heff hperm
  | interrupt id expected now =>
    obtain ⟨out, hout, rfl⟩ := committed_eq_some.1 hstep
    obtain ⟨_, run, heff, -, hperm, -, hrun, -, rfl⟩ := interrupt_eq_ok.1 hout
    exact (h.insert_moved heff hperm).insert_run (h.run _ run hrun)
  | dispatch what =>
    obtain rfl := some.inj hstep
    exact h

/-- Reachable stores are keyed. -/
lemma keyed_of_reaches {allowed : ExecutionState → Event → Bool}
    (h : Reaches step allowed {} s) : Keyed s.runs s.effects := by
  refine h.invariant (P := fun s => Keyed s.runs s.effects) ⟨?_, ?_⟩ fun _ _ _ hkey _ =>
    hkey.step
  · intro id run hrun
    simp at hrun
  · intro id effect heff
    simp at heff

/-! ## The effects -/

/-- The run of the effect can be moved along with it. -/
def Interruptible (clock : Reading → UnixMillis) (s : ExecutionState) (effect : SideEffect) :
    Prop :=
  ∃ run, s.runs.lookup effect.runId = some run ∧
    run.CanAdvance .interruptedNeedsReview (clock (.interrupt effect.id))

/-- What the recovery of some effects has done to the store. -/
structure EffectsRecovered (s₀ : ExecutionState) (done : List SideEffect) (s : ExecutionState) :
    Prop where
  approvals : s.approvals = s₀.approvals
  dispatched : s.dispatched = s₀.dispatched
  keptRun : ∀ id, (∀ effect ∈ done, effect.state = .executing → effect.runId ≠ id) →
    s.runs.lookup id = s₀.runs.lookup id
  movedRun : ∀ effect ∈ done, effect.state = .executing → ∃ run now,
    s₀.runs.lookup effect.runId = some run ∧
      s.runs.lookup effect.runId = some (run.moved .interruptedNeedsReview now)
  openRuns : s.runs.values.countP isOpenHostRun = s₀.runs.values.countP isOpenHostRun
  keptEffect : ∀ id, (∀ effect ∈ done, effect.id ≠ id) → s.effects.lookup id = s₀.effects.lookup id
  movedEffect : ∀ effect ∈ done, ∃ effect', s.effects.lookup effect.id = some effect' ∧
    (effect'.state = .failed ∨ effect'.state = .needsReview)

section Effects

variable {s₀ : ExecutionState} {done : List SideEffect} {effect effect' : SideEffect}

/-- A prepared effect is closed without looking at its run. -/
lemma recoverEffect_prepared (clock : Reading → UnixMillis)
    (heff : s.effects.lookup effect.id = some effect) (hsta : effect.state = .prepared)
    (hrev : effect.revision = 0) :
    ∃ effect', effect'.state = .failed ∧
      recoverEffect clock s effect
        = .ok { s with effects := s.effects.insert effect.id effect' } := by
  refine ⟨(effect.moved .executing (clock (.start effect.id))).moved .failed
    (clock (.finish effect.id)), rfl, ?_⟩
  rw [recoverEffect, hsta]
  simp only [bind_eq_ok, start, finish, moveEffect_eq_ok]
  refine ⟨_, ⟨effect, heff, rfl, by rw [hsta]; rfl, by rw [hrev]; decide, rfl⟩, _,
    ⟨_, lookup_insert_self .., rfl, rfl, ?_, rfl⟩, ?_⟩
  · change effect.revision + 1 < u64Max
    rw [hrev]
    decide
  · simp [SideEffect.moved]

/-- An executing effect is recovered together with its run. -/
lemma recoverEffect_executing (heff : s.effects.lookup effect.id = some effect)
    (hsta : effect.state = .executing) (hrev : effect.revision = 1) :
    recoverEffect clock s effect = .ok s' ↔
      ∃ run, s.runs.lookup effect.runId = some run ∧
        run.CanAdvance .interruptedNeedsReview (clock (.interrupt effect.id)) ∧
        s' = { s with
          effects := s.effects.insert effect.id
            (effect.moved .needsReview (clock (.interrupt effect.id)))
          runs := s.runs.insert effect.runId
            (run.moved .interruptedNeedsReview (clock (.interrupt effect.id))) } := by
  rw [recoverEffect, hsta]
  simp only [bind_eq_ok, interrupt_eq_ok, pure_eq_ok, Except.ok.injEq, heff, some.injEq]
  constructor
  · rintro ⟨_, ⟨_, run, rfl, -, -, -, hrun, hcan, rfl⟩, rfl⟩
    exact ⟨run, hrun, hcan, rfl⟩
  · rintro ⟨run, hrun, hcan, rfl⟩
    refine ⟨_, ⟨effect, run, rfl, rfl, by rw [hsta]; rfl, ?_, hrun, hcan, rfl⟩, rfl⟩
    rw [hrev]
    decide

/-- The recovery of one more effect adds to what was done. -/
lemma EffectsRecovered.snoc {runs : Table RunId Run} (h : EffectsRecovered s₀ done s)
    (hclo : effect'.state = .failed ∨ effect'.state = .needsReview)
    (hkept : ∀ id, (effect.state = .executing → effect.runId ≠ id) →
      runs.lookup id = s.runs.lookup id)
    (hmov : effect.state = .executing → ∃ run now, s₀.runs.lookup effect.runId = some run ∧
      runs.lookup effect.runId = some (run.moved .interruptedNeedsReview now))
    (hopen : runs.values.countP isOpenHostRun = s.runs.values.countP isOpenHostRun) :
    EffectsRecovered s₀ (done ++ [effect])
      { s with effects := s.effects.insert effect.id effect', runs := runs } := by
  refine ⟨h.approvals, h.dispatched, ?_, ?_, hopen.trans h.openRuns, ?_, ?_⟩
  · intro id hdone
    rw [hkept id (hdone effect (by simp))]
    exact h.keptRun id fun e he => hdone e (mem_append_left _ he)
  · intro e he hexe
    by_cases hid : effect.state = .executing ∧ effect.runId = e.runId
    · rw [← hid.2]
      exact hmov hid.1
    · rw [hkept e.runId fun hsta heq => hid ⟨hsta, heq⟩]
      rcases mem_append.1 he with he | he
      · exact h.movedRun e he hexe
      · obtain rfl := mem_singleton.1 he
        exact absurd ⟨hexe, rfl⟩ hid
  · intro id hdone
    rw [lookup_insert_of_ne _ _ (hdone effect (by simp)).symm]
    exact h.keptEffect id fun e he => hdone e (mem_append_left _ he)
  · intro e he
    by_cases hid : e.id = effect.id
    · exact ⟨effect', by rw [hid, lookup_insert_self], hclo⟩
    · rw [lookup_insert_of_ne _ _ hid]
      rcases mem_append.1 he with he | he
      · exact h.movedEffect e he
      · exact absurd (by rw [mem_singleton.1 he]) hid

/-- An effect that is prepared or executing, at the revision that belongs to its state. -/
def Pending (effect : SideEffect) : Prop :=
  effect.state = .prepared ∧ effect.revision = 0 ∨ effect.state = .executing ∧ effect.revision = 1

/-- Two effects that cannot both take their run along. -/
def Apart (effect other : SideEffect) : Prop :=
  effect.state = .executing → other.state = .executing → effect.runId ≠ other.runId

/-- When the next effect can be recovered, and that this adds to what was done. -/
theorem EffectsRecovered.step (h : EffectsRecovered s₀ done s)
    (heff : s.effects.lookup effect.id = some effect) (hpend : Pending effect) :
    ((∃ s', recoverEffect clock s effect = .ok s') ↔
      (effect.state = .executing → Interruptible clock s₀ effect) ∧ ∀ e ∈ done, Apart e effect) ∧
      ∀ s', recoverEffect clock s effect = .ok s' → EffectsRecovered s₀ (done ++ [effect]) s' := by
  rcases hpend with ⟨hsta, hrev⟩ | ⟨hsta, hrev⟩
  · obtain ⟨effect', hfail, hok⟩ := recoverEffect_prepared clock heff hsta hrev
    have hnot : effect.state ≠ .executing := by simp [hsta]
    refine ⟨⟨fun _ => ⟨fun hexe => absurd hexe hnot, fun _ _ _ hexe =>
      absurd hexe hnot⟩, fun _ => ⟨_, hok⟩⟩, ?_⟩
    intro s' hs'
    obtain rfl := Except.ok.inj (hok.symm.trans hs')
    exact h.snoc (.inl hfail) (fun _ _ => rfl) (fun hexe => absurd hexe hnot) rfl
  · simp only [recoverEffect_executing heff hsta hrev]
    -- A run that was moved along with an earlier effect cannot be moved again.
    have hoth : ∀ run, s.runs.lookup effect.runId = some run →
        run.CanAdvance .interruptedNeedsReview (clock (.interrupt effect.id)) →
        ∀ e ∈ done, e.state = .executing → e.runId ≠ effect.runId := by
      intro run hrun hcan e he hexe hid
      obtain ⟨old, now, -, hmov⟩ := h.movedRun e he hexe
      rw [hid, hrun] at hmov
      rw [some.inj hmov] at hcan
      exact absurd hcan.1 (by simp [Run.moved, RunState.permits])
    refine ⟨⟨?_, ?_⟩, ?_⟩
    · rintro ⟨_, run, hrun, hcan, rfl⟩
      have hdone := hoth run hrun hcan
      exact ⟨fun _ => ⟨run, (h.keptRun _ hdone).symm.trans hrun, hcan⟩,
        fun e he hexe _ => hdone e he hexe⟩
    · rintro ⟨hrdy, hdone⟩
      obtain ⟨run, hrun, hcan⟩ := hrdy hsta
      refine ⟨_, run, (h.keptRun _ ?_).trans hrun, hcan, rfl⟩
      exact fun e he hexe => hdone e he hexe hsta
    · rintro s' ⟨run, hrun, hcan, rfl⟩
      refine h.snoc (.inr rfl) ?_ ?_ ?_
      · intro id hid
        exact lookup_insert_of_ne _ _ (hid hsta).symm
      · intro _
        exact ⟨run, _, (h.keptRun _ (hoth run hrun hcan)).symm.trans hrun, lookup_insert_self ..⟩
      · have hcnt := countP_values_insert s.runs effect.runId
          (run.moved .interruptedNeedsReview (clock (.interrupt effect.id))) isOpenHostRun
        have hopen : run.state.isTerminal = false := by
          have hperm := hcan.1
          revert hperm
          cases run.state <;> simp [RunState.permits, RunState.isTerminal]
        have hsame : isOpenHostRun (run.moved .interruptedNeedsReview
            (clock (.interrupt effect.id))) = isOpenHostRun run := by
          rw [isOpenHostRun, isOpenHostRun, hopen]
          rfl
        rw [hrun, toList_some, countP_singleton, countP_singleton, hsame] at hcnt
        exact Nat.add_right_cancel hcnt

end Effects

/-! ## The runs -/

def Closable (clock : Reading → UnixMillis) (run : Run) : Prop :=
  run.isSettled = true ∨ run.updatedAt ≤ clock (.close run.id) ∧ run.revision < u64Max

/-- What the recovery of some runs has done to the store. -/
structure RunsRecovered (s₁ : ExecutionState) (done : List Run) (s : ExecutionState) : Prop where
  approvals : s.approvals = s₁.approvals
  dispatched : s.dispatched = s₁.dispatched
  effects : s.effects = s₁.effects
  kept : ∀ id, (∀ run ∈ done, run.id ≠ id) → s.runs.lookup id = s₁.runs.lookup id
  moved : ∀ run ∈ done, ∃ run', s.runs.lookup run.id = some run' ∧ run'.isSettled = true ∧
    run'.isWorkBoundTo .hostDirect = run.isWorkBoundTo .hostDirect

section Runs

variable {s₁ : ExecutionState} {done : List Run} {run : Run}

/-- When a run can be recovered, and what that does. -/
lemma recoverRun_eq_ok (hrun : s.runs.lookup run.id = some run) :
    recoverRun clock s run = .ok s' ↔ Closable clock run ∧
      s' = if run.isSettled then s else { s with
        runs := s.runs.insert run.id (run.moved
          (if run.state = .queued then .cancelled else .failed) (clock (.close run.id))) } := by
  simp only [recoverRun, hrun, okOr_some, ok_bind, Closable]
  by_cases hset : run.isSettled = true
  · simp [hset, eq_comm]
  · have hperm :
        run.state.permits (if run.state = .queued then .cancelled else .failed) = true := by
      revert hset
      rw [Run.isSettled]
      cases run.state <;> simp [RunState.permits, RunState.isTerminal]
    rw [if_neg hset, if_neg hset, or_iff_right hset]
    simp only [bind_eq_ok, transition_eq_ok, hrun, some.injEq, pure_eq_ok, Except.ok.injEq]
    constructor
    · rintro ⟨_, ⟨_, rfl, -, hcan, rfl⟩, rfl⟩
      exact ⟨hcan.2, rfl⟩
    · rintro ⟨hcan, rfl⟩
      exact ⟨_, ⟨run, rfl, rfl, ⟨hperm, hcan⟩, rfl⟩, rfl⟩

/-- The recovery of one more run adds to what was done. -/
theorem RunsRecovered.step (h : RunsRecovered s₁ done s) (hnew : ∀ r ∈ done, r.id ≠ run.id)
    (hrun : s.runs.lookup run.id = some run) (hs' : recoverRun clock s run = .ok s') :
    RunsRecovered s₁ (done ++ [run]) s' := by
  obtain ⟨runs, run', rfl, hkept, hget, hmov⟩ : ∃ runs run', s' = { s with runs := runs } ∧
      (∀ id, id ≠ run.id → runs.lookup id = s.runs.lookup id) ∧ runs.lookup run.id = some run' ∧
      run'.isSettled = true ∧
      run'.isWorkBoundTo .hostDirect = run.isWorkBoundTo .hostDirect := by
    obtain ⟨-, rfl⟩ := (recoverRun_eq_ok hrun).1 hs'
    by_cases hset : run.isSettled = true
    · exact ⟨s.runs, run, by rw [if_pos hset], fun _ _ => rfl, hrun, hset, rfl⟩
    · refine ⟨_, _, if_neg hset, fun id hid => lookup_insert_of_ne _ _ hid,
        lookup_insert_self .., ?_, ?_⟩
      · by_cases hque : run.state = .queued <;>
          simp [Run.isSettled, Run.moved, hque, RunState.isTerminal]
      · rfl
  refine ⟨h.approvals, h.dispatched, h.effects, ?_, ?_⟩
  · intro id hdone
    rw [hkept id (hdone run (by simp)).symm]
    exact h.kept id fun r hr => hdone r (mem_append_left _ hr)
  · intro r hr
    rcases mem_append.1 hr with hr | hr
    · rw [hkept r.id (hnew r hr)]
      exact h.moved r hr
    · rw [mem_singleton.1 hr]
      exact ⟨run', hget, hmov⟩

end Runs

/-! ## The whole pass -/

/-- A listing of a batch is the whole batch. -/
lemma listing_eq_ok {α : Type} {createdAt : α → UnixMillis} {id : α → String} {l : List α}
    (h : l.length ≤ maxHostWorkRecoveryBatch) :
    ∃ l', listing createdAt id (maxHostWorkRecoveryBatch + 1) l = .ok l' ∧ l'.Perm l := by
  refine ⟨_, rfl, ?_⟩
  rw [take_of_length_le]
  · exact perm_insertionSort _ _
  · rw [length_insertionSort]
    exact Nat.le_succ_of_le h

/-- The effects that the recovery finds. -/
lemma mem_incompleteHostEffects (h : Keyed s.runs s.effects) {effect : SideEffect} :
    effect ∈ s.incompleteHostEffects ↔ s.effects.lookup effect.id = some effect ∧
      s.isHostEffect effect = true ∧ Pending effect := by
  rw [incompleteHostEffects, mem_filter, mem_values]
  constructor
  · rintro ⟨⟨id, heff⟩, hhost⟩
    obtain ⟨rfl, -, hprep, hexe⟩ := h.effect id effect heff
    rw [Bool.and_eq_true, Bool.or_eq_true, decide_eq_true_iff, decide_eq_true_iff] at hhost
    exact ⟨heff, hhost.1, hhost.2.imp (fun h => ⟨h, hprep h⟩) fun h => ⟨h, hexe h⟩⟩
  · rintro ⟨heff, hhost, hpend⟩
    refine ⟨⟨_, heff⟩, ?_⟩
    rcases hpend with ⟨hsta, -⟩ | ⟨hsta, -⟩ <;> simp [hhost, hsta]

/-- The runs that the recovery finds. -/
lemma mem_openHostRuns (h : ∀ id run, s.runs.lookup id = some run → run.id = id) {run : Run} :
    run ∈ s.openHostRuns ↔ s.runs.lookup run.id = some run ∧ isOpenHostRun run = true := by
  rw [openHostRuns, mem_filter, mem_values]
  refine and_congr_left fun _ => ⟨?_, fun hrun => ⟨_, hrun⟩⟩
  rintro ⟨id, hrun⟩
  rwa [h id run hrun]

/-- What the recovery has to achieve. -/
structure Recovered (s s' : ExecutionState) : Prop where
  effects : s'.incompleteHostEffects = []
  runs : ∀ id run, s'.runs.lookup id = some run → run.isWorkBoundTo .hostDirect = true →
    run.isSettled = true
  approvals : ∀ id approval, s'.approvals.lookup id = some approval →
    s'.isHostRun approval.runId = true → approval.status ≠ .pending
  dispatched : s'.dispatched = s.dispatched

/-- Each executing effect can take its run along and is the only one of its run, the clock is not
behind the open runs, and no approval of a host run is pending. -/
structure Recoverable (clock : Reading → UnixMillis) (s : ExecutionState) : Prop where
  interruptible : ∀ effect ∈ s.incompleteHostEffects, effect.state = .executing →
    Interruptible clock s effect
  alone : s.incompleteHostEffects.Pairwise Apart
  closable : ∀ run ∈ s.openHostRuns, Closable clock run ∨
    ∃ effect ∈ s.incompleteHostEffects, effect.state = .executing ∧ effect.runId = run.id
  decided : ∀ id approval, s.approvals.lookup id = some approval →
    s.isHostRun approval.runId = true → approval.status ≠ .pending

section Pass

variable {s₀ s₁ : ExecutionState} {effects : List SideEffect} {runs : List Run}

/-- The recovery of all effects. -/
lemma recoverEffects (clock : Reading → UnixMillis)
    (hkey : Keyed s.runs s.effects) (hperm : effects.Perm s.incompleteHostEffects) :
    ((∃ s₁, effects.foldlM (recoverEffect clock) s = .ok s₁) ↔
      (∀ effect ∈ effects, effect.state = .executing → Interruptible clock s effect) ∧
        effects.Pairwise Apart) ∧
    ∀ s₁, effects.foldlM (recoverEffect clock) s = .ok s₁ → EffectsRecovered s effects s₁ := by
  have hnd : (effects.map SideEffect.id).Nodup := by
    rw [(hperm.map _).nodup_iff]
    exact (nodup_map_values fun k v hv => (hkey.effect k v hv).1).sublist
      (filter_sublist.map _)
  refine foldlM_pairwise hnd
    ⟨rfl, rfl, fun _ _ => rfl, by simp, rfl, fun _ _ => rfl, by simp⟩ ?_
  intro done effect s' heff hnew hdone
  obtain ⟨hget, -, hpend⟩ := (mem_incompleteHostEffects hkey).1 (hperm.mem_iff.1 heff)
  refine hdone.step ?_ hpend
  rw [hdone.keptEffect effect.id hnew, hget]

/-- The recovery of all runs. -/
lemma recoverRuns (clock : Reading → UnixMillis)
    (hkey : ∀ id run, s₁.runs.lookup id = some run → run.id = id)
    (hperm : runs.Perm s₁.openHostRuns) :
    ((∃ s₂, runs.foldlM (recoverRun clock) s₁ = .ok s₂) ↔ ∀ run ∈ runs, Closable clock run) ∧
      ∀ s₂, runs.foldlM (recoverRun clock) s₁ = .ok s₂ → RunsRecovered s₁ runs s₂ := by
  have hnd : (runs.map Run.id).Nodup := by
    rw [(hperm.map _).nodup_iff]
    exact (nodup_map_values hkey).sublist (filter_sublist.map _)
  have hfold := foldlM_pairwise (P := RunsRecovered s₁) (A := Closable clock) (R := fun _ _ => True)
    (f := recoverRun clock) hnd ⟨rfl, rfl, rfl, fun _ _ => rfl, by simp⟩ ?_
  · rwa [and_iff_left (pairwise_iff_getElem.2 fun _ _ _ _ _ => trivial)] at hfold
  · intro done run s hrun hnew hdone
    have hget : s.runs.lookup run.id = some run := by
      rw [hdone.kept run.id hnew]
      exact ((mem_openHostRuns hkey).1 (hperm.mem_iff.1 hrun)).1
    refine ⟨?_, fun s' => hdone.step hnew hget⟩
    simp only [recoverRun_eq_ok hget]
    simp

section

variable (h : EffectsRecovered s₀ effects s)
include h

/-- While effects are recovered, the runs of those that were executing are moved and the others are
kept. -/
lemma EffectsRecovered.lookup_run (id : RunId) :
    (∃ effect ∈ effects, effect.state = .executing ∧ effect.runId = id) ∧
        (∃ run now, s₀.runs.lookup id = some run ∧
          s.runs.lookup id = some (run.moved .interruptedNeedsReview now)) ∨
      (¬ ∃ effect ∈ effects, effect.state = .executing ∧ effect.runId = id) ∧
        s.runs.lookup id = s₀.runs.lookup id := by
  by_cases hmov : ∃ effect ∈ effects, effect.state = .executing ∧ effect.runId = id
  · refine .inl ⟨hmov, ?_⟩
    obtain ⟨effect, heff, hexe, rfl⟩ := hmov
    exact h.movedRun effect heff hexe
  · refine .inr ⟨hmov, h.keptRun id ?_⟩
    exact fun effect heff hexe hid => hmov ⟨effect, heff, hexe, hid⟩

lemma EffectsRecovered.isHostRun (id : RunId) :
    s.isHostRun id = s₀.isHostRun id := by
  unfold ExecutionState.isHostRun
  rcases h.lookup_run id with ⟨-, run, now, hrun, hrun'⟩ | ⟨-, hsame⟩
  · rw [hrun, hrun']
    rfl
  · rw [hsame]

lemma EffectsRecovered.keyed
    (hkey : Keyed s₀.runs s₀.effects) : ∀ id run, s.runs.lookup id = some run → run.id = id := by
  intro id run hrun
  rcases h.lookup_run id with ⟨-, old, now, hold, hmov⟩ | ⟨-, hsame⟩
  · rw [hmov] at hrun
    rw [← some.inj hrun]
    exact hkey.run id old hold
  · exact hkey.run id run (hsame.symm.trans hrun)

/-- Which runs are left to close after the effects were recovered. -/
lemma EffectsRecovered.closable_iff (hkey : Keyed s₀.runs s₀.effects) :
    (∀ run ∈ s.openHostRuns, Closable clock run) ↔ ∀ run ∈ s₀.openHostRuns, Closable clock run ∨
      ∃ effect ∈ effects, effect.state = .executing ∧ effect.runId = run.id := by
  constructor
  · intro hall run hrun
    obtain ⟨hget, hopen⟩ := (mem_openHostRuns hkey.run).1 hrun
    rcases h.lookup_run run.id with ⟨hmov, -⟩ | ⟨-, hsame⟩
    · exact .inr hmov
    · exact .inl (hall run ((mem_openHostRuns (h.keyed hkey)).2 ⟨hsame.trans hget, hopen⟩))
  · intro hall run hrun
    obtain ⟨hget, hopen⟩ := (mem_openHostRuns (h.keyed hkey)).1 hrun
    rcases h.lookup_run run.id with ⟨-, old, now, -, hmov⟩ | ⟨hnot, hsame⟩
    · rw [mem_unique hget hmov]
      exact .inl rfl
    · have hrun' := (mem_openHostRuns hkey.run).2 ⟨hsame.symm.trans hget, hopen⟩
      exact (hall run hrun').resolve_right hnot

end

/-- Runs stay bound as they are while runs are closed. -/
lemma RunsRecovered.isHostRun {done : List Run} (h : RunsRecovered s₁ done s)
    (hdone : ∀ run ∈ done, s₁.runs.lookup run.id = some run) (id : RunId) :
    s.isHostRun id = s₁.isHostRun id := by
  unfold ExecutionState.isHostRun
  by_cases hmov : ∃ run ∈ done, run.id = id
  · obtain ⟨run, hrun, rfl⟩ := hmov
    obtain ⟨run', hrun', -, hbound⟩ := h.moved run hrun
    rw [hrun', hdone run hrun, any_some, any_some, hbound]
  · rw [h.kept id fun run hrun hid => hmov ⟨run, hrun, hid⟩]

/-- After the whole pass everything is closed; only a pending approval can be in the way. -/
lemma recovered_iff (hkey : Keyed s₀.runs s₀.effects)
    (heffects : effects.Perm s₀.incompleteHostEffects) (h₁ : EffectsRecovered s₀ effects s₁)
    (hruns : runs.Perm s₁.openHostRuns) (h₂ : RunsRecovered s₁ runs s) :
    Recovered s₀ s ↔ ∀ id approval, s₀.approvals.lookup id = some approval →
      s₀.isHostRun approval.runId = true → approval.status ≠ .pending := by
  have hlist : ∀ run, run ∈ runs ↔ s₁.runs.lookup run.id = some run ∧ isOpenHostRun run = true :=
    fun run => hruns.mem_iff.trans (mem_openHostRuns (h₁.keyed hkey))
  have hhost : ∀ id, s.isHostRun id = s₀.isHostRun id := fun id =>
    (h₂.isHostRun (fun run hrun => ((hlist run).1 hrun).1) id).trans (h₁.isHostRun id)
  constructor
  · intro hrec id approval happr hbound
    refine hrec.approvals id approval ?_ ((hhost _).trans hbound)
    rw [h₂.approvals, h₁.approvals, happr]
  · intro hdec
    refine ⟨?_, ?_, ?_, h₂.dispatched.trans h₁.dispatched⟩
    · refine filter_eq_nil_iff.2 fun effect heff hinc => ?_
      obtain ⟨id, hget⟩ := mem_values.1 heff
      rw [h₂.effects] at hget
      by_cases hmov : ∃ e ∈ effects, e.id = id
      · obtain ⟨e, he, rfl⟩ := hmov
        obtain ⟨effect', hget', hclo⟩ := h₁.movedEffect e he
        obtain rfl := mem_unique hget hget'
        rcases hclo with hclo | hclo <;> simp [hclo] at hinc
      · rw [h₁.keptEffect id fun e he hid => hmov ⟨e, he, hid⟩] at hget
        refine hmov ⟨effect, heffects.mem_iff.2 ?_, (hkey.effect id effect hget).1⟩
        rw [isHostEffect, hhost] at hinc
        exact mem_filter.2 ⟨mem_values.2 ⟨id, hget⟩, hinc⟩
    · intro id run hrun hbound
      by_cases hmov : ∃ r ∈ runs, r.id = id
      · obtain ⟨r, hr, rfl⟩ := hmov
        obtain ⟨run', hrun', hset, -⟩ := h₂.moved r hr
        rwa [mem_unique hrun hrun']
      · rw [h₂.kept id fun r hr hid => hmov ⟨r, hr, hid⟩] at hrun
        obtain rfl := h₁.keyed hkey id run hrun
        by_contra hset
        rw [Run.isSettled, Bool.or_eq_true, not_or] at hset
        exact hmov ⟨run, (hlist run).2 ⟨hrun, by simp [isOpenHostRun, hbound, hset.2]⟩, rfl⟩
    · intro id approval happr hbound
      rw [h₂.approvals, h₁.approvals] at happr
      exact hdec id approval happr ((hhost _).symm.trans hbound)

end Pass

/-- The recovery succeeds and leaves nothing open exactly when each executing effect can take its
run along and is the only one of its run, the clock is not behind the runs that are closed, and no
approval of a host run is pending. -/
theorem recoverHostWork_iff (clock : Reading → UnixMillis) (h : Reaches step (fun _ _ => true) {} s)
    (heffects : s.incompleteHostEffects.length ≤ maxHostWorkRecoveryBatch)
    (hruns : s.openHostRuns.length ≤ maxHostWorkRecoveryBatch) :
    (∃ s', recoverHostWork clock s = .ok s' ∧ Recovered s s') ↔ Recoverable clock s := by
  have hkey := keyed_of_reaches h
  obtain ⟨effects, hlist, hperm⟩ : ∃ effects, s.listRecoverableHostEffects
      (maxHostWorkRecoveryBatch + 1) = .ok effects ∧ effects.Perm s.incompleteHostEffects :=
    listing_eq_ok heffects
  have hbatch : ¬ maxHostWorkRecoveryBatch < effects.length := by
    rw [hperm.length_eq]
    omega
  obtain ⟨hfold, hdone⟩ := recoverEffects clock hkey hperm
  have hlist₁ : ∀ s₁, EffectsRecovered s effects s₁ → ∃ runs, s₁.listRecoverableHostRuns
      (maxHostWorkRecoveryBatch + 1) = .ok runs ∧ runs.Perm s₁.openHostRuns := by
    intro s₁ hs₁
    refine listing_eq_ok ?_
    rwa [openHostRuns, ← countP_eq_length_filter, hs₁.openRuns, countP_eq_length_filter]
  have hapart : effects.Pairwise Apart ↔ s.incompleteHostEffects.Pairwise Apart :=
    hperm.pairwise_iff fun hab hb ha hrun => hab ha hb hrun.symm
  constructor
  · rintro ⟨s', hs', hrec⟩
    simp only [recoverHostWork, hlist, ok_bind, bind_eq_ok] at hs'
    obtain ⟨_, -, s₁, hs₁, runs, hruns₁, _, -, hs'⟩ := hs'
    have h₁ := hdone s₁ hs₁
    obtain ⟨_, heq, hperm₁⟩ := hlist₁ s₁ h₁
    obtain rfl := Except.ok.inj (heq.symm.trans hruns₁)
    obtain ⟨hclosable, h₂⟩ := recoverRuns clock (h₁.keyed hkey) hperm₁
    obtain ⟨hinterruptible, halone⟩ := hfold.1 ⟨s₁, hs₁⟩
    refine ⟨fun e he => hinterruptible e (hperm.mem_iff.2 he), hapart.1 halone, ?_, ?_⟩
    · have hall := (h₁.closable_iff hkey).1 fun run hrun =>
        hclosable.1 ⟨s', hs'⟩ run (hperm₁.mem_iff.2 hrun)
      simpa only [hperm.mem_iff] using hall
    · exact (recovered_iff hkey hperm h₁ hperm₁ (h₂ s' hs')).1 hrec
  · rintro ⟨hinterruptible, halone, hall, hdec⟩
    obtain ⟨s₁, hs₁⟩ := hfold.2
      ⟨fun e he => hinterruptible e (hperm.mem_iff.1 he), hapart.2 halone⟩
    have h₁ := hdone s₁ hs₁
    obtain ⟨runs, hruns₁, hperm₁⟩ := hlist₁ s₁ h₁
    obtain ⟨hclosable, h₂⟩ := recoverRuns clock (h₁.keyed hkey) hperm₁
    obtain ⟨s', hs'⟩ := hclosable.2 fun run hrun =>
      (h₁.closable_iff hkey).2 (by simpa only [hperm.mem_iff] using hall) run
        (hperm₁.mem_iff.1 hrun)
    refine ⟨s', ?_, (recovered_iff hkey hperm h₁ hperm₁ (h₂ s' hs')).2 hdec⟩
    have hbatch₁ : ¬ maxHostWorkRecoveryBatch < runs.length := by
      rw [hperm₁.length_eq, openHostRuns, ← countP_eq_length_filter, h₁.openRuns,
        countP_eq_length_filter]
      exact Nat.not_lt.2 hruns
    simp [recoverHostWork, hlist, rejectIf, hbatch, hs₁, hruns₁, hbatch₁, hs']

/-! ## Two effects of one run -/

namespace TwoEffects

/-- An approved tool call of the run, up to the moment at which its effect is executing. -/
def call (revision : ℕ) (now : UnixMillis) (approval : ApprovalId) (effect : EffectId) :
    List Event :=
  [.request ⟨⟨"work", rfl⟩, revision, ⟨"host_process_exec", "[\"ls\"]", "Run in /home", .high⟩,
      .once, 20⟩ approval now,
    .decide approval 0 .grant ⟨"decide_approval", approval.value, 0⟩ now,
    .prepare ⟨⟨"work", rfl⟩, .processExecution, "[\"ls\"]", .nonIdempotent⟩ effect now,
    .start effect 0 now]

/-- A run with one tool call. -/
def events : List Event :=
  [.createWork ⟨"work", rfl⟩ ⟨"home", rfl⟩ ⟨"talk", rfl⟩ 1,
    .transition ⟨"work", rfl⟩ 0 .planning 2, .transition ⟨"work", rfl⟩ 1 .running 3] ++
  call 2 4 ⟨"approval-1", rfl⟩ ⟨"effect-1", rfl⟩

/-- The equivalence after a crash during the tool call. -/
theorem recoverHostWork_iff_call : ∃ s, run step (fun _ _ => true) {} events = some s ∧
    ((∃ s', recoverHostWork (fun _ => 10) s = .ok s' ∧ Recovered s s') ↔
      Recoverable (fun _ => 10) s) :=
  ⟨_, rfl, recoverHostWork_iff _ ⟨events, rfl⟩ (by decide) (by decide)⟩

/-- A crash while two tool calls of one run are executing makes the recovery fail. -/
theorem recovery_fails : ¬ ∀ s clock, Reaches step (fun _ _ => true) {} s →
    s.incompleteHostEffects.length ≤ maxHostWorkRecoveryBatch →
    s.openHostRuns.length ≤ maxHostWorkRecoveryBatch →
    ∃ s', recoverHostWork clock s = .ok s' ∧ Recovered s s' := by
  intro h
  obtain ⟨s', hs', -⟩ := h _ (fun _ => 10)
    ⟨events ++ call 4 5 ⟨"approval-2", rfl⟩ ⟨"effect-2", rfl⟩, rfl⟩ (by decide) (by decide)
  cases hs'

end TwoEffects

end ExecutionState

end HostWork

end GrokDesktop
