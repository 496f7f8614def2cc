import GrokDesktop.Memory.Claims

/-!
# What a recovery stages

`Recovers` lists how an expired occurrence can be recovered, and `RecoveryStep` what one recovered
occurrence adds to the stage: itself, the promoted overlap when it needs review, its attempts, and
its interrupted run.
-/

namespace GrokDesktop

open Except SchedulerState

/-- How a linked occurrence ends when the lease of its claim has expired: as its run ended, and with
a review when the run has not ended. -/
def endLinked (state : RunState) (occurrence : AutomationOccurrence) (runId : RunId)
    (now : UnixMillis) : Except AutomationSchedulerError AutomationOccurrence :=
  match state with
  | .completed => occurrence.succeed runId now
  | .failed => occurrence.fail runId now
  | .cancelled => occurrence.cancel now
  | .queued | .planning | .awaitingApproval | .running | .paused | .interruptedNeedsReview =>
      occurrence.interrupt runId now

/-- How an expired occurrence can be recovered. -/
inductive Recovers (s : SchedulerState) (now : UnixMillis) (current : AutomationOccurrence) :
    AutomationOccurrence → Prop
  /-- A claim without a run returns to pending. -/
  | released {released : AutomationOccurrence}
      (hreleased : current.releaseExpiredClaim now = .ok released) : Recovers s now current released
  /-- The last claim without a run needs review. -/
  | exhausted {released exhausted : AutomationOccurrence}
      (hreleased : current.releaseExpiredClaim now = .ok released)
      (hcount : released.claimAttemptCount = maxAutomationOccurrenceClaimAttempts)
      (hexhausted : released.markClaimsExhausted now = .ok exhausted) :
      Recovers s now current exhausted
  /-- A linked occurrence ends with its run. -/
  | ended {runId : RunId} {run : Run} {ended : AutomationOccurrence}
      (hlinked : current.state = .runLinked) (hrunId : current.runId = some runId)
      (hrun : s.runs.lookup runId = some run)
      (hended : endLinked run.state current runId now = .ok ended) : Recovers s now current ended

/-- The runs and events after an occurrence was recovered: a run that had not ended is
interrupted. -/
inductive RecoversRun (s : SchedulerState) (now : UnixMillis) (stage : RecoveryStage) :
    Table RunId Run → List (RunId × NewRunEvent) → Prop
  | kept : RecoversRun s now stage stage.runs stage.runEvents
  | interrupted {runId : RunId} {run interrupted : Run} (hrun : s.runs.lookup runId = some run)
      (hinterrupted : run.transition .interruptedNeedsReview now = .ok interrupted) :
      RecoversRun s now stage (stage.runs.insert runId interrupted)
        (stage.runEvents ++ [(runId, stateChanged run.state .interruptedNeedsReview now)])

/-- What one expired occurrence adds to the stage. -/
inductive RecoveryStep (s : SchedulerState) (now : UnixMillis) (stage : RecoveryStage)
    (current : AutomationOccurrence) : RecoveryStage → Prop
  /-- A bound run that is still queued is left alone. -/
  | resumable {runId : RunId} {summary : AutomationSchedulerRecoverySummary}
      (hlinked : current.state = .runLinked) (hrunId : current.runId = some runId)
      (hqueued : boundRunQueued s current runId = true) :
      RecoveryStep s now stage current { stage with summary := summary }
  /-- The occurrence is recovered. -/
  | recovered {occurrence : AutomationOccurrence} {promoted : Option AutomationOccurrence}
      {attempts completed : List AutomationOccurrenceClaimAttempt} {runs : Table RunId Run}
      {events : List (RunId × NewRunEvent)} {summary : AutomationSchedulerRecoverySummary}
      (hrecovers : Recovers s now current occurrence)
      (hpromoted : reviewPromotion s occurrence now = .ok promoted)
      (hattempts : s.automationOccurrenceClaimAttempts.lookup current.id = some attempts)
      (hcompleted : completed = attempts ∨ ∃ completion,
        completeClaimAttempt current attempts completion now = .ok completed)
      (hrun : RecoversRun s now stage runs events) :
      RecoveryStep s now stage current {
        occurrences :=
          (insertOccurrence stage.occurrences promoted).insert occurrence.id occurrence
        attempts := stage.attempts.insert occurrence.id completed
        runs := runs
        runEvents := events
        summary := summary }

section Steps

variable {s : SchedulerState} {now : UnixMillis} {stage stage' : RecoveryStage}
  {current : AutomationOccurrence}

variable {occurrence : AutomationOccurrence}

lemma stageRecovered_eq_ok {attempts : List AutomationOccurrenceClaimAttempt} :
    stageRecovered s stage occurrence attempts now = .ok stage' ↔
      ∃ promoted, reviewPromotion s occurrence now = .ok promoted ∧
        stage' = { stage with
          occurrences :=
            (insertOccurrence stage.occurrences promoted).insert occurrence.id occurrence
          attempts := stage.attempts.insert occurrence.id attempts } := by
  simp only [stageRecovered, bind_eq_ok, return_eq_ok]
  exact ⟨fun ⟨p, hp, h⟩ => ⟨p, hp, h.symm⟩, fun ⟨p, hp, h⟩ => ⟨p, hp, h.symm⟩⟩

lemma releaseClaim_eq_ok {completion : AutomationOccurrenceClaimCompletion}
    (h : releaseClaim current now = .ok (occurrence, completion)) :
    Recovers s now current occurrence := by
  obtain ⟨released, hrel, h⟩ := bind_eq_ok.1 h
  rw [mapError_eq_ok] at hrel
  split at h
  · obtain ⟨exhausted, hexh, h⟩ := bind_eq_ok.1 h
    obtain ⟨rfl, -⟩ := Prod.mk.inj (Except.ok.inj h)
    exact .exhausted hrel ‹_› (mapError_eq_ok.1 hexh)
  · obtain ⟨rfl, -⟩ := Prod.mk.inj (Except.ok.inj h)
    exact .released hrel

/-- The recovery of an expired claim. -/
lemma recoverClaimed_eq_ok (h : recoverClaimed s now stage current = .ok stage') :
    RecoveryStep s now stage current stage' := by
  simp only [recoverClaimed, bind_eq_ok, okOr_eq_ok] at h
  obtain ⟨⟨occurrence, completion⟩, hrel, attempts, hatts, completed, hdone, h⟩ := h
  obtain ⟨promoted, hprom, rfl⟩ := stageRecovered_eq_ok.1 h
  exact .recovered (releaseClaim_eq_ok hrel) hprom hatts (.inr ⟨_, hdone⟩) .kept

/-- How a linked run is interrupted. -/
lemma interruptLinked_eq_ok {runId : RunId} {interrupted : Option (Run × NewRunEvent)}
    (h : interruptLinked s current runId now = .ok (occurrence, interrupted)) :
    ∃ run, s.runs.lookup runId = some run ∧ endLinked run.state current runId now = .ok occurrence ∧
      (interrupted = none ∨ ∃ next, run.transition .interruptedNeedsReview now = .ok next ∧
        interrupted = some (next, stateChanged run.state .interruptedNeedsReview now)) := by
  obtain ⟨run, hrun, h⟩ := bind_eq_ok.1 h
  refine ⟨run, okOr_eq_ok.1 hrun, ?_⟩
  cases hsta : run.state <;>
    simp only [hsta, bind_eq_ok, mapError_eq_ok] at h
  case completed | failed | cancelled | interruptedNeedsReview =>
    obtain ⟨_, hend, rfl, rfl⟩ := h
    exact ⟨hend, .inl rfl⟩
  all_goals
    obtain ⟨next, hnext, _, hend, rfl, rfl⟩ := h
    exact ⟨hend, .inr ⟨next, hnext, rfl⟩⟩

/-- The recovery of a linked occurrence. -/
lemma recoverLinked_eq_ok (hlink : current.state = .runLinked)
    (h : recoverLinked s now stage current = .ok stage') :
    RecoveryStep s now stage current stage' := by
  obtain ⟨runId, hrid, h⟩ := bind_eq_ok.1 h
  rw [okOr_eq_ok] at hrid
  split at h
  · rw [← Except.ok.inj h]
    exact .resumable hlink hrid ‹_›
  · simp only [bind_eq_ok, okOr_eq_ok] at h
    obtain ⟨⟨occurrence, interrupted⟩, hint, attempts, hatts, completed, hdone, h⟩ := h
    obtain ⟨run, hrun, hend, hnext⟩ := interruptLinked_eq_ok hint
    obtain ⟨promoted, hprom, rfl⟩ := stageRecovered_eq_ok.1 h
    have hevid : completed = attempts ∨ ∃ completion,
        completeClaimAttempt current attempts completion now = .ok completed := by
      unfold linkedEvidence at hdone
      split at hdone
      · exact .inl (Except.ok.inj hdone).symm
      · exact .inr ⟨_, hdone⟩
    have hrec : Recovers s now current occurrence := .ended hlink hrid hrun hend
    rcases hnext with rfl | ⟨next, htr, rfl⟩
    · exact .recovered hrec hprom hatts hevid .kept
    · exact .recovered hrec hprom hatts hevid (.interrupted hrun htr)

/-- A recovered occurrence adds nothing else to the stage. -/
theorem recoverOccurrence_eq_ok [TimezoneLibrary] [Sha256Library]
    (h : recoverOccurrence s now stage current = .ok stage') :
    current.restore.isOk = true ∧ RecoveryStep s now stage current stage' := by
  obtain ⟨_, hrest, h⟩ := bind_eq_ok.1 h
  refine ⟨isOk_iff.2 ⟨_, mapError_eq_ok.1 hrest⟩, ?_⟩
  cases hsta : current.state <;> simp only [hsta, reduceCtorEq] at h
  case claimed => exact recoverClaimed_eq_ok h
  case runLinked => exact recoverLinked_eq_ok hsta h

end Steps

/-! ## What a recovery writes -/

section Writes

variable (s : SchedulerState) (stage : RecoveryStage)

/-- A fold of writes that leave a part of the state alone leaves it alone. -/
lemma foldl_unchanged {σ α β : Type} {f : σ → α → σ} (part : σ → β)
    (h : ∀ s a, part (f s a) = part s) (l : List α) (s : σ) : part (l.foldl f s) = part s := by
  induction l generalizing s with
  | nil => rfl
  | cons a l ih => rw [List.foldl_cons, ih, h]

lemma writeRecovery_automationOccurrences :
    (s.writeRecovery stage).automationOccurrences =
      s.automationOccurrences.insertEntries stage.occurrences := by
  simp only [writeRecovery]
  rw [foldl_unchanged automationOccurrences]
  · exact (List.foldl_hom automationOccurrences (fun _ _ => rfl)).symm
  · exact fun _ _ => rfl

/-- A recovery writes the staged runs. -/
lemma writeRecovery_runs : (s.writeRecovery stage).runs = s.runs.insertEntries stage.runs := by
  have hruns : ∀ (entries : List (Sigma fun _ : RunId => Run)) (s : SchedulerState),
      (entries.foldl (fun s entry => s.writeRecoveredRun entry.1 entry.2) s).runs =
        entries.foldl (fun runs entry => runs.insert entry.1 entry.2) s.runs := by
    intro entries
    induction entries with
    | nil => exact fun _ => rfl
    | cons entry entries ih => exact fun s => ih _
  simp only [writeRecovery]
  rw [foldl_unchanged State.runs (fun _ _ => by rfl), hruns,
    foldl_unchanged (fun s : SchedulerState => s.runs) (fun _ _ => by rfl)]
  rfl

/-- A part of the state that neither a recovered occurrence nor an interrupted run touches. -/
theorem writeRecovery_unchanged {β : Type} (part : SchedulerState → β)
    (hocc : ∀ s id occurrence, part (writeRecoveredOccurrence s id occurrence) = part s)
    (hrun : ∀ s id run, part (writeRecoveredRun s id run) = part s) :
    part (stage.runs.entries.foldl (fun s entry => s.writeRecoveredRun entry.1 entry.2)
      (stage.occurrences.entries.foldl (fun s entry =>
        s.writeRecoveredOccurrence entry.1 entry.2) s)) = part s := by
  rw [foldl_unchanged part, foldl_unchanged part]
  · exact fun s entry => hocc s entry.1 entry.2
  · exact fun s entry => hrun s entry.1 entry.2

lemma writeRecovery_claimAttempts :
    (s.writeRecovery stage).automationOccurrenceClaimAttempts =
      s.automationOccurrenceClaimAttempts.insertEntries stage.attempts :=
  congrArg (Table.insertEntries · stage.attempts)
    (writeRecovery_unchanged s stage automationOccurrenceClaimAttempts
      (fun _ _ _ => rfl) (fun _ _ _ => rfl))

lemma writeRecovery_lease :
    (s.writeRecovery stage).automationSchedulerLease = s.automationSchedulerLease :=
  writeRecovery_unchanged s stage automationSchedulerLease (fun _ _ _ => rfl)
    (fun _ _ _ => rfl)

lemma writeRecovery_cursors :
    (s.writeRecovery stage).automationScheduleCursors = s.automationScheduleCursors :=
  writeRecovery_unchanged s stage automationScheduleCursors (fun _ _ _ => rfl)
    (fun _ _ _ => rfl)

end Writes

end GrokDesktop
