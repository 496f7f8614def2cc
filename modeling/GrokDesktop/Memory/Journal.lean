import GrokDesktop.Application.Scheduler

/-!
# What the scheduler store can do

`JournalStep s c s'` lists everything a call `c` can do to the store: each constructor has the
checks that the operation has made and the state it leaves. `journalStep_of_answers` shows that the
store does nothing else, so that a fact about every run is proved by cases on one step.
-/

namespace GrokDesktop

open Resumption Except Function

section Steps

variable [TimezoneLibrary] [Sha256Library]

/-- The writes of one scheduler call, with what was checked before them. -/
inductive JournalStep (s : SchedulerState) : (c : SchedulerCall) → c.Reply → SchedulerState → Prop
  /-- A call that reads, is repeated, or fails changes nothing. -/
  | unchanged {c : SchedulerCall} {r : c.Reply} : JournalStep s c r s
  /-- A new definition. -/
  | created {automation : Automation} {command : MutationCommand}
      (hnew : s.automations.lookup automation.id = none) :
      JournalStep s (.createAutomation automation command) (.ok automation) {
        s with
        automations := s.automations.insert automation.id automation
        toState := s.toState.recordCommand command automation.id.value }
  /-- A changed definition, which has no cursor. -/
  | saved {automation current : Automation} {expectedRevision : ℕ} {command : MutationCommand}
      (hcursor : s.automationScheduleCursors.lookup automation.id = none)
      (hcurrent : s.automations.lookup automation.id = some current)
      (hrevision : automation.revision = current.revision + 1) :
      JournalStep s (.saveAutomation automation expectedRevision command) (.ok ()) {
        s with
        automations := s.automations.insert automation.id automation
        toState := s.toState.recordCommand command automation.id.value }
  /-- The first lease. -/
  | firstLease {ownerId : AutomationSchedulerOwnerId} {now : UnixMillis} {ttlMs : ℕ}
      {lease : AutomationSchedulerLease}
      (hfloor : ∀ floor, automationSchedulerDurableFloor s = some floor → floor ≤ now)
      (hnone : s.automationSchedulerLease = none)
      (hlease : AutomationSchedulerLease.acquire ownerId 1 now ttlMs = .ok lease) :
      JournalStep s (.acquireLease ownerId now ttlMs) (.ok (.acquired lease false now))
        { s with automationSchedulerLease := some lease }
  /-- The owner of an unexpired lease renews it. -/
  | renewed {ownerId : AutomationSchedulerOwnerId} {now : UnixMillis} {ttlMs : ℕ}
      {lease renewed : AutomationSchedulerLease}
      (hfloor : ∀ floor, automationSchedulerDurableFloor s = some floor → floor ≤ now)
      (hlease : s.automationSchedulerLease = some lease) (howner : lease.ownerId = ownerId)
      (hrenew : lease.renew lease.token now ttlMs = .ok renewed) :
      JournalStep s (.acquireLease ownerId now ttlMs)
        (.ok (.acquired renewed true lease.renewedAt))
        { s with automationSchedulerLease := some renewed }
  /-- An expired lease is taken over. -/
  | takenOver {ownerId : AutomationSchedulerOwnerId} {now : UnixMillis} {ttlMs : ℕ}
      {lease taken : AutomationSchedulerLease}
      (hfloor : ∀ floor, automationSchedulerDurableFloor s = some floor → floor ≤ now)
      (hlease : s.automationSchedulerLease = some lease)
      (htake : lease.takeOver ownerId (lease.fence + 1) now ttlMs = .ok taken) :
      JournalStep s (.acquireLease ownerId now ttlMs) (.ok (.acquired taken false now))
        { s with automationSchedulerLease := some taken }
  /-- A cursor is advanced with its occurrences. -/
  | evaluated {evaluation : AutomationScheduleEvaluationCommit} {writes : EvaluationWrites}
      (hwrites : stageEvaluation s evaluation = .ok writes) :
      JournalStep s (.commitEvaluation evaluation)
        (.ok { cursor := evaluation.cursor, occurrences := writes.occurrences })
        (s.writeEvaluation evaluation writes)
  /-- A pending occurrence is claimed. -/
  | claimed {claim : ClaimAutomationOccurrence} {current claimed : AutomationOccurrence}
      {attempts : List AutomationOccurrenceClaimAttempt}
      {attempt : AutomationOccurrenceClaimAttempt}
      (hchecked : checkedClaim s claim = .ok (current, attempts))
      (hclaim : current.acquireClaim claim.lease claim.claimedAt claim.expiresAt = .ok claimed)
      (hattempt : claimAttempt claim claimed attempts none none = .ok attempt) :
      JournalStep s (.claim claim) (.ok claimed)
        (s.writeClaim claim claimed claimed (attempts ++ [attempt]))
  /-- A pending occurrence is claimed and bound to a run. -/
  | bound {dispatch : AutomationOccurrenceDispatch} {current claimed linked : AutomationOccurrence}
      {attempts : List AutomationOccurrenceClaimAttempt}
      {attempt : AutomationOccurrenceClaimAttempt} {result : AutomationOccurrenceDispatchResult}
      (hchecked : checkedClaim s dispatch.claim = .ok (current, attempts))
      (hfresh : dispatchConflicts s current
        { dispatch with prompt := { dispatch.prompt with sequence := 1 } } = false)
      (hclaim : current.acquireClaim dispatch.claim.lease dispatch.claim.claimedAt
        dispatch.claim.expiresAt = .ok claimed)
      (hattempt : claimAttempt dispatch.claim claimed attempts (some dispatch.claim.claimedAt)
        (some .runLinked) = .ok attempt)
      (hlink : claimed.linkRun dispatch.claim.lease dispatch.run.id dispatch.claim.claimedAt
        = .ok linked)
      (hresult : result = {
        occurrence := linked
        thread := dispatch.thread
        prompt := { dispatch.prompt with sequence := 1 }
        run := dispatch.run }) :
      JournalStep s (.claimAndBind dispatch) (.ok result)
        ((s.writeBinding { dispatch with prompt := { dispatch.prompt with sequence := 1 } }
          result).writeClaim dispatch.claim linked claimed (attempts ++ [attempt]))
  /-- An existing run is linked to a claimed occurrence. -/
  | linked {lease : AutomationSchedulerLeaseToken} {occurrenceId : AutomationOccurrenceId}
      {expectedRevision : ℕ} {runId : RunId} {now : UnixMillis} {owned : AutomationSchedulerLease}
      {current linked : AutomationOccurrence}
      {attempts completed : List AutomationOccurrenceClaimAttempt}
      (hlease : requireAutomationSchedulerLease s lease now = .ok owned)
      (hcurrent : s.automationOccurrences.lookup occurrenceId = some current)
      (hrun : s.runs.contains runId = true) (hlink : current.linkRun lease runId now = .ok linked)
      (hattempts : s.automationOccurrenceClaimAttempts.lookup occurrenceId = some attempts)
      (hcompleted : completeClaimAttempt current attempts .runLinked now = .ok completed) :
      JournalStep s (.linkRun lease occurrenceId expectedRevision runId now) (.ok linked) {
        s with
        automationOccurrences := s.automationOccurrences.insert occurrenceId linked
        automationOccurrenceClaimAttempts :=
          s.automationOccurrenceClaimAttempts.insert occurrenceId completed }
  /-- The bound run of an occurrence leaves the queue. -/
  | began {occurrenceId : AutomationOccurrenceId} {occurrenceRevision runRevision : ℕ}
      {runId : RunId} {now : UnixMillis} {binding : AutomationOccurrenceDispatchResult}
      {occurrence : AutomationOccurrence} {run planning running : Run}
      (hbinding : s.automationOccurrenceDispatches.lookup occurrenceId = some binding)
      (hoccurrence : s.automationOccurrences.lookup occurrenceId = some occurrence)
      (hrun : s.runs.lookup runId = some run) (hbound : binding.run.id = runId)
      (hlinked : occurrence.state = .runLinked) (hrunId : occurrence.runId = some runId)
      (hqueued : run.state = .queued) (hplanning : run.transition .planning now = .ok planning)
      (hrunning : planning.transition .running now = .ok running) :
      JournalStep s (.beginRun occurrenceId occurrenceRevision runId runRevision now)
        (.ok { binding with occurrence := occurrence, run := running }) {
          s.writeRun running
            [stateChanged run.state .planning now, stateChanged planning.state .running now] with
          automationOccurrenceDispatches :=
            s.automationOccurrenceDispatches.insert occurrenceId { binding with run := running } }
  /-- An occurrence ends with its run, and the queued one is promoted. -/
  | completed {occurrenceId : AutomationOccurrenceId} {expectedRevision : ℕ} {runId : RunId}
      {completion : AutomationOccurrenceRunCompletion} {now : UnixMillis} {run ended : Run}
      {current occurrence : AutomationOccurrence} {promoted : Option AutomationOccurrence}
      {binding : AutomationOccurrenceDispatchResult}
      (hrun : s.runs.lookup runId = some run)
      (hcurrent : s.automationOccurrences.lookup occurrenceId = some current)
      (hrunning : run.state = .running) (hrunId : current.runId = some runId)
      (hended : run.transition completion.runState now = .ok ended)
      (hoccurrence : completion.apply current runId now = .ok occurrence)
      (hpromoted : promotedOccurrence s occurrence.automationId now .conflict = .ok promoted)
      (hbinding : s.automationOccurrenceDispatches.lookup occurrenceId = some binding) :
      JournalStep s (.completeRun occurrenceId expectedRevision runId completion now)
        (.ok occurrence) {
          s.writeRun ended [stateChanged .running completion.runState now] with
          automationOccurrences :=
            insertOccurrence (s.automationOccurrences.insert occurrence.id occurrence) promoted
          automationOccurrenceDispatches :=
            s.automationOccurrenceDispatches.insert occurrenceId
              { binding with occurrence := occurrence, run := ended } }
  /-- Expired claims are recovered. -/
  | recovered {lease : AutomationSchedulerLeaseToken} {now : UnixMillis} {limit : ℕ}
      {owned : AutomationSchedulerLease} {start stage : RecoveryStage}
      (hlease : requireAutomationSchedulerLease s lease now = .ok owned)
      (hstart : start.occurrences = ∅ ∧ start.attempts = ∅ ∧ start.runs = ∅
        ∧ start.runEvents = [])
      (hstage : ((s.expiredOccurrences now).take limit).foldlM (recoverOccurrence s now) start
        = .ok stage) :
      JournalStep s (.recoverClaims lease now limit) (.ok stage.summary) (s.writeRecovery stage)
  /-- A run is replaced by its next revision. -/
  | savedRun {run current : Run} {expectedRevision : ℕ} {event : NewRunEvent}
      {command : MutationCommand} (hcurrent : s.runs.lookup run.id = some current)
      (hrevision : run.revision = current.revision + 1) :
      JournalStep s (.saveRun run expectedRevision event command) (.ok run) {
        s.writeRun run [event] with
        executionCommands := s.executionCommands.insert (command.scope, command.key)
          { fingerprint := command.fingerprint, outcome := run } }

variable {s s' : SchedulerState} {c : SchedulerCall} {r : c.Reply}

lemma JournalStep.of_ok {α : Type} {x y : α}
    (h : (.ok (x, s) : Except StoreError (α × SchedulerState)) = .ok (y, s')) :
    JournalStep s c r s' := by
  obtain ⟨-, rfl⟩ := Prod.mk.inj (Except.ok.inj h)
  exact .unchanged

/-- The store does nothing but the listed steps. -/
theorem journalStep_of_answers (h : schedulerSystem.answers s c r s') : JournalStep s c r s' := by
  cases c
  all_goals
    first
    | (obtain ⟨rfl, rfl⟩ := Prod.mk.inj h; exact .unchanged)
    | (have h₁ := congrArg Prod.fst h
       have h₂ := congrArg Prod.snd h
       subst h₁ h₂)
  all_goals
    refine settle_induction (fun e => .unchanged) fun a s' h => ?_
  case createAutomation =>
    obtain ⟨prior, -, h⟩ := bind_eq_ok.1 h
    cases prior with
    | some id =>
      simp only [bind_eq_ok] at h
      obtain ⟨-, -, -, rfl⟩ := h
      exact .unchanged
    | none =>
      simp only [bind_eq_ok, rejectIf_eq_ok, exists_const, not_or, Bool.not_eq_true,
        Table.contains_eq_false] at h
      obtain ⟨-, -, ⟨-, hnew⟩, rfl, rfl⟩ := h
      exact .created hnew
  case saveAutomation =>
    obtain ⟨prior, -, h⟩ := bind_eq_ok.1 h
    cases prior with
    | some id =>
      obtain ⟨-, rfl⟩ := h
      exact .unchanged
    | none =>
      simp only [bind_eq_ok, okOr_eq_ok, rejectIf_eq_ok, exists_const, not_or, not_not,
        Bool.not_eq_true, Table.contains_eq_false, revisionedReplace, checkedAdd_eq_some,
        return_eq_ok] at h
      obtain ⟨-, hcsr, _, ⟨cur, hcur, _, ⟨-, rfl⟩, ⟨hrev, hnext⟩, rfl⟩, -, rfl⟩ := h
      exact .saved hcsr hcur (by rw [hnext, hrev])
  case acquireLease now ttlMs _ =>
    obtain ⟨-, -, h⟩ := bind_eq_ok.1 h
    split at h
    · exact .of_ok h
    rename_i hfilter
    have hfloor : ∀ floor, automationSchedulerDurableFloor s = some floor → floor ≤ now := by
      intro floor hsome
      simpa [hsome] using hfilter
    split at h
    · rename_i hnone
      simp only [firstLease, bind_eq_ok, mapError_eq_ok] at h
      obtain ⟨lease, hlease, rfl, rfl⟩ := h
      exact .firstLease hfloor hnone hlease
    · rename_i lease hlease
      obtain ⟨-, -, h⟩ := bind_eq_ok.1 h
      split at h
      · exact .of_ok h
      split at h
      · split at h
        · exact .of_ok h
        · rename_i hown
          simp only [renewLease, bind_eq_ok, mapError_eq_ok] at h
          obtain ⟨renewed, hrenew, rfl, rfl⟩ := h
          exact .renewed hfloor hlease (not_not.1 hown) hrenew
      · simp only [takeOverLease, bind_eq_ok, okOr_eq_ok, checkedAdd_eq_some, mapError_eq_ok] at h
        obtain ⟨_, ⟨-, rfl⟩, taken, htake, rfl, rfl⟩ := h
        exact .takenOver hfloor hlease htake
  case commitEvaluation =>
    obtain ⟨-, -, h⟩ := bind_eq_ok.1 h
    split at h
    · obtain ⟨-, -, h⟩ := bind_eq_ok.1 h
      exact .of_ok h
    · obtain ⟨writes, hwrs, h⟩ := bind_eq_ok.1 h
      obtain ⟨rfl, rfl⟩ := Prod.mk.inj (Except.ok.inj h)
      exact .evaluated hwrs
  case claim =>
    obtain ⟨-, -, h⟩ := bind_eq_ok.1 h
    split at h
    · obtain ⟨-, -, h⟩ := bind_eq_ok.1 h
      exact .of_ok h
    · simp only [bind_eq_ok, mapError_eq_ok] at h
      obtain ⟨⟨cur, attempts⟩, hchk, claimed, hclm, attempt, hatt, rfl, rfl⟩ := h
      exact .claimed hchk hclm hatt
  case claimAndBind =>
    obtain ⟨-, -, h⟩ := bind_eq_ok.1 h
    split at h
    · obtain ⟨-, -, h⟩ := bind_eq_ok.1 h
      obtain ⟨_, -, h⟩ := bind_eq_ok.1 h
      exact .of_ok h
    · simp only [bind_eq_ok, mapError_eq_ok, rejectIf_eq_ok, exists_const, Bool.not_eq_true] at h
      obtain ⟨⟨cur, attempts⟩, hchk, hfresh, claimed, hclm, attempt, hatt, linked,
        hlink, rfl, rfl⟩ := h
      exact .bound hchk hfresh hclm hatt hlink rfl
  case beginRun =>
    simp only [bind_eq_ok, okOr_eq_ok, mapError_eq_ok, rejectIf_eq_ok, exists_const, not_or,
      not_not] at h
    obtain ⟨binding, hbind, occ, hocc, run, hrun,
      ⟨hbound, hlink, -, hrid, hque, -⟩, planning, hplanning, running, hrunning, rfl, rfl⟩ := h
    exact .began hbind hocc hrun hbound hlink hrid hque hplanning hrunning
  case completeRun =>
    simp only [bind_eq_ok, okOr_eq_ok, mapError_eq_ok, rejectIf_eq_ok, exists_const, not_or,
      not_not] at h
    obtain ⟨run, hrun, cur, hcur, ⟨hrunning, -, hrid⟩, ended, hend, occ,
      hoccurrence, promoted, hpromoted, binding, hbinding, rfl, rfl⟩ := h
    exact .completed hrun hcur hrunning hrid hend hoccurrence hpromoted hbinding
  case recoverClaims =>
    simp only [bind_eq_ok, rejectIf_eq_ok, exists_const] at h
    obtain ⟨-, owned, hlease, stage, hstage, rfl, rfl⟩ := h
    exact .recovered hlease ⟨rfl, rfl, rfl, rfl⟩ hstage
  case linkRun =>
    simp only [bind_eq_ok, okOr_eq_ok, mapError_eq_ok, rejectIf_eq_ok, exists_const,
      Bool.not_eq_true, Bool.not_eq_false'] at h
    obtain ⟨owned, hlease, cur, hcur, -, hrun, linked, hlink, attempts, hatts, completed,
      hdone, rfl, rfl⟩ := h
    exact .linked hlease hcur hrun hlink hatts hdone
  case saveRun =>
    split at h
    · obtain ⟨-, -, h⟩ := bind_eq_ok.1 h
      exact .of_ok h
    · simp only [bind_eq_ok, okOr_eq_ok, rejectIf_eq_ok, exists_const, not_or, not_not] at h
      obtain ⟨cur, hcur, ⟨hrev, hnext⟩, rfl, rfl⟩ := h
      exact .savedRun hcur (by rw [hnext, hrev])

end Steps

end GrokDesktop
