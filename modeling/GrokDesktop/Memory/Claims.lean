import GrokDesktop.Memory.Scheduler

/-!
# Claims, dispatches and recovery in the in-memory store

The operations on one occurrence: its claim under the lease, its binding to a thread, a prompt and a
run, the begin and the end of that run, and the recovery of expired claims.
-/

namespace GrokDesktop

open Except

/-! ## Claim attempts -/

namespace AutomationOccurrenceClaimAttempt

variable (attempt : AutomationOccurrenceClaimAttempt)

def isLiveClaim (occurrence : AutomationOccurrence) : Bool :=
  occurrence.claim.any fun claim =>
    attempt.sequence = occurrence.claimAttemptCount && attempt.ownerId = claim.ownerId &&
      attempt.fence = claim.fence && attempt.claimedAt = claim.claimedAt &&
      attempt.expiresAt = claim.expiresAt

/-- The attempt is the one of the given number, and the live claim while it is open. -/
def wellFormed (occurrence : AutomationOccurrence) (sequence : ℕ) : Bool :=
  attempt.occurrenceId = occurrence.id && attempt.sequence = sequence &&
    attempt.sequence ≤ maxAutomationOccurrenceClaimAttempts && 0 < attempt.fence &&
    attempt.claimedAt < attempt.expiresAt &&
    attempt.expiresAt - attempt.claimedAt ≤ maxAutomationSchedulerLeaseMs &&
    attempt.completedAt.isNone = attempt.completion.isNone &&
    (attempt.completedAt.all fun completedAt => attempt.claimedAt ≤ completedAt) &&
    (attempt.completedAt.isSome || attempt.isLiveClaim occurrence)

/-- The attempt was completed by linking a run. -/
def isRunLinked : Bool :=
  attempt.completion = some .runLinked && attempt.completedAt.isSome

end AutomationOccurrenceClaimAttempt

variable (occurrence : AutomationOccurrence)

/-- The number of open attempts that belongs to the state of an occurrence. -/
def openAttemptsFit (attempts : List AutomationOccurrenceClaimAttempt) : Bool :=
  let openCount := attempts.countP fun attempt => attempt.completedAt.isNone
  match occurrence.state with
  | .claimed => openCount = 1
  | .runLinked =>
      openCount = 1 ||
        (openCount = 0 && attempts.getLast?.any AutomationOccurrenceClaimAttempt.isRunLinked)
  | _ => openCount = 0

/-- The attempts are numbered and belong to the occurrence and its state. -/
def validateClaimAttemptSequence (attempts : List AutomationOccurrenceClaimAttempt) :
    Except StoreError Unit := do
  rejectIf (attempts.length ≠ occurrence.claimAttemptCount) invalidAutomationSchedulerJournal
  rejectIf (∃ entry ∈ attempts.zipIdx 1, !entry.1.wellFormed occurrence entry.2)
    invalidAutomationSchedulerJournal
  rejectIf (!openAttemptsFit occurrence attempts) invalidAutomationSchedulerJournal

/-- Completes the last attempt, which must be open. -/
def completeClaimAttempt (attempts : List AutomationOccurrenceClaimAttempt)
    (completion : AutomationOccurrenceClaimCompletion) (completedAt : UnixMillis) :
    Except StoreError (List AutomationOccurrenceClaimAttempt) := do
  validateClaimAttemptSequence occurrence attempts
  let attempt ← okOr attempts.getLast? invalidAutomationSchedulerJournal
  rejectIf (attempt.completedAt.isSome ∨ attempt.completion.isSome)
    invalidAutomationSchedulerJournal
  return attempts.dropLast ++
    [{ attempt with completedAt := some completedAt, completion := some completion }]

section Claims

variable [TimezoneLibrary] [Sha256Library]

/-! ## Claiming -/

variable (s : SchedulerState)

variable (claim : ClaimAutomationOccurrence)

/-- The pending occurrence of a claim under the lease, and its earlier attempts. -/
def checkedClaim :
    Except StoreError (AutomationOccurrence × List AutomationOccurrenceClaimAttempt) := do
  let lease ← requireAutomationSchedulerLease s claim.lease claim.claimedAt
  rejectIf (claim.expiresAt ≤ claim.claimedAt
    ∨ maxAutomationSchedulerLeaseMs < claim.expiresAt - claim.claimedAt
    ∨ lease.expiresAt < claim.expiresAt) .conflict
  let current ← okOr (s.automationOccurrences.lookup claim.occurrenceId) .notFound
  let _ ← current.restore.mapError fun _ => invalidAutomationSchedulerJournal
  rejectIf (current.revision ≠ claim.expectedRevision ∨ current.state ≠ .pending) .conflict
  let attempts := (s.automationOccurrenceClaimAttempts.lookup claim.occurrenceId).getD []
  validateClaimAttemptSequence current attempts
  rejectIf (∃ attempt ∈ attempts, attempt.completedAt.isNone) invalidAutomationSchedulerJournal
  return (current, attempts)

/-- The evidence of a claim, which continues the earlier attempts. -/
def claimAttempt (claimed : AutomationOccurrence) (attempts : List AutomationOccurrenceClaimAttempt)
    (completedAt : Option UnixMillis) (completion : Option AutomationOccurrenceClaimCompletion) :
    Except StoreError AutomationOccurrenceClaimAttempt := do
  rejectIf (claimed.claimAttemptCount ≠ attempts.length + 1) invalidAutomationSchedulerJournal
  return {
    occurrenceId := claimed.id
    sequence := claimed.claimAttemptCount
    ownerId := claim.lease.ownerId
    fence := claim.lease.fence
    claimedAt := claim.claimedAt
    expiresAt := claim.expiresAt
    completedAt := completedAt
    completion := completion
    requestFingerprint := claim.command.fingerprint }

/-- Writes an occurrence with its attempts, and the outcome of the claim command. -/
def SchedulerState.writeClaim (occurrence claimed : AutomationOccurrence)
    (attempts : List AutomationOccurrenceClaimAttempt) : SchedulerState :=
  { s with
    automationOccurrences := s.automationOccurrences.insert occurrence.id occurrence
    automationOccurrenceClaimAttempts :=
      s.automationOccurrenceClaimAttempts.insert occurrence.id attempts
    automationOccurrenceClaimCommands :=
      s.automationOccurrenceClaimCommands.insert (claim.command.scope, claim.command.key) {
        fingerprint := claim.command.fingerprint
        occurrenceId := occurrence.id
        result := claimed } }

def claimAutomationOccurrence : SchedulerResult AutomationOccurrence :=
  settle s do
    validateSchedulerCommand claim.command automationClaimScope
    match s.automationOccurrenceClaimCommands.lookup (claim.command.scope, claim.command.key) with
    | some record =>
        rejectIf (record.fingerprint ≠ claim.command.fingerprint
          ∨ record.occurrenceId ≠ claim.occurrenceId) .conflict
        return (record.result, s)
    | none =>
        let (current, attempts) ← checkedClaim s claim
        let claimed ← (current.acquireClaim claim.lease claim.claimedAt claim.expiresAt).mapError
          fun _ => StoreError.conflict
        let attempt ← claimAttempt claim claimed attempts none none
        return (claimed, s.writeClaim claim claimed claimed (attempts ++ [attempt]))

/-! ## Binding -/

/-- The thread, prompt and run of a dispatch are new, made for the occurrence and for each other. -/
def dispatchConflicts (current : AutomationOccurrence) (dispatch : AutomationOccurrenceDispatch) :
    Bool :=
  let claim := dispatch.claim
  !dispatch.thread.restore.isOk || dispatch.thread.lineage.origin ≠ .original ||
    !dispatch.prompt.restore.isOk || !dispatch.prompt.derivation.isOriginal ||
    dispatch.prompt.role ≠ .user || dispatch.prompt.state ≠ .active ||
    dispatch.prompt.threadId ≠ dispatch.thread.id ||
    dispatch.prompt.content ≠ current.snapshot.prompt ||
    dispatch.thread.projectId ≠ current.snapshot.projectId ||
    dispatch.run.projectId ≠ current.snapshot.projectId ||
    dispatch.run.threadId ≠ dispatch.thread.id || dispatch.run.state ≠ .queued ||
    dispatch.run.revision ≠ 0 || dispatch.thread.createdAt ≠ claim.claimedAt ||
    dispatch.prompt.createdAt ≠ claim.claimedAt || dispatch.run.createdAt ≠ claim.claimedAt ||
    !s.projectActive current.snapshot.projectId || s.threads.contains dispatch.thread.id ||
    s.messages.contains dispatch.prompt.id || s.runs.contains dispatch.run.id ||
    s.automationOccurrenceDispatches.contains current.id

/-- Writes the thread, prompt and run of a dispatch and the binding of its occurrence. -/
def SchedulerState.writeBinding (dispatch : AutomationOccurrenceDispatch)
    (result : AutomationOccurrenceDispatchResult) : SchedulerState :=
  { s with
    toState := { s.toState with
      threads := s.threads.insert dispatch.thread.id dispatch.thread
      messages := s.messages.insert dispatch.prompt.id dispatch.prompt
      runs := s.runs.insert dispatch.run.id dispatch.run }.appendEvents dispatch.run.id
        [{ occurredAt := dispatch.claim.claimedAt, kind := .created }]
    automationOccurrenceDispatches :=
      s.automationOccurrenceDispatches.insert result.occurrence.id result }

/-- Claims an occurrence and binds it to its thread, prompt and queued run. -/
def claimAndBindAutomationOccurrence (dispatch : AutomationOccurrenceDispatch) :
    SchedulerResult AutomationOccurrenceDispatchResult :=
  let claim := dispatch.claim
  settle s do
    validateSchedulerCommand claim.command automationClaimScope
    match s.automationOccurrenceClaimCommands.lookup (claim.command.scope, claim.command.key) with
    | some record =>
        rejectIf (record.fingerprint ≠ claim.command.fingerprint
          ∨ record.occurrenceId ≠ claim.occurrenceId) .conflict
        let bound ← okOr (s.automationOccurrenceDispatches.lookup claim.occurrenceId)
          invalidAutomationSchedulerJournal
        return (bound, s)
    | none =>
        let (current, attempts) ← checkedClaim s claim
        let dispatch := { dispatch with prompt := { dispatch.prompt with sequence := 1 } }
        rejectIf (dispatchConflicts s current dispatch) .conflict
        let claimed ← (current.acquireClaim claim.lease claim.claimedAt claim.expiresAt).mapError
          fun _ => StoreError.conflict
        let attempt ← claimAttempt claim claimed attempts (some claim.claimedAt) (some .runLinked)
        let linked ← (claimed.linkRun claim.lease dispatch.run.id claim.claimedAt).mapError
          fun _ => StoreError.conflict
        let result : AutomationOccurrenceDispatchResult := {
          occurrence := linked
          thread := dispatch.thread
          prompt := dispatch.prompt
          run := dispatch.run }
        return (result, (s.writeBinding dispatch result).writeClaim claim linked claimed
          (attempts ++ [attempt]))

/-- Links an existing run to a claimed occurrence under the lease. -/
def linkAutomationOccurrenceRun (lease : AutomationSchedulerLeaseToken)
    (occurrenceId : AutomationOccurrenceId) (expectedRevision : ℕ) (runId : RunId)
    (now : UnixMillis) : SchedulerResult AutomationOccurrence :=
  settle s do
    let _ ← requireAutomationSchedulerLease s lease now
    let current ← okOr (s.automationOccurrences.lookup occurrenceId) .notFound
    rejectIf (current.revision ≠ expectedRevision) .conflict
    rejectIf (!s.runs.contains runId) .conflict
    let occurrence ← (current.linkRun lease runId now).mapError fun _ => StoreError.conflict
    let attempts ← okOr (s.automationOccurrenceClaimAttempts.lookup occurrenceId) .conflict
    let attempts ← completeClaimAttempt current attempts .runLinked now
    return (occurrence, { s with
      automationOccurrences := s.automationOccurrences.insert occurrenceId occurrence
      automationOccurrenceClaimAttempts :=
        s.automationOccurrenceClaimAttempts.insert occurrenceId attempts })

end Claims

/-! ## Dispatching bound runs -/

variable (s : SchedulerState)

/-- The current records of a binding whose run is still queued. -/
def resumableDispatch (after : Option AutomationOccurrenceId)
    (binding : AutomationOccurrenceDispatchResult) : Option AutomationOccurrenceDispatchResult := do
  let occurrence ← s.automationOccurrences.lookup binding.occurrence.id
  let run ← s.runs.lookup binding.run.id
  if occurrence.state = .runLinked ∧ run.state = .queued ∧ occurrence.runId = some run.id
      ∧ (after.all fun after => after.value < occurrence.id.value) then
    some {
      occurrence := occurrence
      thread := binding.thread
      prompt := binding.prompt
      run := run }
  else none

/-- Lists the bound occurrences whose run is still queued. -/
def listResumableAutomationDispatches (after : Option AutomationOccurrenceId) (limit : ℕ) :
    Except StoreError (List AutomationOccurrenceDispatchResult) := do
  rejectIf (limit = 0 ∨ maxAutomationSchedulerTickDefinitions < limit) .conflict
  let results := (s.automationOccurrenceDispatches.values.filterMap
    (resumableDispatch s after)).insertionSort fun left right =>
      left.occurrence.id.value ≤ right.occurrence.id.value
  let results := results.take limit
  rejectIf (∃ dispatch ∈ results,
    s.automationOccurrences.lookup dispatch.occurrence.id ≠ some dispatch.occurrence
    ∨ s.threads.lookup dispatch.thread.id ≠ some dispatch.thread
    ∨ s.messages.lookup dispatch.prompt.id ≠ some dispatch.prompt
    ∨ dispatch.occurrence.runId ≠ some dispatch.run.id) invalidAutomationSchedulerJournal
  return results

/-- The audit event of a run that changed its state. -/
def stateChanged (source target : RunState) (now : UnixMillis) : NewRunEvent where
  occurredAt := now
  kind := .stateChanged source target

/-- Writes a run with its audit events. -/
def SchedulerState.writeRun (run : Run) (events : List NewRunEvent) : SchedulerState :=
  { s with
    toState := { s.toState with runs := s.runs.insert run.id run }.appendEvents run.id events }

/-- Moves the bound run of an occurrence from queued through planning to running. -/
def beginAutomationOccurrenceRun (occurrenceId : AutomationOccurrenceId)
    (expectedOccurrenceRevision : ℕ) (runId : RunId) (expectedRunRevision : ℕ) (now : UnixMillis) :
    SchedulerResult AutomationOccurrenceDispatchResult :=
  settle s do
    let binding ← okOr (s.automationOccurrenceDispatches.lookup occurrenceId) .notFound
    let occurrence ← okOr (s.automationOccurrences.lookup occurrenceId) .notFound
    let run ← okOr (s.runs.lookup runId) .notFound
    rejectIf (binding.run.id ≠ runId ∨ occurrence.state ≠ .runLinked
      ∨ occurrence.revision ≠ expectedOccurrenceRevision ∨ occurrence.runId ≠ some runId
      ∨ run.state ≠ .queued ∨ run.revision ≠ expectedRunRevision) .conflict
    let planning ← (run.transition .planning now).mapError fun _ => StoreError.conflict
    let running ← (planning.transition .running now).mapError fun _ => StoreError.conflict
    let events := [stateChanged run.state .planning now, stateChanged planning.state .running now]
    return ({ binding with occurrence := occurrence, run := running }, {
      s.writeRun running events with
      automationOccurrenceDispatches :=
        s.automationOccurrenceDispatches.insert occurrenceId { binding with run := running } })

/-- The state of the run that a completion asks for. -/
def AutomationOccurrenceRunCompletion.runState : AutomationOccurrenceRunCompletion → RunState
  | .succeeded => .completed
  | .failed => .failed
  | .interruptedNeedsReview => .interruptedNeedsReview
  | .cancelled => .cancelled

/-- Ends an occurrence as its run ended. -/
def AutomationOccurrenceRunCompletion.apply (completion : AutomationOccurrenceRunCompletion)
    (occurrence : AutomationOccurrence) (runId : RunId) (now : UnixMillis) :
    Except AutomationSchedulerError AutomationOccurrence :=
  match completion with
  | .succeeded => occurrence.succeed runId now
  | .failed => occurrence.fail runId now
  | .interruptedNeedsReview => occurrence.interrupt runId now
  | .cancelled => occurrence.cancel now

def soleQueuedOccurrence (automationId : AutomationId) :
    Except StoreError (Option AutomationOccurrence) :=
  match (s.occurrencesOf automationId).filter fun occurrence =>
      occurrence.state = .queuedOverlap with
  | [] => .ok none
  | [queued] => .ok (some queued)
  | _ => .error invalidAutomationSchedulerJournal

def promotedOccurrence (automationId : AutomationId) (now : UnixMillis) (error : StoreError) :
    Except StoreError (Option AutomationOccurrence) := do
  match ← soleQueuedOccurrence s automationId with
  | none => return none
  | some queued => return some (← (queued.promoteQueued now).mapError fun _ => error)

def insertOccurrence (occurrences : Table AutomationOccurrenceId AutomationOccurrence) :
    Option AutomationOccurrence → Table AutomationOccurrenceId AutomationOccurrence
  | none => occurrences
  | some occurrence => occurrences.insert occurrence.id occurrence

/-- Ends a running occurrence together with its run, and promotes the queued one. -/
def completeAutomationOccurrenceRun (occurrenceId : AutomationOccurrenceId) (expectedRevision : ℕ)
    (runId : RunId) (completion : AutomationOccurrenceRunCompletion) (now : UnixMillis) :
    SchedulerResult AutomationOccurrence :=
  settle s do
    let run ← okOr (s.runs.lookup runId) .notFound
    let current ← okOr (s.automationOccurrences.lookup occurrenceId) .notFound
    rejectIf (run.state ≠ .running ∨ current.revision ≠ expectedRevision
      ∨ current.runId ≠ some runId) .conflict
    let ended ← (run.transition completion.runState now).mapError fun _ => StoreError.conflict
    let occurrence ← (completion.apply current runId now).mapError fun _ => StoreError.conflict
    let promoted ← promotedOccurrence s occurrence.automationId now .conflict
    let binding ← okOr (s.automationOccurrenceDispatches.lookup occurrenceId)
      invalidAutomationSchedulerJournal
    return (occurrence, {
      s.writeRun ended [stateChanged .running completion.runState now] with
      automationOccurrences :=
        insertOccurrence (s.automationOccurrences.insert occurrence.id occurrence) promoted
      automationOccurrenceDispatches :=
        s.automationOccurrenceDispatches.insert occurrenceId
          { binding with occurrence := occurrence, run := ended } })

/-- Replaces a run of the expected revision, whatever its next state is. -/
def saveRun (run : Run) (expectedRevision : ℕ) (event : NewRunEvent) (command : MutationCommand) :
    SchedulerResult Run :=
  settle s do
    match s.executionCommands.lookup (command.scope, command.key) with
    | some record =>
        rejectIf (record.fingerprint ≠ command.fingerprint) .conflict
        return (record.outcome, s)
    | none =>
        let current ← okOr (s.runs.lookup run.id) .notFound
        rejectIf (current.revision ≠ expectedRevision ∨ run.revision ≠ expectedRevision + 1)
          .conflict
        return (run, { s.writeRun run [event] with
          executionCommands := s.executionCommands.insert (command.scope, command.key)
            { fingerprint := command.fingerprint, outcome := run } })

/-! ## Recovery -/

/-- What a recovery has staged so far. -/
structure RecoveryStage where
  occurrences : Table AutomationOccurrenceId AutomationOccurrence := ∅
  attempts : Table AutomationOccurrenceId (List AutomationOccurrenceClaimAttempt) := ∅
  runs : Table RunId Run := ∅
  runEvents : List (RunId × NewRunEvent) := []
  summary : AutomationSchedulerRecoverySummary

/-- The claimed and linked occurrences whose claim has expired, by expiry and identifier. -/
def SchedulerState.expiredOccurrences (now : UnixMillis) : List AutomationOccurrence :=
  (s.automationOccurrences.values.filter fun occurrence =>
    (occurrence.state = .claimed || occurrence.state = .runLinked) &&
      occurrence.claim.any fun claim => claim.expiresAt ≤ now).insertionSort fun left right =>
    let expiry := fun occurrence : AutomationOccurrence =>
      (occurrence.claim.map AutomationOccurrenceClaim.expiresAt).getD 0
    expiry left < expiry right ∨ (expiry left = expiry right ∧ left.id.value ≤ right.id.value)

/-- Whether the occurrence is bound to a run that is still queued. -/
def boundRunQueued (occurrence : AutomationOccurrence) (runId : RunId) : Bool :=
  (s.automationOccurrenceDispatches.lookup occurrence.id).any
      (fun binding => binding.run.id = runId) &&
    (s.runs.lookup runId).any fun run => run.state = .queued

/-- Ends a linked occurrence as its run ended; a run that has not ended is interrupted first. -/
def interruptLinked (occurrence : AutomationOccurrence) (runId : RunId) (now : UnixMillis) :
    Except StoreError (AutomationOccurrence × Option (Run × NewRunEvent)) := do
  let run ← okOr (s.runs.lookup runId) invalidAutomationSchedulerJournal
  let ended (outcome : Except AutomationSchedulerError AutomationOccurrence) :
      Except StoreError (AutomationOccurrence × Option (Run × NewRunEvent)) := do
    return (← outcome.mapError fun _ => invalidAutomationSchedulerJournal, none)
  match run.state with
  | .completed => ended (occurrence.succeed runId now)
  | .failed => ended (occurrence.fail runId now)
  | .cancelled => ended (occurrence.cancel now)
  | .interruptedNeedsReview => ended (occurrence.interrupt runId now)
  | .queued | .planning | .awaitingApproval | .running | .paused =>
      let interrupted ← (run.transition .interruptedNeedsReview now).mapError
        fun _ => invalidAutomationSchedulerJournal
      let occurrence ← (occurrence.interrupt runId now).mapError
        fun _ => invalidAutomationSchedulerJournal
      return (occurrence, some (interrupted, stateChanged run.state .interruptedNeedsReview now))

/-- The promoted overlap of an occurrence that needs review; no other end promotes it. -/
def reviewPromotion (occurrence : AutomationOccurrence) (now : UnixMillis) :
    Except StoreError (Option AutomationOccurrence) :=
  if occurrence.state = .interruptedNeedsReview then
    promotedOccurrence s occurrence.automationId now invalidAutomationSchedulerJournal
  else .ok none

/-- Stages an ended or released occurrence with the overlap it promotes. -/
def stageRecovered (stage : RecoveryStage) (occurrence : AutomationOccurrence)
    (attempts : List AutomationOccurrenceClaimAttempt) (now : UnixMillis) :
    Except StoreError RecoveryStage := do
  let promoted ← reviewPromotion s occurrence now
  return { stage with
    occurrences :=
      (insertOccurrence stage.occurrences promoted).insert occurrence.id occurrence
    attempts := stage.attempts.insert occurrence.id attempts }

/-- Releases an expired claim; after the last attempt the occurrence needs review. -/
def releaseClaim (now : UnixMillis) :
    Except StoreError (AutomationOccurrence × AutomationOccurrenceClaimCompletion) := do
  let released ← (occurrence.releaseExpiredClaim now).mapError
    fun _ => invalidAutomationSchedulerJournal
  if released.claimAttemptCount = maxAutomationOccurrenceClaimAttempts then do
    let exhausted ← (released.markClaimsExhausted now).mapError
      fun _ => invalidAutomationSchedulerJournal
    return (exhausted, .attemptsExhausted)
  else return (released, .expiredUnlinked)

/-- Recovers an expired claim without a run. -/
def recoverClaimed (now : UnixMillis) (stage : RecoveryStage) (current : AutomationOccurrence) :
    Except StoreError RecoveryStage := do
  let (occurrence, completion) ← releaseClaim current now
  let summary :=
    if completion = .attemptsExhausted then
      { stage.summary with attemptsExhausted := stage.summary.attemptsExhausted + 1 }
    else { stage.summary with releasedUnlinked := stage.summary.releasedUnlinked + 1 }
  let attempts ← okOr (s.automationOccurrenceClaimAttempts.lookup current.id)
    invalidAutomationSchedulerJournal
  let attempts ← completeClaimAttempt current attempts completion now
  stageRecovered s { stage with summary := summary } occurrence attempts now

/-- The attempts of a linked occurrence; the evidence of its link is not rewritten. -/
def linkedEvidence (current : AutomationOccurrence)
    (attempts : List AutomationOccurrenceClaimAttempt) (now : UnixMillis) :
    Except StoreError (List AutomationOccurrenceClaimAttempt) :=
  if attempts.getLast?.any AutomationOccurrenceClaimAttempt.isRunLinked then .ok attempts
  else completeClaimAttempt current attempts .runLinked now

/-- Stages the interrupted run of an occurrence, when there is one. -/
def RecoveryStage.withRun (stage : RecoveryStage) (runId : RunId) :
    Option (Run × NewRunEvent) → RecoveryStage
  | none => stage
  | some (run, event) => { stage with
      runs := stage.runs.insert runId run
      runEvents := stage.runEvents ++ [(runId, event)] }

def AutomationSchedulerRecoverySummary.countLinked (summary : AutomationSchedulerRecoverySummary)
    (occurrence : AutomationOccurrence) : AutomationSchedulerRecoverySummary :=
  if occurrence.state = .interruptedNeedsReview then
    { summary with interruptedLinked := summary.interruptedLinked + 1 }
  else summary

/-- Recovers an expired claim with a linked run. -/
def recoverLinked (now : UnixMillis) (stage : RecoveryStage) (current : AutomationOccurrence) :
    Except StoreError RecoveryStage := do
  let runId ← okOr current.runId invalidAutomationSchedulerJournal
  if boundRunQueued s current runId then
    return { stage with summary := { stage.summary with
      resumableBoundQueued := stage.summary.resumableBoundQueued + 1 } }
  else
    let (occurrence, interrupted) ← interruptLinked s current runId now
    let attempts ← okOr (s.automationOccurrenceClaimAttempts.lookup current.id)
      invalidAutomationSchedulerJournal
    let attempts ← linkedEvidence current attempts now
    let stage := { stage.withRun runId interrupted with
      summary := stage.summary.countLinked occurrence }
    stageRecovered s stage occurrence attempts now

section Recovery

variable [TimezoneLibrary] [Sha256Library] (s : SchedulerState)

def recoverOccurrence (now : UnixMillis) (stage : RecoveryStage) (current : AutomationOccurrence) :
    Except StoreError RecoveryStage := do
  let _ ← current.restore.mapError fun _ => invalidAutomationSchedulerJournal
  match current.state with
  | .claimed => recoverClaimed s now stage current
  | .runLinked => recoverLinked s now stage current
  | _ => .error invalidAutomationSchedulerJournal

/-- Writes a recovered occurrence, also into its binding. -/
def SchedulerState.writeRecoveredOccurrence (id : AutomationOccurrenceId)
    (occurrence : AutomationOccurrence) : SchedulerState :=
  { s with
    automationOccurrenceDispatches :=
      match s.automationOccurrenceDispatches.lookup id with
      | some binding =>
          s.automationOccurrenceDispatches.insert id { binding with occurrence := occurrence }
      | none => s.automationOccurrenceDispatches
    automationOccurrences := s.automationOccurrences.insert id occurrence }

/-- Writes an interrupted run, also into the binding that has it. -/
def SchedulerState.writeRecoveredRun (id : RunId) (run : Run) : SchedulerState :=
  { s with
    automationOccurrenceDispatches :=
      match s.automationOccurrenceDispatches.entries.find? fun entry => entry.2.run.id = id with
      | some entry => s.automationOccurrenceDispatches.insert entry.1 { entry.2 with run := run }
      | none => s.automationOccurrenceDispatches
    toState := { s.toState with runs := s.runs.insert id run } }

/-- Writes everything a recovery has staged. -/
def SchedulerState.writeRecovery (stage : RecoveryStage) : SchedulerState :=
  let s := stage.occurrences.entries.foldl (fun s entry =>
    s.writeRecoveredOccurrence entry.1 entry.2) s
  let s := stage.runs.entries.foldl (fun s entry => s.writeRecoveredRun entry.1 entry.2) s
  let base : State := stage.runEvents.foldl (fun base entry =>
    base.appendEvents entry.1 [entry.2]) s.toState
  { s with
    toState := base
    automationOccurrenceClaimAttempts :=
      s.automationOccurrenceClaimAttempts.insertEntries stage.attempts }

def recoverAutomationOccurrenceClaims (lease : AutomationSchedulerLeaseToken) (now : UnixMillis)
    (limit : ℕ) : SchedulerResult AutomationSchedulerRecoverySummary :=
  settle s do
    rejectIf (limit < 1 ∨ maxAutomationSchedulerRecoveryBatch < limit) .conflict
    let _ ← requireAutomationSchedulerLease s lease now
    let expired := s.expiredOccurrences now
    let stage ← (expired.take limit).foldlM (recoverOccurrence s now) {
      summary := {
        releasedUnlinked := 0
        interruptedLinked := 0
        attemptsExhausted := 0
        resumableBoundQueued := 0
        truncated := limit < expired.length } }
    return (stage.summary, s.writeRecovery stage)

end Recovery

end GrokDesktop
