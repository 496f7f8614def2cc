import GrokDesktop.Application.SchedulerPorts
import GrokDesktop.Memory.Workspace

/-!
# The scheduler journal of the in-memory store

The tables of the automation scheduler, the singleton lease, and the commit of a schedule
evaluation. Every operation makes all its checks before its first write, so it is a fallible
function to a result and a new state, and a failure leaves the store as it was (`Except.settle`).
-/

namespace GrokDesktop

open Except

/-! ## State -/

/-- Outcome of an exact evaluation command. -/
structure AutomationScheduleEvaluationCommandRecord where
  fingerprint : Digest
  result : AutomationScheduleEvaluationResult
  deriving DecidableEq

/-- Outcome of an exact claim command. -/
structure AutomationOccurrenceClaimCommandRecord where
  fingerprint : Digest
  occurrenceId : AutomationOccurrenceId
  result : AutomationOccurrence
  deriving DecidableEq

/-- Outcome of an exact run command. -/
structure ExecutionCommandRecord where
  fingerprint : Digest
  outcome : Run
  deriving DecidableEq

/-- The tables of the store, those of the automation scheduler included. -/
structure SchedulerState extends State where
  executionCommands : Table (String × String) ExecutionCommandRecord := ∅
  automations : Table AutomationId Automation := ∅
  automationHistory : Table AutomationId (List AutomationHistoryEntry) := ∅
  automationSchedulerLease : Option AutomationSchedulerLease := none
  automationScheduleCursors : Table AutomationId AutomationScheduleCursor := ∅
  automationScheduleEvaluationCommands :
    Table (String × String) AutomationScheduleEvaluationCommandRecord := ∅
  automationOccurrences : Table AutomationOccurrenceId AutomationOccurrence := ∅
  automationOccurrenceClaimAttempts :
    Table AutomationOccurrenceId (List AutomationOccurrenceClaimAttempt) := ∅
  automationOccurrenceClaimCommands :
    Table (String × String) AutomationOccurrenceClaimCommandRecord := ∅
  automationOccurrenceDispatches :
    Table AutomationOccurrenceId AutomationOccurrenceDispatchResult := ∅

/-- The result of an operation and the state it leaves. -/
abbrev SchedulerResult (α : Type) : Type := Except StoreError α × SchedulerState

/-- The error of a journal whose records contradict each other. -/
def invalidAutomationSchedulerJournal : StoreError :=
  .internal "invalid durable automation scheduler journal"

variable (s : SchedulerState)

def SchedulerState.occurrencesOf (id : AutomationId) : List AutomationOccurrence :=
  s.automationOccurrences.values.filter fun occurrence => occurrence.automationId = id

/-! ## Definitions -/

/-- Creates a definition in an active project. -/
def createAutomation (automation : Automation) (command : MutationCommand) :
    SchedulerResult Automation :=
  settle s do
    match ← priorCommand s.toState "create_automation" command with
    | some id => return (← replayedEntity s.automations id, s)
    | none =>
        let project ← okOr (s.projects.lookup automation.projectId) .notFound
        rejectIf (project.state ≠ .active ∨ s.automations.contains automation.id) .conflict
        return (automation, {
          s with
          automations := s.automations.insert automation.id automation
          toState := s.toState.recordCommand command automation.id.value })

/-- Replaces a definition of the expected revision. A definition that has a cursor is frozen. -/
def saveAutomation (automation : Automation) (expectedRevision : ℕ) (command : MutationCommand) :
    SchedulerResult Unit :=
  settle s do
    match ← priorCommand s.toState command.scope command with
    | some _ => return ((), s)
    | none =>
        rejectIf (command.scope = "update_automation"
          ∧ !(s.projects.lookup automation.projectId).any fun project => project.state = .active)
          .conflict
        rejectIf (s.automationScheduleCursors.contains automation.id) .conflict
        let automations ← revisionedReplace s.automations automation.id automation
          expectedRevision Automation.revision
        return ((), {
          s with
          automations := automations
          toState := s.toState.recordCommand command automation.id.value })

/-! ## The lease -/

/-- The latest time of a lease, cursor, occurrence or claim attempt of the journal. -/
def automationSchedulerDurableFloor : Option UnixMillis :=
  ((s.automationSchedulerLease.toList.map AutomationSchedulerLease.renewedAt) ++
    (s.automationScheduleCursors.values.flatMap fun cursor =>
      [cursor.evaluatedThrough, cursor.updatedAt]) ++
    (s.automationOccurrences.values.map AutomationOccurrence.updatedAt) ++
    (s.automationOccurrenceClaimAttempts.values.flatten.flatMap fun attempt =>
      attempt.claimedAt :: attempt.completedAt.toList)).max?

/-- Acquires a lease that nobody has held before. -/
def firstLease (ownerId : AutomationSchedulerOwnerId) (now : UnixMillis) (ttlMs : ℕ) :
    Except StoreError (AutomationSchedulerLeaseAcquisition × SchedulerState) := do
  let lease ← (AutomationSchedulerLease.acquire ownerId 1 now ttlMs).mapError fun _ => .conflict
  return (.acquired lease false now, { s with automationSchedulerLease := some lease })

/-- Renews an unexpired lease of the same owner. -/
def renewLease (lease : AutomationSchedulerLease) (now : UnixMillis) (ttlMs : ℕ) :
    Except StoreError (AutomationSchedulerLeaseAcquisition × SchedulerState) := do
  let renewed ← (lease.renew lease.token now ttlMs).mapError fun _ => .conflict
  return (.acquired renewed true lease.renewedAt,
    { s with automationSchedulerLease := some renewed })

/-- Takes an expired lease over under the next fence. -/
def takeOverLease (lease : AutomationSchedulerLease) (ownerId : AutomationSchedulerOwnerId)
    (now : UnixMillis) (ttlMs : ℕ) :
    Except StoreError (AutomationSchedulerLeaseAcquisition × SchedulerState) := do
  let nextFence ← okOr (checkedAdd lease.fence 1) invalidAutomationSchedulerJournal
  let taken ← (lease.takeOver ownerId nextFence now ttlMs).mapError fun _ => .conflict
  return (.acquired taken false now, { s with automationSchedulerLease := some taken })

/-- Acquires, renews or reports the scheduler lease. -/
def acquireAutomationSchedulerLease (ownerId : AutomationSchedulerOwnerId) (now : UnixMillis)
    (ttlMs : ℕ) : SchedulerResult AutomationSchedulerLeaseAcquisition :=
  settle s do
    rejectIf (ttlMs = 0 ∨ maxAutomationSchedulerLeaseMs < ttlMs) .conflict
    match (automationSchedulerDurableFloor s).filter (now < ·) with
    | some durableFloor => return (.clockRegressed durableFloor, s)
    | none =>
        match s.automationSchedulerLease with
        | none => firstLease s ownerId now ttlMs
        | some lease =>
            let _ ← lease.restore.mapError fun _ => invalidAutomationSchedulerJournal
            if now < lease.renewedAt then return (.clockRegressed lease.renewedAt, s)
            else if now < lease.expiresAt then
              if lease.ownerId ≠ ownerId then return (.busy lease, s)
              else renewLease s lease now ttlMs
            else takeOverLease s lease ownerId now ttlMs

/-- The lease, when the token owns it at the time. -/
def requireAutomationSchedulerLease (token : AutomationSchedulerLeaseToken) (now : UnixMillis) :
    Except StoreError AutomationSchedulerLease := do
  let lease ← okOr s.automationSchedulerLease .conflict
  let _ ← lease.restore.mapError fun _ => invalidAutomationSchedulerJournal
  rejectIf (lease.ownerId ≠ token.ownerId ∨ lease.fence ≠ token.fence ∨ now < lease.renewedAt
    ∨ !lease.isValidAt now) .conflict
  return lease

def validateSchedulerCommand (command : MutationCommand) (expectedScope : String) :
    Except StoreError Unit :=
  rejectIf (command.scope ≠ expectedScope ∨ command.key.isEmpty ∨ 128 < command.key.utf8ByteSize
    ∨ command.key.toList.any isControl) .conflict

section Journal

variable [TimezoneLibrary] [Sha256Library]

/-! ## Candidates -/

def automationSchedulerSnapshot (automation : Automation) :
    Except StoreError AutomationExecutionSnapshot := do
  let _ ← automation.restore.mapError fun _ => invalidAutomationSchedulerJournal
  (AutomationExecutionSnapshot.ofAutomation automation).mapError
    fun _ => invalidAutomationSchedulerJournal

/-- The cursor is well formed, belongs to the snapshot and names the next decision. -/
def automationScheduleCursorIsValid (cursor : AutomationScheduleCursor)
    (snapshot : AutomationExecutionSnapshot) : Bool :=
  cursor.restore.isOk && cursor.definitionRevision = snapshot.definitionRevision &&
    cursor.scheduleFingerprint = snapshot.scheduleFingerprint &&
    cursor.calculatorVersion = snapshot.calculatorVersion &&
    cursor.nextDecision = (snapshot.schedule.nextDecisionAfter snapshot.timezone
      cursor.evaluatedThrough).toOption

variable (s : SchedulerState)

/-- The cursor of a definition, which must match its snapshot. -/
def matchingAutomationScheduleCursor (automation : Automation)
    (snapshot : AutomationExecutionSnapshot) :
    Except StoreError (Option AutomationScheduleCursor) :=
  match s.automationScheduleCursors.lookup automation.id with
  | none => return none
  | some cursor => do
      rejectIf (cursor.automationId ≠ automation.id
        ∨ cursor.definitionRevision ≠ automation.revision
        ∨ cursor.scheduleFingerprint ≠ snapshot.scheduleFingerprint
        ∨ cursor.calculatorVersion ≠ snapshot.calculatorVersion) invalidAutomationSchedulerJournal
      rejectIf (!automationScheduleCursorIsValid cursor snapshot) invalidAutomationSchedulerJournal
      return some cursor

/-- The project of an automation is active. -/
def SchedulerState.projectActive (id : ProjectId) : Bool :=
  (s.projects.lookup id).any fun project => project.state = .active

/-- The enabled definitions of active projects, in the order of their identifiers. -/
def SchedulerState.enabledAutomations : List Automation :=
  (s.automations.values.filter fun automation =>
    automation.state = .enabled && s.projectActive automation.projectId).insertionSort
      fun left right => left.id.value ≤ right.id.value

/-- Lists enabled definitions with their cursors. -/
def listAutomationScheduleCandidates (after : Option AutomationId) (limit : ℕ) :
    Except StoreError (List AutomationScheduleCandidate) := do
  rejectIf (limit = 0 ∨ maxAutomationSchedulerTickDefinitions + 1 < limit) .conflict
  ((s.enabledAutomations.filter fun automation =>
    after.all fun after => after.value < automation.id.value).take limit).mapM fun automation => do
      let snapshot ← automationSchedulerSnapshot automation
      let cursor ← matchingAutomationScheduleCursor s automation snapshot
      return { automation := automation, cursor := cursor }

/-! ## Evaluations -/

/-- Checks a proposed occurrence. -/
def validateNewAutomationOccurrence (occurrence : AutomationOccurrence) (automation : Automation)
    (snapshot : AutomationExecutionSnapshot) (cursor : AutomationScheduleCursor)
    (observedAt : UnixMillis) : Except StoreError Unit := do
  let _ ← occurrence.restore.mapError fun _ => StoreError.conflict
  let validInitialState := match occurrence.state with
    | .pending | .skippedInvalidLocalTime => decide (occurrence.revision = 0)
    | .skippedMissed => occurrence.revision = 1 && snapshot.missedRunPolicy = .skip
    | .queuedOverlap | .claimed | .runLinked | .succeeded | .failed | .skippedOverlap
    | .interruptedNeedsReview | .cancelled => false
  rejectIf (!validInitialState ∨ occurrence.id.value.isEmpty
    ∨ occurrence.automationId ≠ automation.id ∨ occurrence.snapshot ≠ snapshot
    ∨ occurrence.snapshot.definitionRevision ≠ automation.revision
    ∨ occurrence.createdAt ≠ observedAt ∨ occurrence.updatedAt ≠ observedAt
    ∨ occurrence.claimAttemptCount ≠ 0 ∨ occurrence.occurrenceCount = 0
    ∨ maxAutomationScheduleDecisions < occurrence.occurrenceCount
    ∨ (occurrence.scheduledFor.any fun scheduledFor => cursor.evaluatedThrough < scheduledFor)
    ∨ (1 < occurrence.occurrenceCount ∧ snapshot.missedRunPolicy = .skip
      ∧ occurrence.state ≠ .skippedMissed)) .conflict

/-- The occurrences of an evaluation that are staged so far. -/
structure StagedOccurrences where
  activeCount : ℕ
  queuedCount : ℕ
  occurrences : List AutomationOccurrence := []
  slots : List AutomationOccurrenceSlot := []
  priorLocal : Option AutomationLocalDateTime := none

/-- Applies the overlap policy to a proposed occurrence. -/
def adjudicateOverlap (staged : StagedOccurrences) (proposed : AutomationOccurrence)
    (observedAt : UnixMillis) :
    Except StoreError (AutomationOccurrence × ℕ × ℕ) :=
  if proposed.state ≠ .pending then
    return (proposed, staged.activeCount, staged.queuedCount)
  else if staged.activeCount = 0 then return (proposed, 1, staged.queuedCount)
  else if proposed.snapshot.overlapPolicy = .queueOne ∧ staged.queuedCount = 0 then do
    let queued ← (proposed.queueOverlap observedAt).mapError fun _ => StoreError.conflict
    return (queued, staged.activeCount, 1)
  else do
    let skipped ← (proposed.skipOverlap observedAt).mapError fun _ => StoreError.conflict
    return (skipped, staged.activeCount, staged.queuedCount)

def stageOccurrence (automation : Automation) (snapshot : AutomationExecutionSnapshot)
    (cursor : AutomationScheduleCursor) (observedAt : UnixMillis)
    (allowedSlots : List AutomationLocalDateTime) (staged : StagedOccurrences)
    (proposed : AutomationOccurrence) : Except StoreError StagedOccurrences := do
  validateNewAutomationOccurrence proposed automation snapshot cursor observedAt
  rejectIf ((staged.priorLocal.any fun prior => ¬ prior.Before proposed.nominalLocal)
    ∨ proposed.nominalLocal ∉ allowedSlots ∨ proposed.slot ∈ staged.slots
    ∨ s.automationOccurrences.contains proposed.id
    ∨ ∃ stored ∈ s.occurrencesOf proposed.automationId, stored.slot = proposed.slot) .conflict
  let (actual, activeCount, queuedCount) ← adjudicateOverlap staged proposed observedAt
  return {
    activeCount := activeCount
    queuedCount := queuedCount
    occurrences := staged.occurrences ++ [actual]
    slots := staged.slots ++ [proposed.slot]
    priorLocal := some proposed.nominalLocal }

/-- Counts the active and queued occurrences of an automation, all of which must be well formed. -/
def countOccurrences (id : AutomationId) : Except StoreError (ℕ × ℕ) := do
  let occurrences := s.occurrencesOf id
  rejectIf (∃ occurrence ∈ occurrences, !occurrence.restore.isOk) invalidAutomationSchedulerJournal
  let activeCount := occurrences.countP fun occurrence =>
    automationOccurrenceIsActive occurrence.state
  let queuedCount := occurrences.countP fun occurrence => occurrence.state = .queuedOverlap
  rejectIf (1 < activeCount ∨ 1 < queuedCount ∨ (activeCount = 0 ∧ queuedCount ≠ 0))
    invalidAutomationSchedulerJournal
  return (activeCount, queuedCount)

/-- The history of an automation is numbered from one. -/
def validateAutomationHistorySequence (history : List AutomationHistoryEntry) :
    Except StoreError Unit :=
  rejectIf (history.map AutomationHistoryEntry.sequence ≠ List.range' 1 history.length)
    invalidAutomationSchedulerJournal

/-- The history status and summary of a skipped occurrence. -/
def skippedHistory : AutomationOccurrenceState → Option (AutomationHistoryStatus × String)
  | .skippedMissed => some (.skippedMissed, "Skipped by missed-run policy.")
  | .skippedOverlap => some (.skippedOverlap, "Skipped by overlap policy.")
  | .pending | .queuedOverlap | .claimed | .runLinked | .succeeded | .failed
  | .skippedInvalidLocalTime | .interruptedNeedsReview | .cancelled => none

def stageSchedulerHistory (recordedAt : UnixMillis) (history : List AutomationHistoryEntry)
    (occurrence : AutomationOccurrence) : Except StoreError (List AutomationHistoryEntry) :=
  match skippedHistory occurrence.state with
  | none => return history
  | some (status, summary) => do
      let scheduledFor ← okOr occurrence.scheduledFor invalidAutomationSchedulerJournal
      match history.find? fun entry => entry.scheduledFor = scheduledFor with
      | some existing =>
          rejectIf (existing.automationId ≠ occurrence.automationId
            ∨ existing.recordedAt ≠ recordedAt ∨ existing.status ≠ status
            ∨ existing.summary ≠ summary) .conflict
          return history
      | none =>
          let entry ← (AutomationHistoryEntry.new occurrence.automationId scheduledFor recordedAt
            status summary).mapError fun _ => StoreError.conflict
          return history ++ [{ entry with sequence := history.length + 1 }]

/-- The cursor that an evaluation must commit. -/
def expectedEvaluationCursor (automation : Automation) (snapshot : AutomationExecutionSnapshot)
    (current : Option AutomationScheduleCursor) (evaluation : AutomationScheduleEvaluationCommit) :
    Except StoreError AutomationScheduleCursor :=
  match current with
  | some cursor =>
      (cursor.advance evaluation.cursor.evaluatedThrough evaluation.cursor.nextDecision
        evaluation.observedAt).mapError fun _ => .conflict
  | none =>
      (AutomationScheduleCursor.new automation.id snapshot evaluation.cursor.evaluatedThrough
        evaluation.cursor.nextDecision evaluation.observedAt).mapError fun _ => .conflict

/-- The nominal slots that an evaluation may record: those of the schedule since the last cursor. -/
def allowedEvaluationSlots (snapshot : AutomationExecutionSnapshot)
    (current : Option AutomationScheduleCursor) (evaluatedThrough : UnixMillis) :
    Except StoreError (List AutomationLocalDateTime) :=
  match current with
  | none => return []
  | some prior => do
      let calculation ← (snapshot.schedule.decisionsBetween snapshot.timezone
        prior.evaluatedThrough evaluatedThrough maxAutomationScheduleDecisions).mapError
          fun _ => StoreError.conflict
      rejectIf calculation.truncated .conflict
      return calculation.decisions.map AutomationScheduleDecision.nominalLocal

/-- What a checked evaluation writes. -/
structure EvaluationWrites where
  automation : Automation
  occurrences : List AutomationOccurrence
  history : List AutomationHistoryEntry

/-- The definition and cursor that an evaluation is about. -/
def checkedEvaluation (evaluation : AutomationScheduleEvaluationCommit) :
    Except StoreError
      (Automation × AutomationExecutionSnapshot × Option AutomationScheduleCursor) := do
  let _ ← requireAutomationSchedulerLease s evaluation.lease evaluation.observedAt
  rejectIf (maxAutomationSchedulerEvaluationOccurrences < evaluation.occurrences.length) .conflict
  let automation ← okOr (s.automations.lookup evaluation.cursor.automationId) .notFound
  rejectIf (automation.state ≠ .enabled
    ∨ automation.revision ≠ evaluation.expectedAutomationRevision
    ∨ !s.projectActive automation.projectId) .conflict
  let snapshot ← automationSchedulerSnapshot automation
  let current ← matchingAutomationScheduleCursor s automation snapshot
  rejectIf (current.map AutomationScheduleCursor.revision ≠ evaluation.expectedCursorRevision)
    .conflict
  rejectIf (current.isNone ∧ (evaluation.cursor.evaluatedThrough ≠ automation.updatedAt
    ∨ !evaluation.occurrences.isEmpty)) .conflict
  let expected ← expectedEvaluationCursor automation snapshot current evaluation
  rejectIf (expected ≠ evaluation.cursor) .conflict
  rejectIf (!automationScheduleCursorIsValid evaluation.cursor snapshot) .conflict
  return (automation, snapshot, current)

/-- Checks an evaluation and stages its occurrences and history. -/
def stageEvaluation (evaluation : AutomationScheduleEvaluationCommit) :
    Except StoreError EvaluationWrites := do
  let (automation, snapshot, current) ← checkedEvaluation s evaluation
  let allowedSlots ← allowedEvaluationSlots snapshot current evaluation.cursor.evaluatedThrough
  let (activeCount, queuedCount) ← countOccurrences s automation.id
  let staged ← evaluation.occurrences.foldlM (stageOccurrence s automation snapshot
    evaluation.cursor evaluation.observedAt allowedSlots)
      { activeCount := activeCount, queuedCount := queuedCount }
  let history := (s.automationHistory.lookup automation.id).getD []
  validateAutomationHistorySequence history
  let history ← staged.occurrences.foldlM (stageSchedulerHistory evaluation.observedAt) history
  return { automation := automation, occurrences := staged.occurrences, history := history }

def SchedulerState.writeEvaluation (evaluation : AutomationScheduleEvaluationCommit)
    (writes : EvaluationWrites) : SchedulerState :=
  { s with
    automationScheduleCursors :=
      s.automationScheduleCursors.insert writes.automation.id evaluation.cursor
    automationOccurrences :=
      s.automationOccurrences.insertAll AutomationOccurrence.id writes.occurrences
    automationHistory :=
      if writes.history.isEmpty then s.automationHistory
      else s.automationHistory.insert writes.automation.id writes.history
    automationScheduleEvaluationCommands :=
      s.automationScheduleEvaluationCommands.insert
        (evaluation.command.scope, evaluation.command.key) {
          fingerprint := evaluation.command.fingerprint
          result := { cursor := evaluation.cursor, occurrences := writes.occurrences } } }

/-- Commits one exact evaluation with overlap adjudication. -/
def commitAutomationScheduleEvaluation (evaluation : AutomationScheduleEvaluationCommit) :
    SchedulerResult AutomationScheduleEvaluationResult :=
  settle s do
    validateSchedulerCommand evaluation.command automationEvaluationScope
    match s.automationScheduleEvaluationCommands.lookup
        (evaluation.command.scope, evaluation.command.key) with
    | some record =>
        -- an exact repetition is answered before the lease is looked at
        rejectIf (record.fingerprint ≠ evaluation.command.fingerprint
          ∨ record.result.cursor.automationId ≠ evaluation.cursor.automationId) .conflict
        return (record.result, s)
    | none =>
        let writes ← stageEvaluation s evaluation
        return ({ cursor := evaluation.cursor, occurrences := writes.occurrences },
          s.writeEvaluation evaluation writes)

/-! ## Reading occurrences -/

def getAutomationOccurrence (id : AutomationOccurrenceId) :
    Except StoreError AutomationOccurrence := do
  let occurrence ← okOr (s.automationOccurrences.lookup id) .notFound
  occurrence.restore.mapError fun _ => invalidAutomationSchedulerJournal

/-- Occurrences are listed by definition revision, nominal slot and identifier. -/
def AutomationOccurrence.listedBefore (left right : AutomationOccurrence) : Prop :=
  left.snapshot.definitionRevision < right.snapshot.definitionRevision
    ∨ (left.snapshot.definitionRevision = right.snapshot.definitionRevision
      ∧ (left.nominalLocal.Before right.nominalLocal
        ∨ (left.nominalLocal = right.nominalLocal ∧ left.id.value < right.id.value)))

instance : DecidableRel AutomationOccurrence.listedBefore := fun _ _ => by
  unfold AutomationOccurrence.listedBefore
  infer_instance

/-- The occurrences of an automation in the order of listing. -/
def SchedulerState.listedOccurrences (id : AutomationId) : List AutomationOccurrence :=
  (s.occurrencesOf id).insertionSort fun left right => ¬ right.listedBefore left

def listAutomationOccurrences (automationId : AutomationId) (after : Option AutomationOccurrenceId)
    (limit : ℕ) : Except StoreError (List AutomationOccurrence) := do
  rejectIf (limit < 1 ∨ maxAutomationOccurrencePageSize < limit) .conflict
  rejectIf (!s.automations.contains automationId) .notFound
  rejectIf (∃ occurrence ∈ s.occurrencesOf automationId, !occurrence.restore.isOk)
    invalidAutomationSchedulerJournal
  afterPosition (s.listedOccurrences automationId) (after.map EntityId.value) limit
    fun occurrence => occurrence.id.value

end Journal

end GrokDesktop
