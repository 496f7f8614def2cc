import GrokDesktop.Domain.Schedule
import GrokDesktop.Domain.Workspace

/-!
# Automation definitions and their cursors

An automation is a prompt with a schedule. The scheduler freezes what it needs of a definition in an
execution snapshot, and keeps a cursor with the time up to which the schedule was evaluated.
-/

namespace GrokDesktop

open Except

/-! ## Definitions -/

/-- Behavior when the application was unavailable at a scheduled time. -/
inductive MissedRunPolicy where
  | runOnce
  | skip
  deriving DecidableEq

/-- Behavior when a scheduled occurrence overlaps an active run. -/
inductive OverlapPolicy where
  | queueOne
  | skip
  deriving DecidableEq

/-- Automation lifecycle and enabled state. -/
inductive AutomationState where
  | enabled
  | disabled
  | archived
  deriving DecidableEq

/-- Durable automation definition. -/
structure Automation where
  id : AutomationId
  projectId : ProjectId
  title : String
  prompt : String
  schedule : String
  timezone : String
  missedRunPolicy : MissedRunPolicy
  overlapPolicy : OverlapPolicy
  state : AutomationState
  revision : ℕ
  createdAt : UnixMillis
  updatedAt : UnixMillis
  deriving DecidableEq

/-- The error of a schedule text that no parser accepts. -/
def invalidAutomationSchedule : WorkspaceError :=
  .invalidField "automation.schedule" "must use a supported canonical schedule"

/-- The characters of an IANA timezone identifier. -/
def isTimezoneCharacter (c : Char) : Bool :=
  isAsciiAlphanumeric c || "_+-/".toList.contains c

section Zones

variable [TimezoneLibrary]

/-- Checks the texts of a definition. -/
def validateAutomationText (title prompt timezone : String) : Except WorkspaceError Unit := do
  validateText "automation.title" title 1 maxNameBytes true
  validateText "automation.prompt" prompt 1 maxPromptBytes false
  validateText "automation.timezone" timezone 1 128 true
  rejectIf (!timezone.toList.all isTimezoneCharacter ∨ (TimezoneLibrary.parse timezone).isNone)
    (.invalidField "automation.timezone" "must be an IANA-style timezone identifier")

namespace Automation

/-- Rehydrates a stored definition after checking its texts, schedule and lifecycle. -/
def restore (snapshot : Automation) : Except WorkspaceError Automation := do
  validateAutomationText snapshot.title snapshot.prompt snapshot.timezone
  let _ ← (AutomationSchedule.parseCanonical snapshot.schedule).mapError
    fun _ => invalidAutomationSchedule
  rejectIf (snapshot.updatedAt < snapshot.createdAt ∨ (snapshot.revision = 0
      ∧ (snapshot.updatedAt ≠ snapshot.createdAt ∨ snapshot.state = .archived)))
    (.invalidField "automation.persisted_state" "has invalid lifecycle, revision, or timestamps")
  return snapshot

end Automation

end Zones

/-! ## History -/

/-- Recorded result of one scheduled occurrence. -/
inductive AutomationHistoryStatus where
  | succeeded
  | failed
  | skippedMissed
  | skippedOverlap
  deriving DecidableEq

/-- Ordered, append-only history entry. -/
structure AutomationHistoryEntry where
  automationId : AutomationId
  sequence : ℕ
  scheduledFor : UnixMillis
  recordedAt : UnixMillis
  status : AutomationHistoryStatus
  summary : String
  deriving DecidableEq

/-- Creates an unsequenced history entry. -/
def AutomationHistoryEntry.new (automationId : AutomationId)
    (scheduledFor recordedAt : UnixMillis) (status : AutomationHistoryStatus) (summary : String) :
    Except WorkspaceError AutomationHistoryEntry := do
  validateText "automation_history.summary" summary 0 1000 false
  rejectIf (recordedAt < scheduledFor)
    (.invalidField "automation_history.recorded_at" "must not predate the scheduled time")
  return {
    automationId := automationId
    sequence := 0
    scheduledFor := scheduledFor
    recordedAt := recordedAt
    status := status
    summary := summary }

/-! ## Errors of the scheduler -/

/-- Durable lifecycle of one scheduled slot. -/
inductive AutomationOccurrenceState where
  | pending
  | queuedOverlap
  | claimed
  | runLinked
  | succeeded
  | failed
  | skippedMissed
  | skippedOverlap
  | skippedInvalidLocalTime
  | interruptedNeedsReview
  | cancelled
  deriving DecidableEq

/-- Invalid construction or transition of a scheduler aggregate. -/
inductive AutomationSchedulerError where
  | schedule (error : AutomationScheduleError)
  | invalidExecutionText
  | invalidDecision
  | clockRegression
  | invalidOccurrenceTransition (source target : AutomationOccurrenceState)
  | revisionExhausted
  | invalidLease
  | staleFence
  | leaseExpired
  | leaseStillHeld
  | claimAttemptsExhausted
  | invalidPersistedState
  deriving DecidableEq

/-- The next revision of a scheduler aggregate. -/
def advanceRevision (revision : ℕ) : Except AutomationSchedulerError ℕ :=
  okOr (checkedAdd revision 1) .revisionExhausted

/-! ## Execution snapshots -/

/-- Immutable definition material of one occurrence. -/
structure AutomationExecutionSnapshot where
  definitionRevision : ℕ
  projectId : ProjectId
  title : String
  prompt : String
  schedule : AutomationSchedule
  canonicalSchedule : String
  timezone : String
  missedRunPolicy : MissedRunPolicy
  overlapPolicy : OverlapPolicy
  scheduleFingerprint : Digest
  calculatorVersion : ℕ
  deriving DecidableEq

/-- Maximum UTF-8 bytes of a frozen title. -/
def maxAutomationTitleBytes : ℕ := 200
/-- Maximum UTF-8 bytes of a frozen prompt. -/
def maxAutomationPromptBytes : ℕ := 64 * 1024

/-- Checks the frozen title and prompt. -/
def validateExecutionText (title prompt : String) : Except AutomationSchedulerError Unit :=
  let titleValid := trim title ≠ "" ∧ title.utf8ByteSize ≤ maxAutomationTitleBytes
    ∧ !title.toList.any isControl
  let promptValid := trim prompt ≠ "" ∧ prompt.utf8ByteSize ≤ maxAutomationPromptBytes
    ∧ !prompt.toList.any (unsupportedCharacter false)
  rejectIf (¬ titleValid ∨ ¬ promptValid) .invalidExecutionText

section Zones

variable [TimezoneLibrary] [Sha256Library]

namespace AutomationExecutionSnapshot

def new (definitionRevision : ℕ) (projectId : ProjectId)
    (title prompt canonicalSchedule timezone : String) (missedRunPolicy : MissedRunPolicy)
    (overlapPolicy : OverlapPolicy) :
    Except AutomationSchedulerError AutomationExecutionSnapshot := do
  validateExecutionText title prompt
  let schedule ← (AutomationSchedule.parseCanonical canonicalSchedule).mapError .schedule
  let timezone ← (parseTimezone timezone).mapError .schedule
  let scheduleFingerprint ← (schedule.fingerprint timezone.name).mapError .schedule
  return {
    definitionRevision := definitionRevision
    projectId := projectId
    title := title
    prompt := prompt
    schedule := schedule
    canonicalSchedule := canonicalSchedule
    timezone := timezone.name
    missedRunPolicy := missedRunPolicy
    overlapPolicy := overlapPolicy
    scheduleFingerprint := scheduleFingerprint
    calculatorVersion := automationScheduleCalculatorVersion }

/-- The redundant parts of the snapshot agree. -/
def wellFormed (snapshot : AutomationExecutionSnapshot) : Bool :=
  (validateExecutionText snapshot.title snapshot.prompt).isOk &&
    (AutomationSchedule.parseCanonical snapshot.canonicalSchedule).toOption
      = some snapshot.schedule &&
    (TimezoneLibrary.parse snapshot.timezone).any (fun timezone =>
      timezone.name = snapshot.timezone) &&
    snapshot.calculatorVersion = automationScheduleCalculatorVersion &&
    (snapshot.schedule.fingerprint snapshot.timezone).toOption = some snapshot.scheduleFingerprint

/-- Rehydrates a snapshot after checking its redundant parts. -/
def restore (snapshot : AutomationExecutionSnapshot) :
    Except AutomationSchedulerError AutomationExecutionSnapshot := do
  rejectIf (!snapshot.wellFormed) .invalidPersistedState
  return snapshot

/-- The snapshot of a definition. -/
def ofAutomation (automation : Automation) :
    Except AutomationSchedulerError AutomationExecutionSnapshot :=
  new automation.revision automation.projectId automation.title automation.prompt
    automation.schedule automation.timezone automation.missedRunPolicy automation.overlapPolicy

end AutomationExecutionSnapshot

/-! ## Cursors -/

/-- Durable cursor and next calendar decision of one definition revision. -/
structure AutomationScheduleCursor where
  automationId : AutomationId
  definitionRevision : ℕ
  scheduleFingerprint : Digest
  calculatorVersion : ℕ
  evaluatedThrough : UnixMillis
  nextDecision : Option AutomationScheduleDecision
  revision : ℕ
  createdAt : UnixMillis
  updatedAt : UnixMillis
  deriving DecidableEq

/-- The next decision is a calendar slot after the evaluated time. -/
def validateNextDecision (next : Option AutomationScheduleDecision)
    (evaluatedThrough : UnixMillis) : Except AutomationSchedulerError Unit :=
  match next with
  | none => .ok ()
  | some decision => do
      let _ ← decision.nominalLocal.toNaive.mapError .schedule
      rejectIf (decision.scheduledFor.any fun scheduledFor => scheduledFor ≤ evaluatedThrough)
        .invalidDecision

namespace AutomationScheduleCursor

def new (automationId : AutomationId) (snapshot : AutomationExecutionSnapshot)
    (evaluatedThrough : UnixMillis) (nextDecision : Option AutomationScheduleDecision)
    (now : UnixMillis) : Except AutomationSchedulerError AutomationScheduleCursor := do
  let _ ← snapshot.restore
  rejectIf (now < evaluatedThrough) .clockRegression
  validateNextDecision nextDecision evaluatedThrough
  return {
    automationId := automationId
    definitionRevision := snapshot.definitionRevision
    scheduleFingerprint := snapshot.scheduleFingerprint
    calculatorVersion := snapshot.calculatorVersion
    evaluatedThrough := evaluatedThrough
    nextDecision := nextDecision
    revision := 0
    createdAt := now
    updatedAt := now }

/-- Rehydrates a stored cursor after checking its shape. -/
def restore (cursor : AutomationScheduleCursor) :
    Except AutomationSchedulerError AutomationScheduleCursor := do
  rejectIf (cursor.calculatorVersion = 0 ∨ cursor.scheduleFingerprint = 0
    ∨ cursor.updatedAt < cursor.createdAt ∨ cursor.updatedAt < cursor.evaluatedThrough
    ∨ (cursor.revision = 0 ∧ cursor.updatedAt ≠ cursor.createdAt)
    ∨ !(validateNextDecision cursor.nextDecision cursor.evaluatedThrough).isOk)
    .invalidPersistedState
  return cursor

/-- Advances the evaluated time and the next decision. -/
def advance (cursor : AutomationScheduleCursor) (evaluatedThrough : UnixMillis)
    (nextDecision : Option AutomationScheduleDecision) (now : UnixMillis) :
    Except AutomationSchedulerError AutomationScheduleCursor := do
  rejectIf (evaluatedThrough < cursor.evaluatedThrough ∨ now < cursor.updatedAt
    ∨ now < evaluatedThrough) .clockRegression
  validateNextDecision nextDecision evaluatedThrough
  let revision ← advanceRevision cursor.revision
  return { cursor with
    revision := revision
    evaluatedThrough := evaluatedThrough
    nextDecision := nextDecision
    updatedAt := now }

end AutomationScheduleCursor

end Zones

end GrokDesktop
