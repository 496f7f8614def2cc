import GrokDesktop.Application.Ports
import GrokDesktop.Domain.Occurrence

/-!
# The automation scheduler port

The records that cross the boundary between the scheduler service and its store: lease acquisitions,
candidates and evaluations, claims and dispatches of occurrences.
-/

namespace GrokDesktop

/-! ## Bounds -/

/-- Maximum definition records inspected by one journal tick. -/
def maxAutomationSchedulerTickDefinitions : ℕ := 100
/-- Maximum expired claims recovered in one transaction. -/
def maxAutomationSchedulerRecoveryBatch : ℕ := 100
/-- Maximum proposed occurrences committed with one cursor advancement. -/
def maxAutomationSchedulerEvaluationOccurrences : ℕ := 3
/-- Maximum page of listed occurrences. -/
def maxAutomationOccurrencePageSize : ℕ := 100

/-! ## Command scopes -/

def automationEvaluationScope : String := "automation_scheduler_evaluate_v1"
def automationClaimScope : String := "automation_scheduler_claim_v1"

/-! ## Evaluations -/

/-- Result of acquiring or renewing the scheduler lease. -/
inductive AutomationSchedulerLeaseAcquisition where
  /-- The caller owns the lease; due times from `continuityStartedAt` on are not missed. -/
  | acquired (lease : AutomationSchedulerLease) (continuous : Bool)
      (continuityStartedAt : UnixMillis)
  /-- Another owner retains the lease. -/
  | busy (lease : AutomationSchedulerLease)
  /-- The clock is behind durable state. -/
  | clockRegressed (durableFloor : UnixMillis)
  deriving DecidableEq

/-- Enabled definition and its cursor. -/
structure AutomationScheduleCandidate where
  automation : Automation
  cursor : Option AutomationScheduleCursor
  deriving DecidableEq

/-- One cursor advancement and its occurrences. -/
structure AutomationScheduleEvaluationCommit where
  lease : AutomationSchedulerLeaseToken
  expectedAutomationRevision : ℕ
  expectedCursorRevision : Option ℕ
  cursor : AutomationScheduleCursor
  occurrences : List AutomationOccurrence
  observedAt : UnixMillis
  command : MutationCommand
  deriving DecidableEq

/-- A committed evaluation. -/
structure AutomationScheduleEvaluationResult where
  cursor : AutomationScheduleCursor
  occurrences : List AutomationOccurrence
  deriving DecidableEq

/-! ## Claims -/

/-- How a claim attempt ended. -/
inductive AutomationOccurrenceClaimCompletion where
  | expiredUnlinked
  | runLinked
  | attemptsExhausted
  | terminalized
  deriving DecidableEq

/-- Durable evidence of one claim. -/
structure AutomationOccurrenceClaimAttempt where
  occurrenceId : AutomationOccurrenceId
  sequence : ℕ
  ownerId : AutomationSchedulerOwnerId
  fence : ℕ
  claimedAt : UnixMillis
  expiresAt : UnixMillis
  completedAt : Option UnixMillis
  completion : Option AutomationOccurrenceClaimCompletion
  requestFingerprint : Digest
  deriving DecidableEq

/-- Input of an occurrence claim. -/
structure ClaimAutomationOccurrence where
  lease : AutomationSchedulerLeaseToken
  occurrenceId : AutomationOccurrenceId
  expectedRevision : ℕ
  claimedAt : UnixMillis
  expiresAt : UnixMillis
  command : MutationCommand
  deriving DecidableEq

/-- The work produced for one claimed occurrence. -/
structure AutomationOccurrenceDispatch where
  claim : ClaimAutomationOccurrence
  thread : Thread
  prompt : Message
  run : Run
  deriving DecidableEq

/-- An occurrence with the thread, prompt and run it is bound to. -/
structure AutomationOccurrenceDispatchResult where
  occurrence : AutomationOccurrence
  thread : Thread
  prompt : Message
  run : Run
  deriving DecidableEq

/-- How a run of an occurrence ended. -/
inductive AutomationOccurrenceRunCompletion where
  | succeeded
  | failed
  | interruptedNeedsReview
  | cancelled
  deriving DecidableEq

/-- Result of recovering expired claims. -/
structure AutomationSchedulerRecoverySummary where
  releasedUnlinked : ℕ
  interruptedLinked : ℕ
  attemptsExhausted : ℕ
  resumableBoundQueued : ℕ
  truncated : Bool
  deriving DecidableEq

/-- Whether a state occupies the one active occurrence of an automation. -/
def automationOccurrenceIsActive : AutomationOccurrenceState → Bool
  | .pending | .claimed | .runLinked => true
  | _ => false

end GrokDesktop
