import GrokDesktop.Lib.Pool
import GrokDesktop.Application.Requests
import GrokDesktop.Memory.Claims

/-!
# The calls of the scheduler store

Every scheduler service and every other client uses the scheduler store through the calls below, at
any time and with any arguments. `schedulerSystem` says how they are answered: each by the store
operation of its name.
-/

namespace GrokDesktop

open Resumption

/-! ## Calls -/

/-- The calls of the scheduler service and of the other clients of the scheduler store. -/
inductive SchedulerCall where
  -- definitions
  | createAutomation (automation : Automation) (command : MutationCommand)
  | saveAutomation (automation : Automation) (expectedRevision : ℕ) (command : MutationCommand)
  -- the journal
  | acquireLease (ownerId : AutomationSchedulerOwnerId) (now : UnixMillis) (ttlMs : ℕ)
  | listCandidates (after : Option AutomationId) (limit : ℕ)
  | commitEvaluation (evaluation : AutomationScheduleEvaluationCommit)
  | getOccurrence (id : AutomationOccurrenceId)
  | listOccurrences (automationId : AutomationId) (after : Option AutomationOccurrenceId)
      (limit : ℕ)
  | claim (claim : ClaimAutomationOccurrence)
  | claimAndBind (dispatch : AutomationOccurrenceDispatch)
  | listResumable (after : Option AutomationOccurrenceId) (limit : ℕ)
  | beginRun (occurrenceId : AutomationOccurrenceId) (expectedOccurrenceRevision : ℕ)
      (runId : RunId) (expectedRunRevision : ℕ) (now : UnixMillis)
  | completeRun (occurrenceId : AutomationOccurrenceId) (expectedRevision : ℕ) (runId : RunId)
      (completion : AutomationOccurrenceRunCompletion) (now : UnixMillis)
  | recoverClaims (lease : AutomationSchedulerLeaseToken) (now : UnixMillis) (limit : ℕ)
  | linkRun (lease : AutomationSchedulerLeaseToken) (occurrenceId : AutomationOccurrenceId)
      (expectedRevision : ℕ) (runId : RunId) (now : UnixMillis)
  | saveRun (run : Run) (expectedRevision : ℕ) (event : NewRunEvent) (command : MutationCommand)

namespace SchedulerCall

/-- The reply to each call. -/
@[reducible] def Reply : SchedulerCall → Type
  | createAutomation _ _ => Except StoreError Automation
  | saveAutomation _ _ _ => Except StoreError Unit
  | acquireLease _ _ _ => Except StoreError AutomationSchedulerLeaseAcquisition
  | listCandidates _ _ => Except StoreError (List AutomationScheduleCandidate)
  | commitEvaluation _ => Except StoreError AutomationScheduleEvaluationResult
  | listOccurrences _ _ _ => Except StoreError (List AutomationOccurrence)
  | getOccurrence _ | claim _ | completeRun _ _ _ _ _ | linkRun _ _ _ _ _ =>
      Except StoreError AutomationOccurrence
  | claimAndBind _ | beginRun _ _ _ _ _ => Except StoreError AutomationOccurrenceDispatchResult
  | listResumable _ _ => Except StoreError (List AutomationOccurrenceDispatchResult)
  | recoverClaims _ _ _ => Except StoreError AutomationSchedulerRecoverySummary
  | saveRun _ _ _ _ => Except StoreError Run

end SchedulerCall

/-- The interface of the scheduler store. -/
abbrev schedulerInterface : Interface := ⟨SchedulerCall, SchedulerCall.Reply⟩

section System

variable [TimezoneLibrary] [Sha256Library]

/-- The result and new state of a call. -/
def schedulerAnswer (s : SchedulerState) : (c : SchedulerCall) → c.Reply × SchedulerState
  | .createAutomation automation command => createAutomation s automation command
  | .saveAutomation automation expectedRevision command =>
      saveAutomation s automation expectedRevision command
  | .acquireLease ownerId now ttlMs => acquireAutomationSchedulerLease s ownerId now ttlMs
  | .listCandidates after limit => (listAutomationScheduleCandidates s after limit, s)
  | .commitEvaluation evaluation => commitAutomationScheduleEvaluation s evaluation
  | .getOccurrence id => (getAutomationOccurrence s id, s)
  | .listOccurrences automationId after limit =>
      (listAutomationOccurrences s automationId after limit, s)
  | .claim claim => claimAutomationOccurrence s claim
  | .claimAndBind dispatch => claimAndBindAutomationOccurrence s dispatch
  | .listResumable after limit => (listResumableAutomationDispatches s after limit, s)
  | .beginRun occurrenceId expectedOccurrenceRevision runId expectedRunRevision now =>
      beginAutomationOccurrenceRun s occurrenceId expectedOccurrenceRevision runId
        expectedRunRevision now
  | .completeRun occurrenceId expectedRevision runId completion now =>
      completeAutomationOccurrenceRun s occurrenceId expectedRevision runId completion now
  | .recoverClaims lease now limit => recoverAutomationOccurrenceClaims s lease now limit
  | .linkRun lease occurrenceId expectedRevision runId now =>
      linkAutomationOccurrenceRun s lease occurrenceId expectedRevision runId now
  | .saveRun run expectedRevision event command =>
      saveRun s run expectedRevision event command

/-- The store answers its calls. -/
def schedulerSystem : System schedulerInterface SchedulerState where
  answers s c r s' := schedulerAnswer s c = (r, s')

end System

end GrokDesktop
