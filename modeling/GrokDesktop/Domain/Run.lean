import GrokDesktop.Domain.Basic

/-!
# Runs and side effects

The durable lifecycle of an agent run and of the side-effect intent around an external call: the
two state machines that a conversation turn or a scheduled occurrence drives along with its own.
-/

namespace GrokDesktop

/-! ## Runs -/

/-- Product flow that owns a durable run. -/
inductive RunKind where
  | unspecified
  | chat
  | work
  | scheduled
  deriving DecidableEq

/-- Concrete execution backend immutably bound to a Work run. -/
inductive WorkExecutionBackend where
  | hostDirect
  | isolatedGuest
  deriving DecidableEq

/-- Durable lifecycle of an agent run. -/
inductive RunState where
  | queued
  | planning
  | awaitingApproval
  | running
  | paused
  | completed
  | failed
  | cancelled
  | interruptedNeedsReview
  deriving DecidableEq

/-- Whether no further transitions are permitted. -/
def RunState.isTerminal : RunState → Bool
  | completed | failed | cancelled => true
  | _ => false

/-- The edges of the run state machine. -/
def RunState.permits : RunState → RunState → Bool
  | queued, planning | queued, cancelled | queued, interruptedNeedsReview => true
  | planning, awaitingApproval | planning, running | planning, failed | planning, cancelled
  | planning, interruptedNeedsReview => true
  | awaitingApproval, running | awaitingApproval, paused | awaitingApproval, failed
  | awaitingApproval, cancelled | awaitingApproval, interruptedNeedsReview => true
  | running, awaitingApproval | running, paused | running, completed | running, failed
  | running, cancelled | running, interruptedNeedsReview => true
  | paused, running | paused, failed | paused, cancelled | paused, interruptedNeedsReview => true
  | interruptedNeedsReview, running | interruptedNeedsReview, failed
  | interruptedNeedsReview, cancelled => true
  | _, _ => false

/-- Failure to apply a run transition. -/
inductive TransitionError where
  | invalidRunTransition (source target : RunState)
  | clockRegression (current attempted : UnixMillis)
  deriving DecidableEq

/-- A durable unit of agent work. -/
structure Run where
  id : RunId
  projectId : ProjectId
  threadId : ThreadId
  kind : RunKind
  workBackend : Option WorkExecutionBackend
  state : RunState
  revision : ℕ
  createdAt : UnixMillis
  updatedAt : UnixMillis
  deriving DecidableEq

namespace Run

def queued (id : RunId) (projectId : ProjectId) (threadId : ThreadId) (now : UnixMillis) : Run where
  id := id
  projectId := projectId
  threadId := threadId
  kind := .chat
  workBackend := none
  state := .queued
  revision := 0
  createdAt := now
  updatedAt := now

/-- Creates an unprivileged queued scheduler run. -/
def queuedScheduled (id : RunId) (projectId : ProjectId) (threadId : ThreadId)
    (now : UnixMillis) : Run :=
  { queued id projectId threadId now with kind := .scheduled }

/-- Applies a legal state transition and increments the revision. -/
def transition (run : Run) (next : RunState) (now : UnixMillis) : Except TransitionError Run :=
  if !run.state.permits next then
    .error (.invalidRunTransition run.state next)
  else if now < run.updatedAt then
    .error (.clockRegression run.updatedAt now)
  else
    .ok { run with state := next, revision := saturatingAdd run.revision 1, updatedAt := now }

/-- What a successful transition does. -/
theorem transition_eq_ok {run run' : Run} {next : RunState} {now : UnixMillis} :
    run.transition next now = .ok run' ↔
      run.state.permits next = true ∧ run.updatedAt ≤ now ∧
        run' = { run with
          state := next, revision := saturatingAdd run.revision 1, updatedAt := now } := by
  by_cases hperm : run.state.permits next <;> by_cases hnow : now < run.updatedAt
  · simp [transition, hperm, hnow]
  · simp [transition, hperm, hnow, Nat.le_of_not_lt hnow, eq_comm (b := run')]
  · simp [transition, hperm]
  · simp [transition, hperm]

end Run

/-- Events clients can replay after reconnecting. -/
inductive RunEventKind where
  | created
  | stateChanged (source target : RunState)
  | effectPrepared (effectId : EffectId)
  | effectNeedsReview (effectId : EffectId)
  deriving DecidableEq

/-- Append-only audit event emitted by run use cases. -/
structure RunEvent where
  sequence : ℕ
  runId : RunId
  occurredAt : UnixMillis
  kind : RunEventKind
  deriving DecidableEq

/-! ## Side effects -/

/-- Broad side-effect class used for policy and recovery. -/
inductive EffectKind where
  | fileWrite
  | processExecution
  | externalMutation
  | computerInput
  deriving DecidableEq

/-- Whether an operation can be safely retried with the same idempotency key. -/
inductive Idempotency where
  | idempotent
  | nonIdempotent
  deriving DecidableEq

/-- Durable execution state of a side-effect intent. -/
inductive EffectState where
  | prepared
  | executing
  | succeeded
  | failed
  | needsReview
  deriving DecidableEq

/-- Invalid lifecycle operation for a side effect. -/
structure EffectTransitionError where
  source : EffectState
  target : EffectState
  deriving DecidableEq

/-- Persisted intent surrounding every externally visible mutation. -/
structure SideEffect where
  id : EffectId
  runId : RunId
  kind : EffectKind
  target : String
  idempotency : Idempotency
  state : EffectState
  revision : ℕ
  createdAt : UnixMillis
  updatedAt : UnixMillis
  deriving DecidableEq

namespace SideEffect

/-- Records an intent before an external operation begins. -/
def prepare (id : EffectId) (runId : RunId) (kind : EffectKind) (target : String)
    (idempotency : Idempotency) (now : UnixMillis) : SideEffect where
  id := id
  runId := runId
  kind := kind
  target := target
  idempotency := idempotency
  state := .prepared
  revision := 0
  createdAt := now
  updatedAt := now

/-- The edges of the effect state machine. -/
def permits : EffectState → EffectState → Bool
  | .prepared, .executing => true
  | .executing, .succeeded | .executing, .failed | .executing, .needsReview => true
  | _, _ => false

variable (effect : SideEffect)

/-- Applies one edge of the effect state machine. The timestamp never moves backwards. -/
def moveTo (next : EffectState) (now : UnixMillis) : Except EffectTransitionError SideEffect :=
  if permits effect.state next then
    .ok { effect with
      state := next
      revision := saturatingAdd effect.revision 1
      updatedAt := max now effect.updatedAt }
  else
    .error ⟨effect.state, next⟩

/-- Marks dispatch as started. -/
def start (now : UnixMillis) : Except EffectTransitionError SideEffect :=
  effect.moveTo .executing now

/-- Records a known external result. -/
def finish (succeeded : Bool) (now : UnixMillis) : Except EffectTransitionError SideEffect :=
  effect.moveTo (if succeeded then .succeeded else .failed) now

/-- Converts an interrupted dispatch into an explicit recovery decision. -/
def interrupt (now : UnixMillis) : Except EffectTransitionError SideEffect :=
  effect.moveTo .needsReview now

/-- What a successful move does. -/
theorem moveTo_eq_ok {effect effect' : SideEffect} {next : EffectState} {now : UnixMillis} :
    effect.moveTo next now = .ok effect' ↔
      permits effect.state next = true ∧
        effect' = { effect with
          state := next
          revision := saturatingAdd effect.revision 1
          updatedAt := max now effect.updatedAt } := by
  by_cases hperm : permits effect.state next
  · simp [moveTo, hperm, eq_comm (b := effect')]
  · simp [moveTo, hperm]

end SideEffect

end GrokDesktop
