import GrokDesktop.Application.Errors
import GrokDesktop.Lib.Machine
import GrokDesktop.Lib.Table

/-!
# Runs, approvals and effects of Host Work

The services that move a run, its approvals and its side effects, over the three tables of the
execution store. A call reads a record and commits it under the revision that it read, so a call
that succeeds acts on the records as they are at its commit: it is one step on the store. A call
that fails changes nothing, and neither does a command that is repeated: it gets the outcome that
was recorded for it. The records of the decisions are kept here, as a decision is asked for by the
user and may be repeated at any time.
-/

namespace GrokDesktop

open Except

/-! ## Approvals -/

/-- User-visible impact classification for a requested action. -/
inductive ApprovalRisk where
  | low
  | elevated
  | high
  | critical
  deriving DecidableEq

/-- Maximum reuse permitted for an approval decision. -/
inductive ApprovalScope where
  | once
  | run
  | resource (identity : String)
  deriving DecidableEq

/-- Exact action presented to the user for an informed decision. -/
structure RequestedAction where
  action : String
  target : String
  dataSummary : String
  risk : ApprovalRisk
  deriving DecidableEq

/-- Approval request lifecycle. -/
inductive ApprovalStatus where
  | pending
  | granted
  | denied
  | expired
  | cancelled
  deriving DecidableEq

def ApprovalStatus.debug : ApprovalStatus → String
  | pending => "Pending"
  | granted => "Granted"
  | denied => "Denied"
  | expired => "Expired"
  | cancelled => "Cancelled"

/-- Decision accepted by the application boundary. -/
inductive ApprovalDecision where
  | grant
  | deny
  deriving DecidableEq

/-- Invalid approval lifecycle operation. -/
inductive ApprovalError where
  | alreadyDecided (status : ApprovalStatus)
  | expired (expiresAt : UnixMillis)
  deriving DecidableEq

def ApprovalError.display : ApprovalError → String
  | alreadyDecided status => "approval is already " ++ status.debug
  | expired expiresAt => "approval expired at " ++ toString expiresAt

def ApplicationError.ofApproval (error : ApprovalError) : ApplicationError :=
  .invalidState error.display

/-- Durable, scoped request for user authorization. -/
structure Approval where
  id : ApprovalId
  runId : RunId
  request : RequestedAction
  scope : ApprovalScope
  status : ApprovalStatus
  revision : ℕ
  createdAt : UnixMillis
  expiresAt : UnixMillis
  decidedAt : Option UnixMillis
  deriving DecidableEq

/-- Creates a pending approval request. -/
def Approval.pending (id : ApprovalId) (runId : RunId) (request : RequestedAction)
    (scope : ApprovalScope) (now expiresAt : UnixMillis) : Approval :=
  ⟨id, runId, request, scope, .pending, 0, now, expiresAt, none⟩

/-- Applies a user decision if the request is pending; whether its deadline had elapsed. -/
def Approval.decide (approval : Approval) (decision : ApprovalDecision) (now : UnixMillis) :
    Except ApprovalError (Bool × Approval) := do
  rejectIf (approval.status ≠ .pending) (.alreadyDecided approval.status)
  let expired := approval.expiresAt < now
  let status : ApprovalStatus :=
    if expired then .expired else if decision = .grant then .granted else .denied
  return (expired, { approval with
    status := status, decidedAt := some now, revision := saturatingAdd approval.revision 1 })

/-! ## Runs -/

/-- Whether the run is Work that is bound to the backend. -/
def Run.isWorkBoundTo (run : Run) (backend : WorkExecutionBackend) : Bool :=
  run.kind = .work && run.workBackend = some backend

/-- Creates a queued Work run bound to a backend. -/
def Run.queuedWork (id : RunId) (projectId : ProjectId) (threadId : ThreadId)
    (backend : WorkExecutionBackend) (now : UnixMillis) : Run :=
  { Run.queued id projectId threadId now with kind := .work, workBackend := some backend }

/-- A transition, and the check of the new revision by the commit that follows. -/
def Run.advance (run : Run) (next : RunState) (now : UnixMillis) : Except ApplicationError Run := do
  let run' ← (run.transition next now).mapError .ofTransition
  rejectIf (run'.revision ≠ run.revision + 1) .conflict
  return run'

/-- The run can be moved to the state. -/
def Run.CanAdvance (run : Run) (next : RunState) (now : UnixMillis) : Prop :=
  run.state.permits next = true ∧ run.updatedAt ≤ now ∧ run.revision < u64Max

/-- The run after a transition. -/
def Run.moved (run : Run) (next : RunState) (now : UnixMillis) : Run :=
  { run with state := next, revision := run.revision + 1, updatedAt := now }

lemma saturatingAdd_one_eq_succ {n : ℕ} : saturatingAdd n 1 = n + 1 ↔ n < u64Max := by
  unfold saturatingAdd
  omega

/-- What a transition does, and when it succeeds. -/
theorem Run.advance_eq_ok {run run' : Run} {next : RunState} {now : UnixMillis} :
    run.advance next now = .ok run' ↔ run.CanAdvance next now ∧ run' = run.moved next now := by
  simp only [advance, bind_eq_ok, mapError_eq_ok, transition_eq_ok, rejectIf_eq_ok, not_not,
    pure_eq_ok, Except.ok.injEq, moved]
  constructor
  · rintro ⟨moved, ⟨hperm, hnow, rfl⟩, _, hrev, rfl⟩
    have hroom := saturatingAdd_one_eq_succ.1 hrev
    refine ⟨⟨hperm, hnow, hroom⟩, ?_⟩
    rw [saturatingAdd_one_eq_succ.2 hroom]
  · rintro ⟨⟨hperm, hnow, hroom⟩, rfl⟩
    have hrev := saturatingAdd_one_eq_succ.2 hroom
    exact ⟨_, ⟨hperm, hnow, rfl⟩, (), hrev, by rw [hrev]⟩

def SideEffect.moved (effect : SideEffect) (next : EffectState) (now : UnixMillis) : SideEffect :=
  { effect with
    state := next, revision := effect.revision + 1, updatedAt := max now effect.updatedAt }

namespace HostWork

/-! ## The store and the services over it -/

/-- What leaves the daemon: a tool call under its effect, or the prompt of a run. -/
inductive Dispatch where
  | tool (effectId : EffectId)
  | prompt (runId : RunId)
  deriving DecidableEq

/-- What is recorded for the command of a decision. -/
structure ExecutionCommandRecord where
  fingerprint : Digest
  outcome : Approval
  deriving DecidableEq

/-- The tables of the execution store, and what was dispatched so far. -/
structure ExecutionState where
  runs : Table RunId Run := ∅
  approvals : Table ApprovalId Approval := ∅
  effects : Table EffectId SideEffect := ∅
  /-- The recorded decisions, by the scope and the key of their commands. -/
  executionCommands : Table (String × String) ExecutionCommandRecord := ∅
  dispatched : List Dispatch := []

/-- Input for a scoped approval checkpoint. -/
structure RequestApproval where
  runId : RunId
  expectedRunRevision : ℕ
  action : RequestedAction
  scope : ApprovalScope
  expiresAt : UnixMillis

/-- Input for recording a side-effect intent before dispatch. -/
structure PrepareEffect where
  runId : RunId
  kind : EffectKind
  target : String
  idempotency : Idempotency

namespace ExecutionState

variable {s s' : ExecutionState}

/-- `RunService::create_work` for the host backend. -/
def createWork (s : ExecutionState) (id : RunId) (projectId : ProjectId) (threadId : ThreadId)
    (now : UnixMillis) : Except ApplicationError (Run × ExecutionState) := do
  let run := Run.queuedWork id projectId threadId .hostDirect now
  rejectIf (s.runs.contains id) .conflict
  return (run, { s with runs := s.runs.insert id run })

/-- `RunService::transition`. -/
def transition (s : ExecutionState) (id : RunId) (expectedRevision : ℕ) (next : RunState)
    (now : UnixMillis) : Except ApplicationError (Run × ExecutionState) := do
  let run ← okOr (s.runs.lookup id) .notFound
  rejectIf (run.revision ≠ expectedRevision) .conflict
  let run' ← run.advance next now
  return (run', { s with runs := s.runs.insert id run' })

/-- `ApprovalService::request`. -/
def request (s : ExecutionState) (input : RequestApproval) (id : ApprovalId) (now : UnixMillis) :
    Except ApplicationError (Approval × ExecutionState) := do
  rejectIf (input.expiresAt ≤ now) (.invalidInput "approval expiry must be in the future")
  let run ← okOr (s.runs.lookup input.runId) .notFound
  rejectIf (run.revision ≠ input.expectedRunRevision) .conflict
  let run' ← run.advance .awaitingApproval now
  let approval := Approval.pending id input.runId input.action input.scope now input.expiresAt
  rejectIf (s.approvals.contains id) .conflict
  return (approval, { s with
    runs := s.runs.insert input.runId run', approvals := s.approvals.insert id approval })

/-- The outcome that is recorded for a command. -/
def priorExecutionCommand (s : ExecutionState) (command : MutationCommand) :
    Except ApplicationError (Option Approval) :=
  match s.executionCommands.lookup (command.scope, command.key) with
  | some record =>
      if record.fingerprint = command.fingerprint then .ok (some record.outcome)
      else .error .conflict
  | none => .ok none

/-- The answer to a decision that is repeated. -/
def decidedApprovalOutcome (approval : Approval) : Except ApplicationError Approval :=
  match approval.status with
  | .granted | .denied => .ok approval
  | .expired => .error (.ofApproval (.expired approval.expiresAt))
  | .pending | .cancelled =>
      .error (.storage "approval decision command returned an invalid lifecycle result")

/-- `ApprovalService::decide` for a command that is not recorded. A decision after the deadline is
an error of the call, but it closes the approval and pauses the run. -/
def commitDecision (s : ExecutionState) (id : ApprovalId) (expectedRevision : ℕ)
    (decision : ApprovalDecision) (command : MutationCommand) (now : UnixMillis) :
    Except ApplicationError (Except ApplicationError Approval × ExecutionState) := do
  let approval ← okOr (s.approvals.lookup id) .notFound
  rejectIf (approval.revision ≠ expectedRevision) .conflict
  let (expired, decided) ← (approval.decide decision now).mapError .ofApproval
  let next : RunState := if decision = .grant ∧ expired = false then .running else .paused
  let run ← okOr (s.runs.lookup approval.runId) .notFound
  let run' ← run.advance next now
  rejectIf (decided.revision ≠ expectedRevision + 1) .conflict
  let result := if expired then .error (.ofApproval (.expired decided.expiresAt)) else .ok decided
  return (result, { s with
    runs := s.runs.insert approval.runId run', approvals := s.approvals.insert id decided
    executionCommands := s.executionCommands.insert (command.scope, command.key)
      ⟨command.fingerprint, decided⟩ })

/-- `ApprovalService::decide`. -/
def decide (s : ExecutionState) (id : ApprovalId) (expectedRevision : ℕ)
    (decision : ApprovalDecision) (command : MutationCommand) (now : UnixMillis) :
    Except ApplicationError (Except ApplicationError Approval × ExecutionState) := do
  match ← s.priorExecutionCommand command with
  | some outcome => return (decidedApprovalOutcome outcome, s)
  | none => s.commitDecision id expectedRevision decision command now

/-- `SideEffectService::prepare_with_id`. -/
def prepare (s : ExecutionState) (input : PrepareEffect) (id : EffectId) (now : UnixMillis) :
    Except ApplicationError (SideEffect × ExecutionState) := do
  let run ← okOr (s.runs.lookup input.runId) .notFound
  rejectIf (run.state ≠ .running) (.invalidState "side effects require a running run")
  rejectIf (trim input.target = "") (.invalidInput "effect target cannot be empty")
  let effect :=
    SideEffect.prepare id input.runId input.kind input.target input.idempotency now
  rejectIf (s.effects.contains id) .conflict
  return (effect, { s with effects := s.effects.insert id effect })

/-- A move of an effect, committed under the revision that was read. -/
def moveEffect (s : ExecutionState) (id : EffectId) (expectedRevision : ℕ) (next : EffectState)
    (now : UnixMillis) : Except ApplicationError (SideEffect × ExecutionState) := do
  let effect ← okOr (s.effects.lookup id) .notFound
  rejectIf (effect.revision ≠ expectedRevision) .conflict
  let effect' ← (effect.moveTo next now).mapError .ofEffect
  rejectIf (effect'.revision ≠ expectedRevision + 1) .conflict
  return (effect', { s with effects := s.effects.insert id effect' })

/-- `SideEffectService::start`. -/
def start (s : ExecutionState) (id : EffectId) (expectedRevision : ℕ) (now : UnixMillis) :
    Except ApplicationError (SideEffect × ExecutionState) :=
  s.moveEffect id expectedRevision .executing now

/-- `SideEffectService::finish`. -/
def finish (s : ExecutionState) (id : EffectId) (expectedRevision : ℕ) (succeeded : Bool)
    (now : UnixMillis) : Except ApplicationError (SideEffect × ExecutionState) :=
  s.moveEffect id expectedRevision (if succeeded then .succeeded else .failed) now

/-- `SideEffectService::interrupt`. -/
def interrupt (s : ExecutionState) (id : EffectId) (expectedRevision : ℕ) (now : UnixMillis) :
    Except ApplicationError (SideEffect × ExecutionState) := do
  let (effect, s) ← s.moveEffect id expectedRevision .needsReview now
  let run ← okOr (s.runs.lookup effect.runId) .notFound
  let run' ← run.advance .interruptedNeedsReview now
  return (effect, { s with runs := s.runs.insert effect.runId run' })

/-! ## What the services do -/

variable {now : UnixMillis} {expected : ℕ}

/-- The result of a transition of the run service. -/
theorem transition_eq_ok {id : RunId} {next : RunState} {out : Run × ExecutionState} :
    s.transition id expected next now = .ok out ↔
      ∃ run, s.runs.lookup id = some run ∧ run.revision = expected ∧ run.CanAdvance next now ∧
        out = (run.moved next now, { s with runs := s.runs.insert id (run.moved next now) }) := by
  simp only [transition, bind_eq_ok, okOr_eq_ok, rejectIf_eq_ok, not_not, Run.advance_eq_ok,
    pure_eq_ok, Except.ok.injEq]
  constructor
  · rintro ⟨run, hrun, _, hrev, run', ⟨hcan, rfl⟩, rfl⟩
    exact ⟨run, hrun, hrev, hcan, rfl⟩
  · rintro ⟨run, hrun, hrev, hcan, rfl⟩
    exact ⟨run, hrun, (), hrev, _, ⟨hcan, rfl⟩, rfl⟩

/-- A request adds a pending approval and makes its run wait. -/
theorem request_eq_ok {input : RequestApproval} {id : ApprovalId}
    {out : Approval × ExecutionState} (h : s.request input id now = .ok out) :
    ∃ run, s.runs.lookup input.runId = some run ∧ run.CanAdvance .awaitingApproval now ∧
      s.approvals.lookup id = none ∧ out.1.status = .pending ∧ out.1.runId = input.runId ∧
      out.2 = { s with
        runs := s.runs.insert input.runId (run.moved .awaitingApproval now)
        approvals := s.approvals.insert id out.1 } := by
  simp only [request, bind_eq_ok, okOr_eq_ok, rejectIf_eq_ok, Run.advance_eq_ok, pure_eq_ok,
    Except.ok.injEq, Bool.not_eq_true] at h
  obtain ⟨_, _, run, hrun, _, _, run', ⟨hcan, rfl⟩, _, hnew, rfl⟩ := h
  exact ⟨run, hrun, hcan, Table.contains_eq_false.1 hnew, rfl, rfl, rfl⟩

/-- The command is recorded with its own fingerprint. -/
def IsRecorded (s : ExecutionState) (command : MutationCommand) (outcome : Approval) : Prop :=
  s.executionCommands.lookup (command.scope, command.key) = some ⟨command.fingerprint, outcome⟩

/-- What a recorded command answers. -/
lemma priorExecutionCommand_eq_some {command : MutationCommand} {outcome : Approval} :
    s.priorExecutionCommand command = .ok (some outcome) ↔ s.IsRecorded command outcome := by
  unfold priorExecutionCommand IsRecorded
  cases s.executionCommands.lookup (command.scope, command.key) with
  | none => simp
  | some record =>
    obtain ⟨fingerprint, recorded⟩ := record
    by_cases hsame : fingerprint = command.fingerprint
    · simp [hsame]
    · simp [hsame]

section Decisions

variable {id : ApprovalId} {decision : ApprovalDecision} {command : MutationCommand}
  {out : Except ApplicationError Approval × ExecutionState}

/-- A decision closes a pending approval and moves its run along. -/
theorem commitDecision_eq_ok (h : s.commitDecision id expected decision command now = .ok out) :
    ∃ approval decided run next, s.approvals.lookup id = some approval ∧
      approval.status = .pending ∧ s.runs.lookup approval.runId = some run ∧
      run.CanAdvance next now ∧ decided.runId = approval.runId ∧
      (decided.status = .granted ∧ next = .running ∨
        decided.status ≠ .pending ∧ decided.status ≠ .granted ∧ next = .paused) ∧
      out.2 = { s with
        runs := s.runs.insert approval.runId (run.moved next now)
        approvals := s.approvals.insert id decided
        executionCommands := s.executionCommands.insert (command.scope, command.key)
          ⟨command.fingerprint, decided⟩ } := by
  simp only [commitDecision, Approval.decide, bind_eq_ok, okOr_eq_ok, rejectIf_eq_ok, not_not,
    mapError_eq_ok, Run.advance_eq_ok, pure_eq_ok, Except.ok.injEq] at h
  obtain ⟨approval, happroval, _, _, _, ⟨_, hpend, rfl⟩, run, hrun, _, ⟨hcan, rfl⟩, _, _, rfl⟩ := h
  refine ⟨approval, _, run, _, happroval, hpend, hrun, hcan, ?_, ?_, rfl⟩
  · rfl
  by_cases hexpired : approval.expiresAt < now <;> cases decision <;> simp [hexpired]

/-- A decision either repeats a recorded one, and changes nothing, or it commits. -/
theorem decide_eq_ok (h : s.decide id expected decision command now = .ok out) :
    (∃ outcome, s.IsRecorded command outcome ∧ out = (decidedApprovalOutcome outcome, s)) ∨
      s.commitDecision id expected decision command now = .ok out := by
  rw [decide, bind_eq_ok] at h
  obtain ⟨prior, hprior, hout⟩ := h
  cases prior with
  | some outcome =>
    exact .inl ⟨outcome, priorExecutionCommand_eq_some.1 hprior, (Except.ok.inj hout).symm⟩
  | none => exact .inr hout

end Decisions

variable {out : SideEffect × ExecutionState}

/-- An accepted transition of an effect. -/
lemma moveEffect_eq_ok {id : EffectId} {next : EffectState} :
    s.moveEffect id expected next now = .ok out ↔
      ∃ effect, s.effects.lookup id = some effect ∧ effect.revision = expected ∧
        SideEffect.permits effect.state next = true ∧ effect.revision < u64Max ∧
        out = (effect.moved next now,
          { s with effects := s.effects.insert id (effect.moved next now) }) := by
  simp only [moveEffect, bind_eq_ok, okOr_eq_ok, rejectIf_eq_ok, not_not, mapError_eq_ok,
    SideEffect.moveTo_eq_ok, pure_eq_ok, Except.ok.injEq, SideEffect.moved]
  constructor
  · rintro ⟨effect, heff, _, rfl, _, ⟨hperm, rfl⟩, _, hrev, rfl⟩
    have hroom := saturatingAdd_one_eq_succ.1 hrev
    refine ⟨effect, heff, rfl, hperm, hroom, ?_⟩
    rw [saturatingAdd_one_eq_succ.2 hroom]
  · rintro ⟨effect, heff, rfl, hperm, hroom, rfl⟩
    have hrev := saturatingAdd_one_eq_succ.2 hroom
    exact ⟨effect, heff, (), rfl, _, ⟨hperm, rfl⟩, (), hrev, by rw [hrev]⟩

/-- The result of an interruption. -/
theorem interrupt_eq_ok {id : EffectId} :
    s.interrupt id expected now = .ok out ↔
      ∃ effect run, s.effects.lookup id = some effect ∧ effect.revision = expected ∧
        SideEffect.permits effect.state .needsReview = true ∧ effect.revision < u64Max ∧
        s.runs.lookup effect.runId = some run ∧ run.CanAdvance .interruptedNeedsReview now ∧
        out = (effect.moved .needsReview now, { s with
          effects := s.effects.insert id (effect.moved .needsReview now)
          runs := s.runs.insert effect.runId (run.moved .interruptedNeedsReview now) }) := by
  simp only [interrupt, bind_eq_ok, okOr_eq_ok, moveEffect_eq_ok, Run.advance_eq_ok, pure_eq_ok,
    Except.ok.injEq]
  constructor
  · rintro ⟨_, ⟨effect, heff, hrev, hperm, hroom, rfl⟩, run, hrun, _, ⟨hcan, rfl⟩, rfl⟩
    exact ⟨effect, run, heff, hrev, hperm, hroom, hrun, hcan, rfl⟩
  · rintro ⟨effect, run, heff, hrev, hperm, hroom, hrun, hcan, rfl⟩
    exact ⟨_, ⟨effect, heff, hrev, hperm, hroom, rfl⟩, run, hrun, _, ⟨hcan, rfl⟩, rfl⟩

end ExecutionState

/-! ## Steps -/

/-- The calls of Host Work: of an execution, of its tool calls, of the user and of the recovery. -/
inductive Event where
  | createWork (id : RunId) (projectId : ProjectId) (threadId : ThreadId) (now : UnixMillis)
  | transition (id : RunId) (expectedRevision : ℕ) (next : RunState) (now : UnixMillis)
  | request (input : RequestApproval) (id : ApprovalId) (now : UnixMillis)
  | decide (id : ApprovalId) (expectedRevision : ℕ) (decision : ApprovalDecision)
      (command : MutationCommand) (now : UnixMillis)
  | prepare (input : PrepareEffect) (id : EffectId) (now : UnixMillis)
  | start (id : EffectId) (expectedRevision : ℕ) (now : UnixMillis)
  | finish (id : EffectId) (expectedRevision : ℕ) (succeeded : Bool) (now : UnixMillis)
  | interrupt (id : EffectId) (expectedRevision : ℕ) (now : UnixMillis)
  | dispatch (what : Dispatch)

namespace ExecutionState

/-- The store after a call, if the call commits. -/
def committed {α : Type} (x : Except ApplicationError (α × ExecutionState)) :
    Option ExecutionState :=
  x.toOption.map Prod.snd

lemma committed_eq_some {α : Type} {x : Except ApplicationError (α × ExecutionState)}
    {s' : ExecutionState} : committed x = some s' ↔ ∃ out, x = .ok out ∧ out.2 = s' := by
  simp [committed]

/-- One call. The run service itself is never asked to make a run wait for an approval. -/
def step (s : ExecutionState) : Event → Option ExecutionState
  | .createWork id projectId threadId now => committed (s.createWork id projectId threadId now)
  | .transition id expected next now =>
      if next ∈ [.planning, .running, .completed, .failed, .cancelled] then
        committed (s.transition id expected next now)
      else none
  | .request input id now => committed (s.request input id now)
  | .decide id expected decision command now =>
      committed (s.decide id expected decision command now)
  | .prepare input id now => committed (s.prepare input id now)
  | .start id expected now => committed (s.start id expected now)
  | .finish id expected succeeded now => committed (s.finish id expected succeeded now)
  | .interrupt id expected now => committed (s.interrupt id expected now)
  | .dispatch what => some { s with dispatched := s.dispatched ++ [what] }

end ExecutionState

end HostWork

end GrokDesktop
