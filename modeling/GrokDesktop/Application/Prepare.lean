import GrokDesktop.Application.Service

/-!
# Preparing provider work

`prepare_start`, `prepare_retry` and `prepare_fork` reserve a turn, or find the one an equal command
reserved before, and return the plan of its dispatch while the turn is still reserved. Several plans
for one turn can be handed out.
-/

namespace GrokDesktop

open Except
open Resumption Service

/-! ## Inputs and results -/

/-- Input for starting one conversation turn. -/
structure StartConversationTurn where
  threadId : String
  content : String
  modelId : Option String
  searchEnabled : Bool
  deriving DecidableEq

/-- Input for one explicit retry of a known-safe terminal turn. -/
structure RetryConversationTurn where
  sourceTurnId : String
  expectedRevision : ℕ
  deriving DecidableEq

/-- Input for one fork. -/
inductive ConversationForkRequest where
  | branch (sourceTurnId : String) (expectedRevision : ℕ)
  | editAndBranch (sourceTurnId : String) (expectedRevision : ℕ) (content : String)
  | regenerate (sourceTurnId : String) (expectedRevision : ℕ)
  deriving DecidableEq

namespace ConversationForkRequest

def kind : ConversationForkRequest → ConversationForkKind
  | branch .. => .branch
  | editAndBranch .. => .editAndBranch
  | regenerate .. => .regenerate

def sourceTurnId : ConversationForkRequest → String
  | branch id _ | editAndBranch id _ _ | regenerate id _ => id

def expectedRevision : ConversationForkRequest → ℕ
  | branch _ revision | editAndBranch _ revision _ | regenerate _ revision => revision

def editedContent : ConversationForkRequest → Option String
  | editAndBranch _ _ content => some content
  | branch .. | regenerate .. => none

end ConversationForkRequest

/-- The provider work of one reserved turn. -/
structure ConversationTurnDispatch where
  snapshot : ConversationTurnSnapshot
  request : ConversationRequest
  deriving DecidableEq

/-- A prepared turn and its provider work, if it has any left. -/
structure StartedConversationTurn where
  snapshot : ConversationTurnSnapshot
  dispatch : Option ConversationTurnDispatch
  deriving DecidableEq

/-- A prepared fork and its provider work, if it has any left. -/
structure StartedConversationFork where
  snapshot : ConversationForkSnapshot
  dispatch : Option ConversationTurnDispatch
  reconciledPendingDelivery : Bool
  deriving DecidableEq

/-- The result of a command whose turn has left the reserved state. -/
def finishedTurn (existing : Option ConversationTurnSnapshot) : Option StartedConversationTurn :=
  match existing with
  | some snapshot =>
      if snapshot.turn.state ≠ .reserved then some { snapshot := snapshot, dispatch := none }
      else none
  | none => none

/-- The provider work of a reservation. -/
def dispatchReservation (model : String) (reservation : ConversationTurnReservation) :
    Except ApplicationError StartedConversationTurn :=
  if reservation.snapshot.turn.state ≠ .reserved then
    .ok { snapshot := reservation.snapshot, dispatch := none }
  else do
    let request ← providerRequest model reservation.context reservation.snapshot.turn.searchEnabled
    return {
      snapshot := reservation.snapshot
      dispatch := some { snapshot := reservation.snapshot, request := request } }

/-- The first audit event of a run. -/
def createdRunEvent (now : UnixMillis) : NewRunEvent := { occurredAt := now, kind := .created }

/-! ## Shared steps -/

/-- Loads a thread that accepts a new turn. -/
def writableThread (threadId : ThreadId) : Service Thread := do
  let thread ← fromStore (← request (.getThread threadId))
  reject (thread.state ≠ .opened) (.invalidState "the conversation thread is archived")
  let project ← fromStore (← request (.getProject thread.projectId))
  reject (project.state ≠ .active) (.invalidState "the conversation project is archived")
  return thread

/-- Reserves a turn and builds its provider work. -/
def reserveDispatch (model : String) (input : TurnReservationInput) :
    Service StartedConversationTurn := do
  let reservation ← fromStore (← request (.reserveTurn input))
  check id (dispatchReservation model reservation)

/-- Loads the credential of a rail and resolves the model at the provider. -/
def preflightModel (rail : ChatRail) (selectedModel : String) (requireCanonical : Bool)
    (expectedCredentialBinding : Option String) : Service (String × String) := do
  let binding ← check id (← request (.loadCredential rail))
  reject (expectedCredentialBinding.any fun expected => expected ≠ binding)
    (.invalidState ("the Chat credential changed after this conversation thread was bound; " ++
      "start a new thread to use the current credential"))
  let canonical ← check id (← request (.discoverModel rail selectedModel))
  reject (requireCanonical = true ∧ canonical ≠ selectedModel)
    (.unavailable "the persisted xAI model selection is not canonical")
  return (binding, canonical)

section Commands

variable [Sha256Library]

/-! ## Start -/

section Start

variable (input : StartConversationTurn)

def startCommand (idempotencyKey selectedModel : String) : Service MutationCommand := do
  let rail : ChatRail ← request .currentRail
  check id <| mutationCommand conversationCommandScope idempotencyKey <|
    [input.threadId, selectedModel, input.content,
      if input.searchEnabled then "tools:official_search" else "tools:none",
      "provider_store:false"] ++
      if rail = ChatRail.superGrokApi then ["rail:supergrok_api"] else []

/-- Loads an exact replay of a start. -/
def replayStart (idempotencyKey : String) : Service (Option ConversationTurnSnapshot) := do
  let threadId ← check .ofId (EntityId.new input.threadId)
  match ← fromStore (← request (.threadModelBinding threadId)) with
  | .bound model => do
      reject (input.modelId.any fun requested => requested ≠ model) .conflict
      let command ← startCommand input idempotencyKey model
      fromStore (← request (.loadTurnByCommand command))
  | .unboundEmpty => return none
  | .legacyUnbound =>
      throw (.invalidState "this legacy conversation thread has no trustworthy model binding")

def expectedStartCredentialBinding (threadId : ThreadId) : Service (Option String) := do
  match ← fromStore (← request (.threadCredentialBinding threadId)) with
  | .unboundEmpty => return none
  | .bound binding => return some binding
  | .legacyUnbound =>
      throw (.invalidState ("this legacy conversation thread has no trustworthy credential " ++
        "binding; start a new thread to continue"))

/-- The model a start asks for, and whether it must be canonical. -/
def requestedStartModel : ConversationThreadModelBinding → Service (String × Bool)
  | .bound bound => do
      reject (input.modelId.any fun requested => requested ≠ bound) .conflict
      return (bound, true)
  | .unboundEmpty => do
      let (selected, revision) ← check id (← request .chatModelPreference)
      return (input.modelId.getD selected, input.modelId.isSome || decide (0 < revision))
  | .legacyUnbound =>
      throw (.invalidState ("this legacy conversation thread has no trustworthy model binding; " ++
        "start a new thread to continue"))

/-- The thread is bound to another model. -/
def ConversationThreadModelBinding.disagrees (binding : ConversationThreadModelBinding)
    (model : String) : Bool :=
  match binding with
  | .bound current => current ≠ model
  | .unboundEmpty | .legacyUnbound => false

/-- Resolves the credential and the model of a start. -/
def preflightStartModel (threadId : ThreadId) : Service (String × String) := do
  let expectedBinding ← expectedStartCredentialBinding threadId
  let modelBinding ← fromStore (← request (.threadModelBinding threadId))
  let (requestedModel, requireCanonical) ← requestedStartModel input modelBinding
  let rail ← request .currentRail
  let prepared ← preflightModel rail requestedModel requireCanonical expectedBinding
  reject (modelBinding.disagrees prepared.2)
    (.invalidState "the requested model conflicts with this conversation thread's model binding")
  return prepared

def buildStartReservation (idempotencyKey : String) (threadId : ThreadId) (thread : Thread)
    (credentialBindingId selectedModel : String) (command : MutationCommand) :
    Service TurnReservationInput := do
  let now ← request .now
  let messageId ← freshId .message "message"
  let userMessage ← check .ofWorkspace (Message.new messageId threadId .user input.content now)
  let runId ← freshId .run "run"
  let turnId ← freshId .conversationTurn "turn"
  let turn ← check .ofTurn (ConversationTurn.reserve turnId idempotencyKey command.fingerprint
    thread.projectId threadId userMessage.id runId selectedModel input.searchEnabled now)
  let rail ← request .currentRail
  let lineage ← check .ofTurn (ConversationTurnLineage.originalOn rail credentialBindingId)
  return {
    turn := turn
    lineage := lineage
    source := .currentThread
    userMessage := userMessage
    run := Run.queued runId thread.projectId threadId now
    event := createdRunEvent now
    turnEvent := .created }

def reserveStart (idempotencyKey : String) (threadId : ThreadId) (thread : Thread)
    (credentialBindingId selectedModel : String) (command : MutationCommand) :
    Service StartedConversationTurn := do
  let reservation ← buildStartReservation input idempotencyKey threadId thread credentialBindingId
    selectedModel command
  reserveDispatch selectedModel reservation

/-- Starts one conversation turn, or finds the turn that the command started before. -/
def prepareStart (idempotencyKey : String) : Service StartedConversationTurn := do
  match finishedTurn (← replayStart input idempotencyKey) with
  | some started => return started
  | none => do
      let threadId ← check .ofId (EntityId.new input.threadId)
      let thread ← writableThread threadId
      let (binding, selectedModel) ← preflightStartModel input threadId
      let command ← startCommand input idempotencyKey selectedModel
      match finishedTurn (← fromStore (← request (.loadTurnByCommand command))) with
      | some started => return started
      | none => reserveStart input idempotencyKey threadId thread binding selectedModel command

end Start

/-! ## Retry -/

/-- Only a cancelled or retryable failed turn may be retried. -/
def ensureRetrySourceEligible (source : ConversationTurnSnapshot) : Except ApplicationError Unit :=
  rejectIf (!source.turn.isRetryable)
    (.invalidState "only a cancelled or retryable failed conversation turn may be retried")

variable (input : RetryConversationTurn)

def retryCommand (idempotencyKey : String) (source : ConversationTurnSnapshot)
    (sourceContext : List Message) : Except ApplicationError MutationCommand := do
  let request ← providerRequest source.turn.modelId sourceContext source.turn.searchEnabled
  let fingerprint := providerRequestFingerprint request
  rejectIf (source.turn.state = .failed
    ∧ source.turn.providerRequestFingerprint ≠ some fingerprint)
    (.integrity "retry source context does not match its provider request")
  let command ← mutationCommand conversationRetryCommandScope idempotencyKey
    [input.sourceTurnId, toString input.expectedRevision,
      encodeDigest source.turn.requestFingerprint, source.turn.modelId,
      source.lineage.credentialBindingId.getD "legacy-unbound", encodeDigest fingerprint]
  return { command with
    key := scopedConversationCommandKey conversationRetryCommandScope idempotencyKey }

/-- Loads a source turn and its frozen context. -/
def loadSource (sourceTurnId : ConversationTurnId) :
    Service (ConversationTurnSnapshot × List Message) := do
  let source ← require (← fromStore (← request (.loadTurn sourceTurnId))) .notFound
  let context ← fromStore (← request (.loadTurnContext sourceTurnId))
  return (source, context)

/-- The thread of a source turn is bound to the credential generation of that turn. -/
def requireThreadBinding (threadId : ThreadId) (sourceBinding : String) (error : ApplicationError) :
    Service Unit := do
  let binding ← fromStore (← request (.threadCredentialBinding threadId))
  reject (binding ≠ .bound sourceBinding) error

/-- A retry that reserves a new turn must start from the newest one. -/
def requireLatestSource (sourceTurnId : ConversationTurnId) (replayingReservedCommand : Bool) :
    Service Unit :=
  if replayingReservedCommand then return ()
  else do
    let latest ← fromStore (← request (.retrySourceIsLatest sourceTurnId))
    reject (!latest) .conflict

def buildRetryReservation (source : ConversationTurnSnapshot) (sourceTurnId : ConversationTurnId)
    (credentialBindingId : String) (command : MutationCommand) : Service TurnReservationInput := do
  let clock : UnixMillis ← request .now
  let now := max clock source.turn.updatedAt
  let messageId ← freshId .message "message"
  let userMessage ← check .ofWorkspace
    (Message.new messageId source.turn.threadId .user source.userMessage.content now)
  let runId ← freshId .run "run"
  let turnId ← freshId .conversationTurn "turn"
  let turn ← check .ofTurn (ConversationTurn.reserve turnId command.key command.fingerprint
    source.turn.projectId source.turn.threadId userMessage.id runId source.turn.modelId
    source.turn.searchEnabled now)
  let lineage ← check .ofTurn (ConversationTurnLineage.retryOn sourceTurnId source.lineage.rail
    credentialBindingId source.lineage.retryDepth)
  return {
    turn := turn
    lineage := lineage
    source := .retry sourceTurnId input.expectedRevision
    userMessage := userMessage
    run := Run.queued runId source.turn.projectId source.turn.threadId now
    event := createdRunEvent now
    turnEvent := .created }

def reserveRetry (source : ConversationTurnSnapshot) (sourceTurnId : ConversationTurnId)
    (credentialBindingId : String) (command : MutationCommand) :
    Service StartedConversationTurn := do
  let reservation ← buildRetryReservation input source sourceTurnId credentialBindingId command
  reserveDispatch source.turn.modelId reservation

/-- Checks the source of a retry and the credential and model it needs. -/
def checkRetry (source : ConversationTurnSnapshot) (sourceTurnId : ConversationTurnId)
    (replayingReservedCommand : Bool) : Service String := do
  reject (source.turn.revision ≠ input.expectedRevision) .conflict
  check id (ensureRetrySourceEligible source)
  reject (64 ≤ source.lineage.retryDepth)
    (.invalidState "the conversation retry depth is exhausted")
  let _ ← writableThread source.turn.threadId
  let sourceBinding ← require source.lineage.credentialBindingId
    (.invalidState "legacy conversation turns without a credential binding cannot be retried")
  requireLatestSource sourceTurnId replayingReservedCommand
  requireThreadBinding source.turn.threadId sourceBinding
    (.invalidState ("the retry source has no trustworthy thread credential binding; start a new " ++
      "thread to continue"))
  let (currentBinding, canonicalModel) ←
    preflightModel source.lineage.rail source.turn.modelId true (some sourceBinding)
  reject (canonicalModel ≠ source.turn.modelId)
    (.invalidState "the retry source model is no longer canonical")
  return currentBinding

/-- Retries one turn, or finds the turn that the command started before. -/
def prepareRetry (idempotencyKey : String) : Service StartedConversationTurn := do
  let sourceTurnId ← check .ofId (EntityId.new input.sourceTurnId)
  let (source, sourceContext) ← loadSource sourceTurnId
  let command ← check id (retryCommand input idempotencyKey source sourceContext)
  let existing ← fromStore (← request (.loadTurnByCommand command))
  match finishedTurn existing with
  | some started => return started
  | none => do
      let binding ← checkRetry input source sourceTurnId existing.isSome
      reserveRetry input source sourceTurnId binding command

/-! ## Fork -/

/-- The reason a source cannot be forked in a given way. -/
def ineligibleForkSource : ConversationForkKind → String
  | .branch => "only a completed conversation response may be branched"
  | .editAndBranch =>
      "only a completed, cancelled, or known failed turn may be edited into a branch"
  | .regenerate => "only a completed conversation response may be regenerated"

/-- A source may be forked in a given way. -/
def ensureForkSourceEligible (kind : ConversationForkKind) (source : ConversationTurnSnapshot) :
    Except ApplicationError Unit :=
  let eligible := match kind with
    | .branch | .regenerate => source.turn.state = .completed && source.assistantMessage.isSome
    | .editAndBranch => forkSourceEligible .editAndBranch source.turn.state
  rejectIf (!eligible) (.invalidState (ineligibleForkSource kind))

/-- Checks the frozen context of a source against its provider request. -/
def validateFrozenSourceContext (source : ConversationTurnSnapshot) (sourceContext : List Message) :
    Except ApplicationError Digest := do
  rejectIf (sourceContext.getLast? ≠ some source.userMessage)
    (.integrity "fork source context does not end at its canonical user message")
  let request ← providerRequest source.turn.modelId sourceContext source.turn.searchEnabled
  let fingerprint := providerRequestFingerprint request
  rejectIf ((source.turn.state = .completed ∨ source.turn.state = .failed)
    ∧ source.turn.providerRequestFingerprint ≠ some fingerprint)
    (.integrity "fork source context does not match its provider request")
  rejectIf (source.turn.state = .cancelled
    ∧ source.turn.providerRequestFingerprint.isSome)
    (.integrity "cancelled fork source contains impossible provider evidence")
  return fingerprint

/-- The text of a fork kind in a command. -/
def forkKindText : ConversationForkKind → String
  | .branch => "branch"
  | .editAndBranch => "edit_and_branch"
  | .regenerate => "regenerate"

/-- The text of a turn state in a command. -/
def turnStateText : ConversationTurnState → String
  | .reserved => "reserved"
  | .providerStarted => "provider_started"
  | .completed => "completed"
  | .failed => "failed"
  | .cancelled => "cancelled"
  | .interruptedNeedsReview => "interrupted_needs_review"

variable (forkRequest : ConversationForkRequest)

def forkCommand (idempotencyKey : String) (source : ConversationTurnSnapshot)
    (sourceContext : List Message) : Except ApplicationError MutationCommand := do
  let fingerprint ← validateFrozenSourceContext source sourceContext
  let scope := conversationForkScope forkRequest.kind
  let command ← mutationCommand scope idempotencyKey
    [forkKindText forkRequest.kind, forkRequest.sourceTurnId,
      toString forkRequest.expectedRevision, turnStateText source.turn.state,
      encodeDigest source.turn.requestFingerprint, encodeDigest fingerprint, source.turn.modelId,
      source.lineage.credentialBindingId.getD "legacy-unbound",
      (source.assistantMessage.map fun message => message.id.value).getD "no-assistant",
      forkRequest.editedContent.getD ""]
  return { command with key := scopedConversationCommandKey scope idempotencyKey }

/-- Copies the source context into the child thread, from the given position on. -/
def copyContext (childThreadId : ThreadId) (sourceTurnId : ConversationTurnId) (now : UnixMillis) :
    ℕ → List Message → Service (List Message)
  | _, [] => return []
  | position, sourceMessage :: rest => do
      let messageId ← freshId .message "message"
      let message ← check .ofWorkspace (Message.newDerived messageId childThreadId position
        sourceMessage.role sourceMessage.content sourceMessage.id sourceTurnId (some position)
        .contextCopy now)
      let messages ← copyContext childThreadId sourceTurnId now (position + 1) rest
      return message :: messages

/-- The message that a fork adds after the copied context. -/
def forkLastMessage (source : ConversationTurnSnapshot) (sourceContext : List Message)
    (childThreadId : ThreadId) (sequence : ℕ) (now : UnixMillis) : Service (List Message) :=
  match forkRequest with
  | .editAndBranch _ _ content => do
      reject (content = source.userMessage.content)
        (.invalidInput "edited conversation content must differ from the source prompt")
      let messageId ← freshId .message "message"
      let message ← check .ofWorkspace (Message.newDerived messageId childThreadId sequence .user
        content source.userMessage.id source.turn.id (some sourceContext.length) .editedUser now)
      return [message]
  | .branch .. => do
      let assistant ← require source.assistantMessage
        (.integrity "completed branch source is missing its assistant message")
      let messageId ← freshId .message "message"
      let message ← check .ofWorkspace (Message.newDerived messageId childThreadId sequence
        .assistant assistant.content assistant.id source.turn.id none .sourceAssistantCopy now)
      return [message]
  | .regenerate .. => return []

/-- The turn that a dispatching fork starts. -/
def buildDispatchingTurn (command : MutationCommand) (source : ConversationTurnSnapshot)
    (childThread : Thread) (messages : List Message) (now : UnixMillis)
    (lineage : Except ConversationTurnError ConversationTurnLineage) :
    Service (Option ConversationForkTurnPlan) := do
  let userMessage ← require messages.getLast? (.integrity "dispatching fork has no user message")
  reject (userMessage.role ≠ .user)
    (.integrity "dispatching fork does not end with a user message")
  -- an edited context that could never be dispatched is rejected here
  let _ ← check id (providerRequest source.turn.modelId messages source.turn.searchEnabled)
  let runId ← freshId .run "run"
  let turnId ← freshId .conversationTurn "turn"
  let turn ← check .ofTurn (ConversationTurn.reserve turnId command.key command.fingerprint
    childThread.projectId childThread.id userMessage.id runId source.turn.modelId
    source.turn.searchEnabled now)
  let lineage ← check .ofTurn lineage
  return some {
    turn := turn
    lineage := lineage
    run := Run.queued runId childThread.projectId childThread.id now
    runEvent := createdRunEvent now
    turnEvent := .created }

/-- The turn that a fork starts, if it is a dispatching one. -/
def buildForkTurn (kind : ConversationForkKind) (command : MutationCommand)
    (source : ConversationTurnSnapshot) (credentialBindingId : String) (childThread : Thread)
    (messages : List Message) (now : UnixMillis) : Service (Option ConversationForkTurnPlan) :=
  match kind with
  | .branch => return none
  | .editAndBranch => buildDispatchingTurn command source childThread messages now
      (ConversationTurnLineage.editAndBranchOn source.turn.id source.lineage.rail
        credentialBindingId)
  | .regenerate => buildDispatchingTurn command source childThread messages now
      (ConversationTurnLineage.regenerateOn source.turn.id source.lineage.rail
        credentialBindingId)

def buildForkPlan (command : MutationCommand) (source : ConversationTurnSnapshot)
    (sourceContext : List Message) (parent : Thread) (credentialBindingId : String) :
    Service ConversationForkPlan := do
  reject (sourceContext.getLast? ≠ some source.userMessage)
    (.integrity "fork source context does not end at its canonical user message")
  let kind := forkRequest.kind
  let sourceMessage ← require (forkSourceMessage kind source)
    (.integrity "completed fork source is missing its assistant message")
  let clock : UnixMillis ← request .now
  let now := max (max clock source.turn.updatedAt) parent.updatedAt
  let childThreadId ← freshId .thread "thread"
  let childThread ← check .ofWorkspace (Thread.newFork childThreadId parent.projectId parent.title
    parent.id parent.lineage source.turn.id sourceMessage.id sourceMessage.role kind now)
  let copied := if kind = .editAndBranch then sourceContext.dropLast else sourceContext
  let copies ← copyContext childThread.id source.turn.id now 1 copied
  let last ← forkLastMessage forkRequest source sourceContext childThread.id (copies.length + 1) now
  let startedTurn ← buildForkTurn kind command source credentialBindingId childThread
    (copies ++ last) now
  return {
    command := command
    sourceTurnId := source.turn.id
    expectedSourceRevision := forkRequest.expectedRevision
    childThread := childThread
    messages := copies ++ last
    startedTurn := startedTurn }

/-- The result of a fork command that has no provider work left. -/
def finishedFork (existing : Option ConversationForkCommandResolution) :
    Option StartedConversationFork :=
  match existing with
  | some resolution =>
      if resolution.reconciledPendingDelivery ∨
          resolution.snapshot.startedTurn.all (fun turn => turn.turn.state ≠ .reserved) then
        some {
          snapshot := resolution.snapshot
          dispatch := none
          reconciledPendingDelivery := resolution.reconciledPendingDelivery }
      else none
  | none => none

/-- Checks the source of a fork and loads its thread and credential binding. -/
def checkFork (source : ConversationTurnSnapshot) (sourceContext : List Message) :
    Service (Thread × String) := do
  reject (source.turn.revision ≠ forkRequest.expectedRevision) .conflict
  check id (ensureForkSourceEligible forkRequest.kind source)
  let _ ← check id (validateFrozenSourceContext source sourceContext)
  let parent ← fromStore (← request (.getThread source.turn.threadId))
  let project ← fromStore (← request (.getProject source.turn.projectId))
  reject (parent.projectId ≠ source.turn.projectId ∨ project.state ≠ .active)
    (.invalidState "conversation forks require an active source project")
  let sourceBinding ← require source.lineage.credentialBindingId
    (.invalidState "legacy conversation turns without a credential binding cannot be forked")
  requireThreadBinding source.turn.threadId sourceBinding
    (.invalidState "the fork source has no trustworthy thread credential binding")
  return (parent, sourceBinding)

/-- The result of a branch, which starts no provider work. -/
def branchResult (reservation : ConversationForkReservation) :
    Except ApplicationError StartedConversationFork := do
  rejectIf (reservation.snapshot.startedTurn.isSome ∨ reservation.context.isSome)
    (.integrity "a provider-free branch returned provider work")
  return {
    snapshot := reservation.snapshot
    dispatch := none
    reconciledPendingDelivery := reservation.reconciledPendingDelivery }

/-- The provider work of a dispatching fork. -/
def dispatchFork (model : String) (searchEnabled : Bool)
    (reservation : ConversationForkReservation) :
    Except ApplicationError StartedConversationFork :=
  if reservation.reconciledPendingDelivery then
    .ok {
      snapshot := reservation.snapshot
      dispatch := none
      reconciledPendingDelivery := true }
  else do
    let snapshot ← okOr reservation.snapshot.startedTurn
      (.integrity "a dispatching fork did not return its child turn")
    if snapshot.turn.state ≠ .reserved then
      return {
        snapshot := reservation.snapshot
        dispatch := none
        reconciledPendingDelivery := false }
    else
      let context ← okOr reservation.context
        (.integrity "a dispatching fork is missing frozen context")
      let request ← providerRequest model context searchEnabled
      return {
        snapshot := reservation.snapshot
        dispatch := some { snapshot := snapshot, request := request }
        reconciledPendingDelivery := false }

/-- Reserves the plan of a fork, after resolving the model of a dispatching one. -/
def reserveFork (kind : ConversationForkKind) (source : ConversationTurnSnapshot)
    (sourceBinding : String) (plan : ConversationForkPlan) : Service StartedConversationFork :=
  if kind = .branch then do
    let reservation ← fromStore (← request (.reserveConversationFork plan))
    check id (branchResult reservation)
  else do
    let (currentBinding, canonicalModel) ←
      preflightModel source.lineage.rail source.turn.modelId true (some sourceBinding)
    reject (canonicalModel ≠ source.turn.modelId)
      (.invalidState "the fork source model is no longer canonical")
    reject (currentBinding ≠ sourceBinding)
      (.integrity "conversation fork credential generation changed during preflight")
    let reservation ← fromStore (← request (.reserveConversationFork plan))
    check id (dispatchFork source.turn.modelId source.turn.searchEnabled reservation)

/-- Forks one turn, or finds the child that the command made before. -/
def prepareFork (idempotencyKey : String) : Service StartedConversationFork := do
  let sourceTurnId ← check .ofId (EntityId.new forkRequest.sourceTurnId)
  let (source, sourceContext) ← loadSource sourceTurnId
  let command ← check id (forkCommand forkRequest idempotencyKey source sourceContext)
  match finishedFork (← fromStore (← request (.resolveConversationForkCommand command))) with
  | some started => return started
  | none => do
      let (parent, sourceBinding) ← checkFork forkRequest source sourceContext
      let plan ← buildForkPlan forkRequest command source sourceContext parent sourceBinding
      reserveFork forkRequest.kind source sourceBinding plan

end Commands

end GrokDesktop
