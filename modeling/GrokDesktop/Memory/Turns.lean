import GrokDesktop.Memory.Snapshot

/-!
# Turn operations of the in-memory store

The operations that reserve a turn, move it along its lifecycle and append its text. Each one first
checks the caller's records against the stored snapshot, then writes, then reads the result back;
the checks and the writes are separate definitions, and an operation returns its result with the
state it leaves. A failed check leaves the state as it was.
-/

namespace GrokDesktop

open Except

/-- The result of a store operation and the state it leaves. -/
abbrev StoreResult (α : Type) : Type := Except StoreError α × State

/-- Writes what the checks allow, then reads the result from the written state. -/
def writeThenRead {α : Type} (s : State) (checked : Except StoreError State)
    (read : State → Except StoreError α) : StoreResult α :=
  match checked with
  | .error e => (.error e, s)
  | .ok s' => (read s', s')

/-! ## Reservation -/

/-- The arguments of `reserve_turn`. -/
structure TurnReservationInput where
  turn : ConversationTurn
  lineage : ConversationTurnLineage
  source : ConversationTurnReservationSource
  userMessage : Message
  run : Run
  event : NewRunEvent
  turnEvent : ConversationTurnEventKind
  deriving DecidableEq

def contentBytes (context : List Message) : ℕ :=
  (context.map fun message => message.content.utf8ByteSize).sum

/-- Checks the count and byte limits of a frozen context. -/
def validateContext (context : List Message) : Except StoreError Unit := do
  rejectIf (context.isEmpty ∨ maxConversationContextMessages < context.length) .conflict
  rejectIf (maxConversationContextBytes < contentBytes context) .conflict

def sortBySequence (messages : List Message) : List Message :=
  messages.insertionSort fun a b => a.sequence ≤ b.sequence

/-- The message is the prompt of a turn of the thread that did not complete. -/
def isUnresolvedPrompt (s : State) (threadId : ThreadId) (message : Message) : Bool :=
  s.conversationTurns.values.any fun existing =>
    existing.threadId = threadId && existing.userMessageId = message.id &&
      existing.state ≠ .completed

/-- The messages of a thread that a new prompt is sent with. -/
def eligibleMessages (s : State) (threadId : ThreadId) : List Message :=
  (s.threadMessages threadId).filter fun message =>
    message.state = .active && !isUnresolvedPrompt s threadId message

/-- Collects messages one after the other within the count and byte limits. -/
def collectContext : ℕ → ℕ → List Message → Except StoreError Unit
  | _, _, [] => .ok ()
  | count, bytes, message :: rest => do
      rejectIf (maxConversationContextMessages - 1 ≤ count) .conflict
      rejectIf (maxConversationContextBytes < bytes + message.content.utf8ByteSize) .conflict
      collectContext (count + 1) (bytes + message.content.utf8ByteSize) rest

/-- Gives the new prompt its sequence and freezes the current context of its thread. -/
def captureConversationContext (s : State) (turn : ConversationTurn) (userMessage : Message) :
    Except StoreError (Message × List Message) := do
  let sequence ← okOr (s.nextSequence turn.threadId) .conflict
  let userMessage := { userMessage with sequence := sequence }
  let eligible := eligibleMessages s turn.threadId
  collectContext 0 userMessage.content.utf8ByteSize eligible
  let context := sortBySequence eligible ++ [userMessage]
  validateContext context
  return (userMessage, context)

/-- The source of the reservation is the one its lineage names. -/
def reservationSourceMatchesLineage (source : ConversationTurnReservationSource)
    (lineage : ConversationTurnLineage) : Bool :=
  match source, lineage.origin with
  | .currentThread, .original => true
  | .retry sourceTurnId _, .retry lineageSource => sourceTurnId = lineageSource
  | _, _ => false

/-- The lineage is a retry of the given turn. -/
def ConversationTurnLineage.isRetryOf (lineage : ConversationTurnLineage)
    (sourceTurnId : ConversationTurnId) : Bool :=
  match lineage.origin with
  | .retry source => source = sourceTurnId
  | _ => false

/-- A turn that ended without a provider response and may be tried again. -/
def ConversationTurn.isRetryable (turn : ConversationTurn) : Bool :=
  turn.state = .cancelled || (turn.state = .failed && turn.failure.any (·.retryable))

/-- Gives the repeated prompt its sequence and freezes the context of the source turn. -/
def captureRetryContext (s : State) (turn : ConversationTurn) (lineage : ConversationTurnLineage)
    (sourceTurnId : ConversationTurnId) (expectedSourceRevision : ℕ) (userMessage : Message) :
    Except StoreError (Message × List Message) := do
  let sourceTurn ← okOr (s.conversationTurns.lookup sourceTurnId) .notFound
  let sourceLineage ← okOr (s.conversationLineages.lookup sourceTurnId)
    (.internal "retry source lost its lineage")
  let sourceUser ← okOr (s.messages.lookup sourceTurn.userMessageId)
    (.internal "retry source lost its user message")
  rejectIf (sourceTurn.revision ≠ expectedSourceRevision ∨ !sourceTurn.isRetryable
    ∨ sourceTurn.threadId ≠ turn.threadId ∨ sourceTurn.projectId ≠ turn.projectId
    ∨ sourceTurn.modelId ≠ turn.modelId
    ∨ s.newestSequence sourceTurn.threadId ≠ some sourceUser.sequence
    ∨ s.conversationLineages.values.any (·.isRetryOf sourceTurnId)
    ∨ sourceLineage.credentialBindingId.isNone
    ∨ sourceLineage.credentialBindingId ≠ lineage.credentialBindingId
    ∨ sourceLineage.rail ≠ lineage.rail
    ∨ ¬ (sourceLineage.retryDepth + 1 ≤ 64 ∧ sourceLineage.retryDepth + 1 = lineage.retryDepth)
    ∨ userMessage.content ≠ sourceUser.content) .conflict
  let sequence ← okOr (checkedAdd sourceUser.sequence 1) .conflict
  let userMessage := { userMessage with sequence := sequence }
  let context ← okOr (s.conversationContexts.lookup sourceTurnId)
    (.internal "retry source lost its immutable context")
  rejectIf (context.getLast? ≠ some sourceUser)
    (.internal "retry source context is internally inconsistent")
  let context := context.dropLast ++ [userMessage]
  validateContext context
  return (userMessage, context)

/-- Freezes the context that the source of a reservation names. -/
def captureContext (s : State) (input : TurnReservationInput) :
    Except StoreError (Message × List Message) :=
  match input.source with
  | .currentThread => captureConversationContext s input.turn input.userMessage
  | .retry sourceTurnId expectedSourceRevision =>
      captureRetryContext s input.turn input.lineage sourceTurnId expectedSourceRevision
        input.userMessage

/-- Whether the thread must be bound to the value: not when it is bound already, and only by the
first turn of the thread. -/
def bindThreadValue (s : State) (bound : Table ThreadId String) (threadId : ThreadId)
    (source : ConversationTurnReservationSource) (value : String) : Except StoreError Bool :=
  match bound.lookup threadId with
  | some existing => if existing = value then .ok false else .error .conflict
  | none =>
      if source ≠ .currentThread ∨ !(s.threadTurns threadId).isEmpty then .error .conflict
      else .ok true

/-- What a checked reservation writes besides its arguments. -/
structure PreparedReservation where
  userMessage : Message
  context : List Message
  credentialBinding : String
  bindThread : Bool
  bindModel : Bool
  turnEvent : ConversationTurnEvent
  deriving DecidableEq

section Operations

variable [UrlLibrary]

/-- The records of a reservation belong together. -/
def isCanonicalReservationInput (turn : ConversationTurn) (userMessage : Message) (run : Run)
    (event : NewRunEvent) : Bool :=
  turn.state = .reserved && turn.restore.isOk && turn.userMessageId = userMessage.id &&
    turn.threadId = userMessage.threadId && turn.runId = run.id &&
    turn.projectId = run.projectId && turn.threadId = run.threadId &&
    isCanonicalMessage userMessage .user turn.createdAt 0 &&
    run = Run.queued turn.runId turn.projectId turn.threadId turn.createdAt &&
    event = { occurredAt := turn.createdAt, kind := .created }

/-- The event log of a turn that was just reserved. -/
def createdEventLog (turn : ConversationTurn) (turnEvent : ConversationTurnEventKind) :
    Except StoreError ConversationTurnEvent := do
  let (event, log) ← ((ConversationTurnEventLog.new turn.id).appendKind turnEvent).mapError
    fun _ => .conflict
  (log.validateSnapshot turn none).mapError fun _ => .conflict
  return event

variable (s : State)

/-- Checks a reservation against the store. -/
def prepareReservation (input : TurnReservationInput) : Except StoreError PreparedReservation := do
  let turn := input.turn
  rejectIf ((s.threadTurns turn.threadId).any fun existing =>
    existing.state = .reserved || existing.state = .providerStarted) .conflict
  let thread ← okOr (s.threads.lookup turn.threadId) .notFound
  let project ← okOr (s.projects.lookup thread.projectId) .notFound
  rejectIf (thread.state ≠ .opened ∨ project.state ≠ .active
    ∨ turn.projectId ≠ thread.projectId ∨ input.userMessage.threadId ≠ turn.threadId
    ∨ input.userMessage.id ≠ turn.userMessageId ∨ input.userMessage.role ≠ .user
    ∨ input.run.id ≠ turn.runId ∨ input.run.threadId ≠ turn.threadId
    ∨ input.run.projectId ≠ turn.projectId ∨ s.messages.contains input.userMessage.id
    ∨ s.runs.contains input.run.id ∨ s.conversationTurns.contains turn.id) .conflict
  let credentialBinding ← okOr input.lineage.credentialBindingId .conflict
  let bindThread ← bindThreadValue s s.conversationThreadBindings turn.threadId input.source
    credentialBinding
  let bindModel ← bindThreadValue s s.conversationThreadModels turn.threadId input.source
    turn.modelId
  let (userMessage, context) ← captureContext s input
  rejectIf (!isCanonicalConversationSnapshot {
    turn := turn
    userMessage := userMessage
    assistantMessage := none
    run := input.run
    effect := none
    lineage := input.lineage }) .conflict
  let turnEvent ← createdEventLog turn input.turnEvent
  return {
    userMessage := userMessage
    context := context
    credentialBinding := credentialBinding
    bindThread := bindThread
    bindModel := bindModel
    turnEvent := turnEvent }

/-- Writes the records of a new turn with its run, context and first event. -/
def State.insertTurn (turn : ConversationTurn) (lineage : ConversationTurnLineage) (run : Run)
    (runEvent : NewRunEvent) (context : List Message) (turnEvent : ConversationTurnEvent) : State :=
  let s := { s with runs := s.runs.insert run.id run }.appendEvents run.id [runEvent]
  { s with
    conversationTurnKeys := s.conversationTurnKeys.insert turn.idempotencyKey turn.id
    conversationLineages := s.conversationLineages.insert turn.id lineage
    conversationContexts := s.conversationContexts.insert turn.id context
    conversationEvents := s.conversationEvents.insert turn.id [turnEvent]
    conversationTurns := s.conversationTurns.insert turn.id turn }

/-- Writes a checked reservation. -/
def State.writeReservation (input : TurnReservationInput) (prepared : PreparedReservation) :
    State :=
  let turn := input.turn
  { s with
    conversationThreadBindings :=
      if prepared.bindThread then
        s.conversationThreadBindings.insert turn.threadId prepared.credentialBinding
      else s.conversationThreadBindings
    conversationThreadModels :=
      if prepared.bindModel then s.conversationThreadModels.insert turn.threadId turn.modelId
      else s.conversationThreadModels
    messages := s.messages.insert prepared.userMessage.id prepared.userMessage }.insertTurn
      turn input.lineage input.run input.event prepared.context prepared.turnEvent

/-- The result of an exact replay of a reservation command. -/
def replayReservation (input : TurnReservationInput) (id : ConversationTurnId) :
    Except StoreError ConversationTurnReservation := do
  let existing ← okOr (s.conversationTurns.lookup id)
    (.internal "conversation command lost its turn")
  rejectIf (existing.requestFingerprint ≠ input.turn.requestFingerprint) .conflict
  rejectIf (s.conversationLineages.lookup id ≠ some input.lineage) .conflict
  let snapshot ← conversationSnapshot s existing
  let context ← okOr (s.conversationContexts.lookup id)
    (.internal "conversation turn lost its immutable context")
  return { snapshot := snapshot, context := context, created := false }

/-- The caller's records of a reservation are well formed. -/
def acceptsReservationInput (input : TurnReservationInput) : Bool :=
  isCanonicalReservationInput input.turn input.userMessage input.run input.event &&
    (input.lineage.restore input.turn.id).isOk &&
    reservationSourceMatchesLineage input.source input.lineage && input.turnEvent = .created

/-- Reserves a turn with its prompt, run, frozen context and first event, or replays the command
that reserved it. -/
def reserveTurn (input : TurnReservationInput) : StoreResult ConversationTurnReservation :=
  if !acceptsReservationInput input then (.error .conflict, s)
  else
    match s.conversationTurnKeys.lookup input.turn.idempotencyKey with
    | some id => (replayReservation s input id, s)
    | none =>
        match prepareReservation s input with
        | .error e => (.error e, s)
        | .ok prepared =>
            writeThenRead s (.ok (s.writeReservation input prepared)) fun s' => do
              let turn ← okOr (s'.conversationTurns.lookup input.turn.id)
                (.internal "conversation reservation was not stored")
              let snapshot ← conversationSnapshot s' turn
              return { snapshot := snapshot, context := prepared.context, created := true }

/-! ## Loading -/

/-- The command scope that creates turns of an origin. -/
def turnCommandScope : ConversationTurnOrigin → String
  | .original => conversationCommandScope
  | .retry _ => conversationRetryCommandScope
  | .editAndBranch _ => conversationEditBranchCommandScope
  | .regenerate _ => conversationRegenerateCommandScope

/-- Loads the turn an exact command created. -/
def loadTurnByCommand (command : MutationCommand) :
    Except StoreError (Option ConversationTurnSnapshot) :=
  if !([conversationCommandScope, conversationRetryCommandScope,
      conversationEditBranchCommandScope, conversationRegenerateCommandScope].contains
        command.scope) then .ok none
  else
    match s.conversationTurnKeys.lookup command.key with
    | none => .ok none
    | some id => do
        let turn ← okOr (s.conversationTurns.lookup id)
          (.internal "conversation command lost its turn")
        rejectIf (turn.requestFingerprint ≠ command.fingerprint) .conflict
        let lineage ← okOr (s.conversationLineages.lookup id)
          (.internal "conversation command lost its lineage")
        rejectIf (turnCommandScope lineage.origin ≠ command.scope) .conflict
        return some (← conversationSnapshot s turn)

/-- Loads a turn by its identifier. -/
def loadTurn (id : ConversationTurnId) : Except StoreError (Option ConversationTurnSnapshot) :=
  match s.conversationTurns.lookup id with
  | none => .ok none
  | some turn => some <$> conversationSnapshot s turn

/-- Loads the frozen context of a turn. -/
def loadTurnContext (id : ConversationTurnId) : Except StoreError (List Message) :=
  okOr (s.conversationContexts.lookup id) .notFound

/-- Whether a turn is the newest of its thread and was not retried yet. -/
def retrySourceIsLatest (id : ConversationTurnId) : Except StoreError Bool := do
  let turn ← okOr (s.conversationTurns.lookup id) .notFound
  let _ ← conversationSnapshot s turn
  let source ← okOr (s.messages.lookup turn.userMessageId)
    (.internal "retry source lost its user message")
  return s.newestSequence turn.threadId = some source.sequence &&
    !s.conversationLineages.values.any (·.isRetryOf id)

/-- Sorts turns by creation time, then by identifier. -/
def sortByCreation (turns : List ConversationTurn) : List ConversationTurn :=
  turns.insertionSort fun a b =>
    a.createdAt < b.createdAt ∨ (a.createdAt = b.createdAt ∧ a.id.value ≤ b.id.value)

/-- Lists the oldest turns that are not terminal. -/
def listIncompleteTurnsForRecovery (limit : ℕ) :
    Except StoreError (List ConversationTurnSnapshot) :=
  ((sortByCreation (s.conversationTurns.values.filter fun turn => !turn.state.isTerminal)).take
    limit).mapM (conversationSnapshot s)

/-- The local credential generation of a thread. -/
def threadCredentialBinding (threadId : ThreadId) :
    Except StoreError ConversationThreadCredentialBinding := do
  rejectIf (!s.threads.contains threadId) .notFound
  match s.conversationThreadBindings.lookup threadId with
  | some binding => return .bound binding
  | none => return if (s.threadTurns threadId).isEmpty then .unboundEmpty else .legacyUnbound

def threadModelBinding (threadId : ThreadId) :
    Except StoreError ConversationThreadModelBinding := do
  rejectIf (!s.threads.contains threadId) .notFound
  match s.conversationThreadModels.lookup threadId with
  | some model => return .bound model
  | none => return if (s.threadTurns threadId).isEmpty then .unboundEmpty else .legacyUnbound

/-! ## The provider boundary -/

/-- The run events of a dispatch. -/
def providerStartEvents (at_ : UnixMillis) (effectId : EffectId) : List NewRunEvent :=
  [{ occurredAt := at_, kind := .stateChanged .queued .planning },
    { occurredAt := at_, kind := .stateChanged .planning .running },
    { occurredAt := at_, kind := .effectPrepared effectId }]

variable (current : ConversationTurnSnapshot)

/-- The commit starts the provider on exactly the current reservation. -/
def isExactProviderStart (commit : ProviderStartCommit) : Bool :=
  let at_ := commit.turn.updatedAt
  current.turn.state = .reserved && current.effect.isNone && current.assistantMessage.isNone &&
    commit.expectedTurnRevision = current.turn.revision &&
    commit.expectedRunRevision = current.run.revision &&
    match commit.turn.providerRequestFingerprint with
    | none => false
    | some fingerprint =>
        (current.turn.startProvider commit.effect.id fingerprint at_).toOption = some commit.turn &&
          (dispatchedRun current.run at_).toOption = some commit.run &&
          (startedProviderEffect commit.effect.id current.run.id current.turn.modelId
            at_).toOption = some commit.effect &&
          commit.events = providerStartEvents at_ commit.effect.id

/-- The stored event log of a turn extended by one event that fits the turn's new record. -/
def extendedEventLog (turn : ConversationTurn) (turnEvent : ConversationTurnEventKind)
    (assistantText : Option String) : Except StoreError (List ConversationTurnEvent) := do
  let log ← conversationEventLog s turn.id
  let (event, log) ← (log.appendKind turnEvent).mapError fun _ => .conflict
  (log.validateSnapshot turn assistantText).mapError fun _ => .conflict
  let stored ← okOr (s.conversationEvents.lookup turn.id)
    (.internal "conversation turn lost its event log")
  return stored ++ [event]

/-- Writes a checked provider start. -/
def State.writeProviderStart (commit : ProviderStartCommit)
    (turnEvents : List ConversationTurnEvent) : State :=
  { s with
    conversationTurns := s.conversationTurns.insert commit.turn.id commit.turn
    runs := s.runs.insert commit.run.id commit.run
    effects := s.effects.insert commit.effect.id commit.effect
    conversationEvents := s.conversationEvents.insert commit.turn.id turnEvents }.appendEvents
      commit.run.id commit.events

/-- Checks a provider start and makes the state it writes. -/
def checkedProviderStart (commit : ProviderStartCommit) : Except StoreError State := do
  let current ← loadSnapshot s commit.turn.id
  rejectIf (s.effects.contains commit.effect.id ∨ !isExactProviderStart current commit) .conflict
  rejectIf (!isCanonicalConversationSnapshot { current with
    turn := commit.turn
    assistantMessage := none
    run := commit.run
    effect := some commit.effect }) .conflict
  let turnEvents ← extendedEventLog s commit.turn commit.turnEvent none
  return s.writeProviderStart commit turnEvents

/-- Commits the provider boundary of one reserved turn. -/
def commitProviderStart (commit : ProviderStartCommit) : StoreResult ConversationTurnSnapshot :=
  writeThenRead s (checkedProviderStart s commit) (loadSnapshot · commit.turn.id)

/-! ## Terminal states -/

/-- The turn record a terminal commit must carry. -/
def expectedTerminalTurn (current : ConversationTurn) (commit : TerminalTurnCommit) :
    Option ConversationTurn :=
  let at_ := commit.turn.updatedAt
  match commit.turn.state, commit.assistantMessage with
  | .completed, some assistant =>
      if isCanonicalMessage assistant .assistant at_ 0 then
        (current.complete assistant.id commit.turn.providerResponseId commit.turn.citations
          commit.turn.usage commit.turn.zeroDataRetention at_).toOption
      else none
  | .failed, none => do
      let failure ← commit.turn.failure
      (current.fail failure at_).toOption
  | .cancelled, none => (current.cancel at_).toOption
  | .interruptedNeedsReview, none => (current.interrupt at_).toOption
  | _, _ => none

/-- The run events of a terminal transition. -/
def expectedTerminalEvents (turnState : ConversationTurnState) (occurredAt : UnixMillis)
    (runState : RunState) : Option (List NewRunEvent) := do
  let changed : NewRunEvent :=
    { occurredAt := occurredAt, kind := .stateChanged current.run.state runState }
  if turnState = .interruptedNeedsReview then
    let effect ← current.effect
    return [{ occurredAt := occurredAt, kind := .effectNeedsReview effect.id }, changed]
  else
    return [changed]

/-- The effect of a terminal commit continues the current one. -/
def isExactTerminalEffectTransition (commit : TerminalTurnCommit) (at_ : UnixMillis) : Bool :=
  match current.turn.state, current.effect, commit.effect, commit.expectedEffectRevision with
  | .reserved, none, none, none => commit.turn.state = .cancelled
  | .providerStarted, some currentEffect, some nextEffect, some expectedRevision =>
      expectedRevision = currentEffect.revision &&
        match commit.turn.state with
        | .completed => (currentEffect.finish true at_).toOption = some nextEffect
        | .failed => (currentEffect.finish false at_).toOption = some nextEffect
        | .interruptedNeedsReview => (currentEffect.interrupt at_).toOption = some nextEffect
        | _ => false
  | _, _, _, _ => false

/-- The commit ends exactly the current turn. -/
def isExactTerminalTransition (commit : TerminalTurnCommit) : Bool :=
  let at_ := commit.turn.updatedAt
  commit.expectedTurnRevision = current.turn.revision &&
    commit.expectedRunRevision = current.run.revision &&
    expectedTerminalTurn current.turn commit = some commit.turn &&
    match terminalRunState commit.turn.state with
    | none => false
    | some runState =>
        (current.run.transition runState at_).toOption = some commit.run &&
          expectedTerminalEvents current commit.turn.state at_ runState = some commit.events &&
          isExactTerminalEffectTransition current commit at_

/-- The assistant message with the sequence the store assigns. -/
def sequencedAssistant : Option Message → Except StoreError (Option Message)
  | none => .ok none
  | some assistant => do
      rejectIf (s.messages.contains assistant.id) .conflict
      let sequence ← okOr (s.nextSequence assistant.threadId) .conflict
      return some { assistant with sequence := sequence }

/-- Inserts an optional record under the key it carries. -/
def insertOptional {κ α : Type} [DecidableEq κ] (t : Table κ α) (key : α → κ) : Option α → Table κ α
  | none => t
  | some v => t.insert (key v) v

/-- Writes a checked terminal commit. -/
def State.writeTerminal (commit : TerminalTurnCommit) (assistant : Option Message)
    (turnEvents : List ConversationTurnEvent) : State :=
  { s with
    messages := insertOptional s.messages Message.id assistant
    effects := insertOptional s.effects SideEffect.id commit.effect
    runs := s.runs.insert commit.run.id commit.run
    conversationTurns := s.conversationTurns.insert commit.turn.id commit.turn
    conversationEvents := s.conversationEvents.insert commit.turn.id turnEvents }.appendEvents
      commit.run.id commit.events

/-- Checks a terminal commit and makes the state it writes. -/
def checkedTerminal (commit : TerminalTurnCommit) : Except StoreError State := do
  let current ← loadSnapshot s commit.turn.id
  rejectIf (!isExactTerminalTransition current commit) .conflict
  let assistant ← sequencedAssistant s commit.assistantMessage
  rejectIf (!isCanonicalConversationSnapshot { current with
    turn := commit.turn
    assistantMessage := assistant
    run := commit.run
    effect := commit.effect }) .conflict
  let turnEvents ← extendedEventLog s commit.turn commit.turnEvent
    (assistant.map Message.content)
  return s.writeTerminal commit assistant turnEvents

def commitTerminal (commit : TerminalTurnCommit) : StoreResult ConversationTurnSnapshot :=
  writeThenRead s (checkedTerminal s commit) (loadSnapshot · commit.turn.id)

/-! ## Cancellation -/

def isExactCancellationEdge : ConversationTurnState → ConversationTurnState → Bool
  | .reserved, .cancelled | .providerStarted, .interruptedNeedsReview => true
  | _, _ => false

/-- The result of an exact replay of a cancellation command. -/
def replayCancellation (commit : CancelConversationTurnCommit)
    (record : ConversationCancelCommandRecord) : Except StoreError ConversationTurnSnapshot := do
  rejectIf (record.fingerprint ≠ commit.command.fingerprint ∨ record.turnId ≠ commit.turnId)
    .conflict
  let turn ← okOr (s.conversationTurns.lookup record.turnId)
    (.internal "cancel command lost its turn")
  let snapshot ← conversationSnapshot s turn
  rejectIf (!snapshot.turn.state.isTerminal ∨ snapshot.turn.state ≠ record.outcomeState
    ∨ snapshot.turn.revision ≠ record.outcomeRevision)
    (.internal "cancel command outcome binding is invalid")
  return snapshot

/-- The terminal commit of a cancellation of the observed revision. -/
def cancellationTerminal (commit : CancelConversationTurnCommit) :
    Except StoreError TerminalTurnCommit := do
  rejectIf (current.turn.revision ≠ commit.expectedTurnRevision) .conflict
  let terminal ← okOr commit.terminal .conflict
  rejectIf (terminal.turn.id ≠ commit.turnId
    ∨ terminal.expectedTurnRevision ≠ commit.expectedTurnRevision
    ∨ !isExactCancellationEdge current.turn.state terminal.turn.state) .conflict
  return terminal

/-- Ends the turn of a cancellation unless a terminal state won the observed revision. -/
def cancellationOutcome (commit : CancelConversationTurnCommit) :
    StoreResult ConversationTurnSnapshot :=
  match loadSnapshot s commit.turnId with
  | .error e => (.error e, s)
  | .ok current =>
      if current.turn.state.isTerminal then
        if checkedAdd commit.expectedTurnRevision 1 ≠ some current.turn.revision then
          (.error .conflict, s)
        else (.ok current, s)
      else
        match cancellationTerminal current commit with
        | .error e => (.error e, s)
        | .ok terminal => commitTerminal s terminal

/-- Remembers the outcome of a cancellation command. -/
def State.recordCancellation (commit : CancelConversationTurnCommit)
    (outcome : ConversationTurnSnapshot) : State :=
  { s with
    conversationCancelCommands := s.conversationCancelCommands.insert
      (commit.command.scope, commit.command.key) {
        fingerprint := commit.command.fingerprint
        turnId := commit.turnId
        outcomeState := outcome.turn.state
        outcomeRevision := outcome.turn.revision } }

/-- Commits a cancellation command of one scope, or replays it. -/
def commitConversationCancellation (commit : CancelConversationTurnCommit)
    (expectedScope : String) :
    StoreResult ConversationTurnSnapshot :=
  if commit.command.scope ≠ expectedScope then (.error .conflict, s)
  else
    match s.conversationCancelCommands.lookup (commit.command.scope, commit.command.key) with
    | some record => (replayCancellation s commit record, s)
    | none =>
        match cancellationOutcome s commit with
        | (.error e, s') => (.error e, s')
        | (.ok outcome, s') => (.ok outcome, s'.recordCancellation commit outcome)

/-- Commits a user's cancellation. -/
def commitCancellation (commit : CancelConversationTurnCommit) :
    StoreResult ConversationTurnSnapshot :=
  commitConversationCancellation s commit conversationCancelCommandScope

/-- Commits the classification of a provider task that exited. -/
def commitDispatchExitReconciliation (commit : CancelConversationTurnCommit) :
    StoreResult ConversationTurnSnapshot :=
  commitConversationCancellation s commit conversationReconciliationCommandScope

/-! ## Text -/

/-- The text events of at most one chunk each that a text is stored as. -/
def splitConversationText (text : String) : List String :=
  (Utf8.chunks maxConversationTextChunkBytes text.toList).map String.ofList

/-- Appends one text event per chunk to a log. -/
def appendChunks : ConversationTurnEventLog → List String →
    Except ConversationTurnEventError (List ConversationTurnEvent × ConversationTurnEventLog)
  | log, [] => .ok ([], log)
  | log, chunk :: rest => do
      let (event, log) ← log.appendKind (.textAppended log.text.utf8ByteSize chunk)
      let (events, log) ← appendChunks log rest
      return (event :: events, log)

/-- Collects the stored events of an append that is replayed. `found` says whether the event at the
start offset was met. -/
def replayTextFrom (startUtf8Offset : ℕ) (expectedText : String) :
    (found : Bool) → (actual : String) → (expectedOffset : ℕ) → List ConversationTurnEvent →
      List ConversationTurnEvent → Option (List ConversationTurnEvent)
  | found, actual, _, replay, [] => if found ∧ actual = expectedText then some replay else none
  | found, actual, expectedOffset, replay, event :: rest =>
      match event.kind with
      | .textAppended eventOffset text =>
          if !found ∧ eventOffset ≠ startUtf8Offset then
            replayTextFrom startUtf8Offset expectedText found actual expectedOffset replay rest
          else if eventOffset ≠ expectedOffset
              ∨ expectedText.utf8ByteSize ≤ actual.utf8ByteSize then none
          else
            let actual := actual ++ text
            let replay := replay ++ [event]
            if expectedText.utf8ByteSize ≤ actual.utf8ByteSize then
              if actual = expectedText then some replay else none
            else
              replayTextFrom startUtf8Offset expectedText true actual
                (expectedOffset + text.utf8ByteSize) replay rest
      | _ =>
          if found then if actual = expectedText then some replay else none
          else replayTextFrom startUtf8Offset expectedText found actual expectedOffset replay rest

/-- The stored events of an exact replay of an append. -/
def replayedTextAppend (events : List ConversationTurnEvent) (startUtf8Offset : ℕ)
    (expectedText : String) : Option (List ConversationTurnEvent) :=
  replayTextFrom startUtf8Offset expectedText false "" startUtf8Offset [] events

/-- The arguments of `append_turn_text`. -/
structure TurnTextAppend where
  turnId : ConversationTurnId
  expectedTurnRevision : ℕ
  startUtf8Offset : ℕ
  text : String
  deriving DecidableEq

/-- Checks an append; the flag says whether the events are new or stored already. -/
def checkedTextAppend (append : TurnTextAppend) :
    Except StoreError (List ConversationTurnEvent × Bool) := do
  rejectIf append.text.isEmpty .conflict
  let turn ← okOr (s.conversationTurns.lookup append.turnId) .notFound
  rejectIf (turn.revision ≠ append.expectedTurnRevision ∨ turn.state ≠ .providerStarted) .conflict
  let log ← conversationEventLog s append.turnId
  (log.validateSnapshot turn none).mapError fun _ => .conflict
  if append.startUtf8Offset < log.text.utf8ByteSize then
    let stored ← okOr (s.conversationEvents.lookup append.turnId)
      (.internal "conversation turn lost its event log")
    let events ← okOr (replayedTextAppend stored append.startUtf8Offset append.text) .conflict
    return (events, false)
  else
    rejectIf (append.startUtf8Offset ≠ log.text.utf8ByteSize) .conflict
    let (events, _) ← (appendChunks log (splitConversationText append.text)).mapError
      fun _ => .conflict
    rejectIf events.isEmpty .conflict
    return (events, true)

/-- Writes the text events of a checked append. -/
def State.writeTurnText (append : TurnTextAppend) (events : List ConversationTurnEvent) : State :=
  { s with
    conversationEvents := s.conversationEvents.insert append.turnId
      ((s.conversationEvents.lookup append.turnId).getD [] ++ events) }

/-- Appends text to a turn whose provider has started, or replays an append. -/
def appendTurnText (append : TurnTextAppend) : StoreResult (List ConversationTurnEvent) :=
  match checkedTextAppend s append with
  | .error e => (.error e, s)
  | .ok (events, false) => (.ok events, s)
  | .ok (events, true) => (.ok events, s.writeTurnText append events)

end Operations

end GrokDesktop
