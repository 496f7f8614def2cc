import GrokDesktop.Application.Prepare

/-!
# Dispatch, cancellation and recovery

`dispatch` commits the provider boundary of a reserved turn, makes its billable provider request and
consumes the stream into durable text and a terminal state. `cancel`, `reconcile_dispatch_exit` and
`recover_incomplete` end turns from outside.
-/

namespace GrokDesktop

open Resumption Service

/-! ## Terminal commits -/

variable (snapshot : ConversationTurnSnapshot)

/-- The time of a terminal transition: not before any record it changes. -/
def terminalTimestamp (clock : UnixMillis) : UnixMillis :=
  let time := max (max clock snapshot.turn.updatedAt) snapshot.run.updatedAt
  match snapshot.effect with
  | none => time
  | some effect => max time effect.updatedAt

/-- The effect of a turn whose provider has started. -/
def requiredExecutingEffect (effect : Option SideEffect) : Except ApplicationError SideEffect :=
  Except.okOr (effect.filter fun effect => effect.state = .executing)
    (.storage "provider-started conversation is missing its executing effect")

/-- The change of a run's state as an audit event. -/
def runStateChanged (run : Run) (target : RunState) (now : UnixMillis) : NewRunEvent :=
  { occurredAt := now, kind := .stateChanged run.state target }

/-- A terminal commit with the revisions observed in a snapshot. -/
def terminalCommit (turn : ConversationTurn) (run : Run) (effect : Option SideEffect)
    (assistant : Option Message) (events : List NewRunEvent) (source : ConversationTurnState) :
    TerminalTurnCommit where
  turn := turn
  expectedTurnRevision := snapshot.turn.revision
  run := run
  expectedRunRevision := snapshot.run.revision
  effect := effect
  expectedEffectRevision := effect.bind fun _ => snapshot.effect.map SideEffect.revision
  assistantMessage := assistant
  events := events
  turnEvent := .stateChanged source turn.state

/-- The outcome of a provider response as the stream reported it. -/
structure ProviderOutcome where
  output : String
  providerResponseId : Option String
  citations : List Citation
  usage : Usage
  zeroDataRetention : Option Bool
  deriving DecidableEq

section Commits

variable [UrlLibrary]

def buildCompletedCommit (snapshot : ConversationTurnSnapshot) (outcome : ProviderOutcome) :
    Service TerminalTurnCommit := do
  let clock : UnixMillis ← request .now
  let now := terminalTimestamp snapshot clock
  let effect ← check id (requiredExecutingEffect snapshot.effect)
  let messageId ← freshId .message "message"
  let assistant ← check .ofWorkspace
    (Message.new messageId snapshot.turn.threadId .assistant outcome.output now)
  let turn ← check .ofTurn (snapshot.turn.complete assistant.id outcome.providerResponseId
    (outcome.citations.map fun citation => { title := citation.title, url := citation.url })
    { inputTokens := outcome.usage.inputTokens
      outputTokens := outcome.usage.outputTokens
      costInUsdTicks := outcome.usage.costInUsdTicks }
    outcome.zeroDataRetention now)
  let effect ← check .ofEffect (effect.finish true now)
  let run ← check .ofTransition (snapshot.run.transition .completed now)
  return terminalCommit snapshot turn run (some effect) (some assistant)
    [runStateChanged snapshot.run .completed now] .providerStarted

end Commits

/-- The commit of a failure the provider confirmed. -/
def buildFailedCommit (error : ModelError) : Service TerminalTurnCommit := do
  let clock : UnixMillis ← request .now
  let now := terminalTimestamp snapshot clock
  let effect ← check id (requiredExecutingEffect snapshot.effect)
  let turn ← check .ofTurn (snapshot.turn.fail {
    kind := failureKind error.kind
    message := error.message
    retryable := error.retryable } now)
  let effect ← check .ofEffect (effect.finish false now)
  let run ← check .ofTransition (snapshot.run.transition .failed now)
  return terminalCommit snapshot turn run (some effect) none
    [runStateChanged snapshot.run .failed now] .providerStarted

/-- The commit of an uncertain outcome. -/
def buildInterruptCommit : Service TerminalTurnCommit := do
  let clock : UnixMillis ← request .now
  let now := terminalTimestamp snapshot clock
  let effect ← check id (requiredExecutingEffect snapshot.effect)
  let turn ← check .ofTurn (snapshot.turn.interrupt now)
  let effect ← check .ofEffect (effect.interrupt now)
  let run ← check .ofTransition (snapshot.run.transition .interruptedNeedsReview now)
  return terminalCommit snapshot turn run (some effect) none
    [{ occurredAt := now, kind := .effectNeedsReview effect.id },
      runStateChanged snapshot.run .interruptedNeedsReview now] .providerStarted

/-- The commit of a reservation that never reached the provider. -/
def buildCancelReservedCommit : Service TerminalTurnCommit := do
  let clock : UnixMillis ← request .now
  let now := terminalTimestamp snapshot clock
  let turn ← check .ofTurn (snapshot.turn.cancel now)
  let run ← check .ofTransition (snapshot.run.transition .cancelled now)
  return terminalCommit snapshot turn run none none
    [runStateChanged snapshot.run .cancelled now] .reserved

def commitEnd (commit : TerminalTurnCommit) : Service ConversationTurnSnapshot := do
  fromStore (← request (.commitTerminal commit))

/-- Ends a turn in review. -/
def interrupt : Service ConversationTurnSnapshot := do
  let commit ← buildInterruptCommit snapshot
  commitEnd commit

def cancelReserved : Service ConversationTurnSnapshot := do
  let commit ← buildCancelReservedCommit snapshot
  commitEnd commit

def creatingCommand : MutationCommand where
  scope := turnCommandScope snapshot.lineage.origin
  key := snapshot.turn.idempotencyKey
  fingerprint := snapshot.turn.requestFingerprint

/-- Returns the terminal state that another writer committed, or fails with the error. -/
def reconcile (error : ApplicationError) : Service ConversationTurnSnapshot := do
  match ← fromStore (← request (.loadTurnByCommand (creatingCommand snapshot))) with
  | some current => if current.turn.state.isTerminal then return current else throw error
  | none => throw error

/-- Ends a turn in review unless another writer ended it first. -/
def interruptOrReconcile : Service ConversationTurnSnapshot := do
  match ← (interrupt snapshot).attempt with
  | .ok interrupted => return interrupted
  | .error error => reconcile snapshot error

/-- Commits a terminal state that was built from untrusted provider data; what cannot be built or
committed ends in review. -/
def commitOrInterrupt (build : Service TerminalTurnCommit) : Service ConversationTurnSnapshot := do
  match ← build.attempt with
  | .error _ => interruptOrReconcile snapshot
  | .ok commit =>
      match ← (commitEnd commit).attempt with
      | .ok committed => return committed
      | .error _ => interruptOrReconcile snapshot

def finishProviderError (error : ModelError) : Service ConversationTurnSnapshot :=
  if error.certainty = .outcomeUnknown then interruptOrReconcile snapshot
  else commitOrInterrupt snapshot (buildFailedCommit snapshot error)

/-! ## Durable text -/

/-- The pending text is made durable in pieces of at most this many bytes. -/
def conversationTextCoalesceBytes : ℕ := maxConversationTextChunkBytes

/-- Checks the events of an append one after the other, with the text they repeat. -/
def validateAppendedTextFrom (turnId : ConversationTurnId) (expectedText : String) :
    (expectedOffset : ℕ) → (previousSequence : Option ℕ) → (actualText : String) →
      List ConversationTurnEvent → Except ApplicationError Unit
  | _, _, actualText, [] =>
      Except.rejectIf (actualText ≠ expectedText)
        (.storage "conversation text append did not persist the exact normalized text")
  | expectedOffset, previousSequence, actualText, event :: rest => do
      let event ← event.restore.mapError fun error =>
        .storage ("conversation text append returned an invalid event: " ++ error.display)
      Except.rejectIf (event.turnId ≠ turnId ∨ previousSequence.any fun previous =>
        checkedAdd previous 1 ≠ some event.sequence)
        (.storage "conversation text append returned a noncontiguous event batch")
      match event.kind with
      | .textAppended startUtf8Offset text => do
          Except.rejectIf (startUtf8Offset ≠ expectedOffset)
            (.storage "conversation text append returned an invalid UTF-8 offset")
          let expectedOffset ← Except.okOr (checkedAdd expectedOffset text.utf8ByteSize)
            (.storage "conversation text append offset overflow")
          validateAppendedTextFrom turnId expectedText expectedOffset (some event.sequence)
            (actualText ++ text) rest
      | .created | .stateChanged .. =>
          .error (.storage "conversation text append returned a lifecycle event")

/-- Checks that the events of an append repeat exactly its text. -/
def validateAppendedTextEvents (turnId : ConversationTurnId) (startUtf8Offset : ℕ)
    (expectedText : String) (events : List ConversationTurnEvent) :
    Except ApplicationError Unit := do
  Except.rejectIf (expectedText.isEmpty ∨ events.isEmpty)
    (.storage "conversation text append returned an empty event batch")
  validateAppendedTextFrom turnId expectedText startUtf8Offset none "" events

/-- Makes a piece of text durable. -/
def appendNormalizedText (startUtf8Offset : ℕ) (text : String) : Service Unit := do
  let events ← fromStore (← request (.appendTurnText {
    turnId := snapshot.turn.id
    expectedTurnRevision := snapshot.turn.revision
    startUtf8Offset := startUtf8Offset
    text := text }))
  check id (validateAppendedTextEvents snapshot.turn.id startUtf8Offset text events)

/-- Makes a piece of text durable unless cancellation comes first; whether it was done. -/
def appendNormalizedTextOrCancel (startUtf8Offset : ℕ) (text : String) : Service Bool := do
  match ← raceCancellationFirst (appendNormalizedText snapshot startUtf8Offset text) with
  | some (.ok ()) => return true
  | some (.error _) | none => return false

/-- What the consumer of a stream has seen. -/
structure StreamProgress where
  output : String := ""
  pendingText : String := ""
  durableTextOffset : ℕ := 0
  citations : List Citation := []
  usage : Option Usage := none
  providerResponseId : Option String := none
  zeroDataRetention : Option Bool := none
  completed : Bool := false
  deriving DecidableEq

/-- The longest prefix of whole characters within the byte limit, and the rest. -/
def splitPending (text : String) : String × String :=
  let (chunk, rest) := Utf8.splitBytes conversationTextCoalesceBytes text.toList
  (String.ofList chunk, String.ofList rest)

/-- Makes full pieces of the pending text durable. Each round takes at least one character, so the
number of characters bounds the rounds. The result is `none` when the turn must end in review. -/
def flushPending (started : ConversationTurnSnapshot) :
    ℕ → StreamProgress → Service (Option StreamProgress)
  | 0, progress => return some progress
  | rounds + 1, progress =>
      if progress.pendingText.utf8ByteSize < conversationTextCoalesceBytes then
        return some progress
      else do
        let (chunk, rest) := splitPending progress.pendingText
        let done ← appendNormalizedTextOrCancel started progress.durableTextOffset chunk
        match done, checkedAdd progress.durableTextOffset chunk.utf8ByteSize with
        | true, some nextOffset => flushPending started rounds { progress with
            pendingText := rest
            durableTextOffset := nextOffset }
        | _, _ => return none

/-! ## The stream -/

/-- Consumes one event. The result is `none` when the turn must end in review. -/
def consumeEvent (started : ConversationTurnSnapshot) (progress : StreamProgress) :
    ConversationEvent → Service (Option StreamProgress)
  | .started continuation => return some { progress with
      providerResponseId := continuation <|> progress.providerResponseId }
  | .textDelta delta =>
      if maxMessageBytes < progress.output.utf8ByteSize + delta.utf8ByteSize then return none
      else
        let progress := { progress with
          output := progress.output ++ delta
          pendingText := progress.pendingText ++ delta }
        flushPending started progress.pendingText.length progress
  | .citation citation =>
      if progress.citations.any fun known => known.url = citation.url then return some progress
      else if 256 ≤ progress.citations.length then return none
      else return some { progress with citations := progress.citations ++ [citation] }
  | .usage usage => return some { progress with usage := some usage }
  | .retentionObserved value => return some { progress with zeroDataRetention := some value }
  | .completed continuation => return some { progress with
      providerResponseId := continuation <|> progress.providerResponseId
      completed := true }

section Stream

variable [UrlLibrary] (snapshot : ConversationTurnSnapshot)

def complete (outcome : ProviderOutcome) : Service ConversationTurnSnapshot :=
  commitOrInterrupt snapshot (buildCompletedCommit snapshot outcome)

variable (started : ConversationTurnSnapshot)

/-- Commits a completed response unless cancellation comes first. -/
def completeOrCancel (outcome : ProviderOutcome) : Service ConversationTurnSnapshot := do
  match ← raceCancellationFirst (complete started outcome) with
  | some (.ok snapshot) => return snapshot
  | some (.error error) => throw error
  | none => interruptOrReconcile started

/-- Makes the last piece of text durable, if there is one. -/
def flushLast (progress : StreamProgress) : Service Bool :=
  if progress.pendingText.isEmpty then return true
  else appendNormalizedTextOrCancel started progress.durableTextOffset progress.pendingText

/-- Ends a turn whose stream has ended. -/
def finishStream (progress : StreamProgress) : Service ConversationTurnSnapshot :=
  match progress.usage with
  | none => interruptOrReconcile started
  | some usage =>
      if !progress.completed ∨ progress.output.isEmpty then interruptOrReconcile started
      else do
        let flushed ← flushLast started progress
        if flushed then
          completeOrCancel started {
            output := progress.output
            providerResponseId := progress.providerResponseId
            citations := progress.citations
            usage := usage
            zeroDataRetention := progress.zeroDataRetention }
        else interruptOrReconcile started

/-- Consumes the items of a stream. Completion is a terminal provider event: any later item makes
the outcome uncertain. -/
def consumeItems (started : ConversationTurnSnapshot) :
    StreamProgress → List StreamItem → Service ConversationTurnSnapshot
  | progress, [] => do
      let cancelled : Bool ← request .awaitItem
      if cancelled then interruptOrReconcile started else finishStream started progress
  | progress, item :: rest => do
      let cancelled : Bool ← request .awaitItem
      if cancelled ∨ progress.completed then interruptOrReconcile started
      else
        match item with
        | .error error => finishProviderError started error
        | .ok event => do
            match ← consumeEvent started progress event with
            | none => interruptOrReconcile started
            | some progress => consumeItems started progress rest

/-- Consumes a provider stream into durable text and a terminal state. -/
def consumeStream (stream : List StreamItem) : Service ConversationTurnSnapshot :=
  consumeItems started {} stream

/-! ## Dispatch -/

/-- The commit of the provider boundary of a reserved turn. -/
def buildProviderStart (providerFingerprint : Digest) : Service ProviderStartCommit := do
  reject (snapshot.turn.state ≠ .reserved ∨ snapshot.run.state ≠ .queued
    ∨ snapshot.effect.isSome)
    (.invalidState "conversation reservation cannot start provider dispatch")
  let now : UnixMillis ← request .now
  let run ← check .ofTransition (dispatchedRun snapshot.run now)
  let effectId ← freshId .effect "effect"
  let effect ← check .ofEffect
    (startedProviderEffect effectId run.id snapshot.turn.modelId now)
  let turn ← check .ofTurn (snapshot.turn.startProvider effect.id providerFingerprint now)
  return {
    turn := turn
    expectedTurnRevision := snapshot.turn.revision
    run := run
    expectedRunRevision := snapshot.run.revision
    effect := effect
    events := providerStartEvents now effect.id
    turnEvent := .stateChanged .reserved .providerStarted }

/-- Commits the provider boundary of a reserved turn. -/
def startProvider (providerFingerprint : Digest) : Service ConversationTurnSnapshot := do
  let commit ← buildProviderStart snapshot providerFingerprint
  fromStore (← request (.commitProviderStart commit))

/-- Makes the provider request of a turn whose boundary is committed, and consumes the stream. -/
def streamTurn (providerRequest : ConversationRequest) : Service ConversationTurnSnapshot := do
  let outcome : Option (Except ModelError (List StreamItem)) ←
    request (.stream started.turn.id providerRequest)
  match outcome with
  | none => interruptOrReconcile started
  | some (.error error) => finishProviderError started error
  | some (.ok stream) => consumeStream started stream

/-- Streams the turn whose boundary was committed; a turn that moved on meanwhile is only read. -/
def streamStarted (plan : ConversationTurnDispatch)
    (started : Except ApplicationError ConversationTurnSnapshot) :
    Service ConversationTurnSnapshot :=
  match started with
  | .ok started => streamTurn started plan.request
  | .error .conflict => do
      let current ← fromStore (← request (.loadTurn plan.snapshot.turn.id))
      require current (.storage "conversation turn disappeared after a revision conflict")
  | .error error => throw error

/-- Executes the provider work of one plan. -/
def dispatch [Sha256Library] (plan : ConversationTurnDispatch) :
    Service ConversationTurnSnapshot := do
  let binding ← require plan.snapshot.lineage.credentialBindingId
    (.integrity "conversation dispatch is missing its credential binding")
  check id (← request (.acquireCredentialUse plan.snapshot.lineage.rail binding))
  let started ← (startProvider plan.snapshot (providerRequestFingerprint plan.request)).attempt
  streamStarted plan started

end Stream

/-! ## Cancellation and recovery -/

/-- The terminal commit that cancels a turn in its observed state, if it has not ended. -/
def buildCancellationTerminal : Service (Option TerminalTurnCommit) :=
  match snapshot.turn.state with
  | .reserved => do
      let commit ← buildCancelReservedCommit snapshot
      return some commit
  | .providerStarted => do
      let commit ← buildInterruptCommit snapshot
      return some commit
  | .completed | .failed | .cancelled | .interruptedNeedsReview => return none

section Cancellation

variable [Sha256Library]

/-- Commits a user's cancellation of an observed revision. -/
def cancel (turnId : ConversationTurnId) (expectedRevision : ℕ) (idempotencyKey : String) :
    Service ConversationTurnSnapshot := do
  let command ← check id (mutationCommand conversationCancelCommandScope idempotencyKey
    [turnId.value, toString expectedRevision])
  let snapshot ← require (← fromStore (← request (.loadTurn turnId))) .notFound
  let terminal ← buildCancellationTerminal snapshot
  fromStore (← request (.commitCancellation {
    command := command
    turnId := turnId
    expectedTurnRevision := expectedRevision
    terminal := terminal }))

/-- Ends the turn of a task that exited, with a bounded number of tries. -/
def reconcileDispatchExitWithin (turnId : ConversationTurnId) :
    ℕ → Service ConversationTurnSnapshot
  | 0 => throw .conflict
  | tries + 1 => do
      let snapshot ← require (← fromStore (← request (.loadTurn turnId))) .notFound
      if snapshot.turn.state.isTerminal then return snapshot
      else do
        let command ← check id (mutationCommand conversationReconciliationCommandScope
          (dispatchExitIdempotencyKey turnId) [turnId.value, toString snapshot.turn.revision])
        let terminal ← buildCancellationTerminal snapshot
        let outcome : Except StoreError ConversationTurnSnapshot ←
          request (.commitDispatchExitReconciliation {
            command := command
            turnId := turnId
            expectedTurnRevision := snapshot.turn.revision
            terminal := terminal })
        match outcome with
        | .ok ended => return ended
        | .error .conflict => reconcileDispatchExitWithin turnId tries
        | .error error => throw (.ofStore error)

/-- Ends the turn of a task that exited. -/
def reconcileDispatchExit (turnId : ConversationTurnId) : Service ConversationTurnSnapshot :=
  reconcileDispatchExitWithin turnId 4

end Cancellation

/-- What a recovery has ended. -/
structure ConversationRecoverySummary where
  cancelledReserved : ℕ := 0
  interruptedNeedsReview : ℕ := 0
  truncated : Bool := false
  deriving DecidableEq

/-- Ends the turns that a crash left, one after the other. -/
def recoverTurns : ConversationRecoverySummary → List ConversationTurnSnapshot →
    Service ConversationRecoverySummary
  | summary, [] => return summary
  | summary, snapshot :: rest =>
      match snapshot.turn.state with
      | .reserved => do
          let _ ← cancelReserved snapshot
          recoverTurns { summary with cancelledReserved := summary.cancelledReserved + 1 } rest
      | .providerStarted => do
          let _ ← interrupt snapshot
          recoverTurns
            { summary with interruptedNeedsReview := summary.interruptedNeedsReview + 1 } rest
      | .completed | .failed | .cancelled | .interruptedNeedsReview =>
          throw (.storage "conversation recovery store returned a terminal turn")

/-- Ends at most `limit` turns that a crash left. -/
def recoverIncomplete (limit : ℕ) : Service ConversationRecoverySummary := do
  reject (limit = 0 ∨ maxConversationRecoveryBatch < limit)
    (.invalidInput ("conversation recovery limit must be between 1 and " ++
      toString maxConversationRecoveryBatch))
  let turns ← fromStore (← request (.listIncompleteTurnsForRecovery (limit + 1)))
  recoverTurns { truncated := limit < turns.length } (turns.take limit)

end GrokDesktop
