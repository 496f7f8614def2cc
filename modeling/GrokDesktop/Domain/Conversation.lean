import GrokDesktop.Domain.Workspace

/-!
# Conversation turns

The aggregate around one billable provider request: its lineage, its lifecycle and the append-only
event log that clients replay. `ConversationTurn.restore` and `ConversationTurnEventLog.restore`
are the checks a store makes before it trusts a record.

URL parsing is a third-party library; the class `UrlLibrary` is the part of it the code uses.
-/

namespace GrokDesktop

open Except

/-! ## Bounds -/

def maxIdempotencyKeyBytes : ℕ := 128
def maxCredentialBindingIdBytes : ℕ := 128
def maxModelIdBytes : ℕ := 512
def maxProviderResponseIdBytes : ℕ := 512
def maxFailureMessageBytes : ℕ := 512
def maxCitations : ℕ := 256
def maxCitationTitleBytes : ℕ := 500
def maxCitationUrlBytes : ℕ := 8192
/-- Maximum aggregate UTF-8 bytes retained across one response's citations. -/
def maxConversationCitationTotalBytes : ℕ := 1000000
/-- Largest usage counter that remains exact in every supported consumer. -/
def maxConversationUsageValue : ℕ := 9007199254740991
/-- Maximum UTF-8 bytes stored in one normalized conversation text event. -/
def maxConversationTextChunkBytes : ℕ := 16 * 1024
/-- Maximum normalized text events retained for one conversation response. -/
def maxConversationTextEvents : ℕ := 4097

/-- The parts of a parsed URL that the code reads. -/
structure UrlParts where
  scheme : String
  host : Option String
  username : String
  password : Option String

/-- The URL library: the parts of a URL, when it parses. -/
class UrlLibrary where
  parse : String → Option UrlParts

/-! ## Lifecycle -/

/-- Durable lifecycle of one direct conversation request. -/
inductive ConversationTurnState where
  | reserved
  | providerStarted
  | completed
  | failed
  | cancelled
  | interruptedNeedsReview
  deriving DecidableEq

namespace ConversationTurnState

/-- Whether the turn must not perform any further provider call. -/
def isTerminal : ConversationTurnState → Bool
  | completed | failed | cancelled | interruptedNeedsReview => true
  | reserved | providerStarted => false

/-- The edges of the turn state machine. -/
def permits : ConversationTurnState → ConversationTurnState → Bool
  | reserved, providerStarted | reserved, cancelled => true
  | providerStarted, completed | providerStarted, failed
  | providerStarted, interruptedNeedsReview => true
  | _, _ => false

/-- A terminal state has no successor. -/
theorem permits_of_isTerminal {s t : ConversationTurnState} (h : s.isTerminal = true) :
    s.permits t = false := by
  cases s <;> cases t <;> first | rfl | cases h

end ConversationTurnState

/-- Invalid direct-conversation lifecycle or bounded metadata. -/
inductive ConversationTurnError where
  | invalidField (field : String)
  | invalidTransition (source target : ConversationTurnState)
  | clockRegression
  | revisionExhausted
  deriving DecidableEq

/-- Checks a bounded, trimmed, printable text. -/
def validateTurnText (value : String) (maximum : ℕ) (field : String) :
    Except ConversationTurnError Unit :=
  rejectIf (value.isEmpty ∨ maximum < value.utf8ByteSize ∨ trim value ≠ value
    ∨ value.toList.any isControl) (.invalidField field)

/-- Checks an opaque local credential generation identifier. -/
def validateCredentialBindingId (value : String) : Except ConversationTurnError Unit :=
  rejectIf (value.isEmpty ∨ maxCredentialBindingIdBytes < value.utf8ByteSize
    ∨ ¬ value.toList.all fun c => isAsciiAlphanumeric c || c = '-' || c = '_' || c = '.' || c = ':')
    (.invalidField "credential_binding_id")

/-! ## Lineage -/

/-- Immutable reason one direct conversation turn exists. -/
inductive ConversationTurnOrigin where
  | original
  | retry (sourceTurnId : ConversationTurnId)
  | editAndBranch (sourceTurnId : ConversationTurnId)
  | regenerate (sourceTurnId : ConversationTurnId)
  deriving DecidableEq

/-- Closed credential rail used for one direct conversation attempt. -/
inductive ChatRail where
  | xaiApiKey
  | superGrokApi
  deriving DecidableEq

/-- Durable non-secret lineage and local credential-generation binding. -/
structure ConversationTurnLineage where
  origin : ConversationTurnOrigin
  credentialBindingId : Option String
  rail : ChatRail
  retryDepth : ℕ
  deriving DecidableEq

namespace ConversationTurnLineage

/-- Creates lineage for a fresh attempt on an explicit rail, with retry depth zero. -/
def fresh (origin : ConversationTurnOrigin) (rail : ChatRail) (credentialBindingId : String) :
    Except ConversationTurnError ConversationTurnLineage := do
  validateCredentialBindingId credentialBindingId
  return {
    origin := origin
    credentialBindingId := some credentialBindingId
    rail := rail
    retryDepth := 0 }

/-- Creates lineage for a newly submitted prompt on an explicit rail. -/
def originalOn (rail : ChatRail) (credentialBindingId : String) :
    Except ConversationTurnError ConversationTurnLineage :=
  fresh .original rail credentialBindingId

variable (sourceTurnId : ConversationTurnId)

/-- Creates retry lineage while preserving an explicit source rail. -/
def retryOn (rail : ChatRail) (credentialBindingId : String) (sourceRetryDepth : ℕ) :
    Except ConversationTurnError ConversationTurnLineage := do
  validateCredentialBindingId credentialBindingId
  rejectIf (¬ sourceRetryDepth + 1 ≤ 64) (.invalidField "retry_depth")
  return {
    origin := .retry sourceTurnId
    credentialBindingId := some credentialBindingId
    rail := rail
    retryDepth := sourceRetryDepth + 1 }

/-- Creates Edit-and-branch lineage while preserving an explicit source rail. -/
def editAndBranchOn (rail : ChatRail) (credentialBindingId : String) :
    Except ConversationTurnError ConversationTurnLineage :=
  fresh (.editAndBranch sourceTurnId) rail credentialBindingId

/-- Creates Regenerate lineage while preserving an explicit source rail. -/
def regenerateOn (rail : ChatRail) (credentialBindingId : String) :
    Except ConversationTurnError ConversationTurnLineage :=
  fresh (.regenerate sourceTurnId) rail credentialBindingId

/-- The shapes a lineage can have for its owner. -/
def wellFormed (lineage : ConversationTurnLineage) (ownerTurnId : ConversationTurnId) : Bool :=
  match lineage.origin with
  | .original => lineage.retryDepth = 0
  | .retry sourceTurnId =>
      sourceTurnId ≠ ownerTurnId && lineage.credentialBindingId.isSome &&
        (1 ≤ lineage.retryDepth && lineage.retryDepth ≤ 64)
  | .editAndBranch sourceTurnId | .regenerate sourceTurnId =>
      sourceTurnId ≠ ownerTurnId && lineage.credentialBindingId.isSome && lineage.retryDepth = 0

/-- Rehydrates lineage after validating its owner and bounded metadata. -/
def restore (lineage : ConversationTurnLineage) (ownerTurnId : ConversationTurnId) :
    Except ConversationTurnError ConversationTurnLineage := do
  if let some binding := lineage.credentialBindingId then
    validateCredentialBindingId binding
  rejectIf (!lineage.wellFormed ownerTurnId) (.invalidField "lineage")
  return lineage

end ConversationTurnLineage

/-! ## Events -/

/-- Durable normalized event kinds for one direct conversation turn. -/
inductive ConversationTurnEventKind where
  | created
  | stateChanged (source target : ConversationTurnState)
  | textAppended (startUtf8Offset : ℕ) (text : String)
  deriving DecidableEq

/-- Append-only, turn-local event clients can replay after reconnecting. -/
structure ConversationTurnEvent where
  sequence : ℕ
  turnId : ConversationTurnId
  kind : ConversationTurnEventKind
  deriving DecidableEq

/-- Invalid durable event shape or turn-local event history. -/
inductive ConversationTurnEventError where
  | invalidSequence
  | wrongTurn
  | invalidOrder
  | invalidTransition (source target : ConversationTurnState)
  | invalidText
  | invalidTextOffset
  | textLimitExceeded
  | eventLimitExceeded
  | snapshotMismatch
  deriving DecidableEq

/-- Checks the self-contained bounds of one event. -/
def validateTurnEventKind : ConversationTurnEventKind → Except ConversationTurnEventError Unit
  | .created => .ok ()
  | .stateChanged source target =>
      rejectIf (!source.permits target) (.invalidTransition source target)
  | .textAppended startUtf8Offset text => do
      rejectIf (text.isEmpty ∨ maxConversationTextChunkBytes < text.utf8ByteSize
        ∨ text.toList.any (unsupportedCharacter false)) .invalidText
      rejectIf (maxMessageBytes < startUtf8Offset + text.utf8ByteSize) .textLimitExceeded

/-- Rehydrates one event after validating its self-contained bounds. -/
def ConversationTurnEvent.restore (event : ConversationTurnEvent) :
    Except ConversationTurnEventError ConversationTurnEvent := do
  rejectIf (event.sequence = 0) .invalidSequence
  validateTurnEventKind event.kind
  return event

/-- Projection of one complete, contiguous turn event stream. -/
structure ConversationTurnEventLog where
  turnId : ConversationTurnId
  state : Option ConversationTurnState
  text : String
  textEvents : ℕ
  lastSequence : ℕ
  deriving DecidableEq

namespace ConversationTurnEventLog

/-- Creates an empty projection which accepts only a sequence-one `created` event. -/
def new (turnId : ConversationTurnId) : ConversationTurnEventLog where
  turnId := turnId
  state := none
  text := ""
  textEvents := 0
  lastSequence := 0

variable (log : ConversationTurnEventLog)

/-- The projection after one event kind that continues it. -/
def project (sequence : ℕ) :
    ConversationTurnEventKind → Except ConversationTurnEventError ConversationTurnEventLog
  | .created => do
      rejectIf (log.state.isSome ∨ sequence ≠ 1) .invalidOrder
      return { log with state := some .reserved, lastSequence := sequence }
  | .stateChanged source target => do
      rejectIf (log.state ≠ some source) .invalidOrder
      rejectIf (!source.permits target) (.invalidTransition source target)
      return { log with state := some target, lastSequence := sequence }
  | .textAppended startUtf8Offset text => do
      rejectIf (log.state ≠ some .providerStarted) .invalidOrder
      rejectIf (maxConversationTextEvents ≤ log.textEvents) .eventLimitExceeded
      rejectIf (startUtf8Offset ≠ log.text.utf8ByteSize) .invalidTextOffset
      rejectIf (maxMessageBytes < log.text.utf8ByteSize + text.utf8ByteSize) .textLimitExceeded
      return { log with
        text := log.text ++ text
        textEvents := log.textEvents + 1
        lastSequence := sequence }

/-- Applies one caller- or storage-provided event after full continuity checks. -/
def appendEvent (event : ConversationTurnEvent) :
    Except ConversationTurnEventError ConversationTurnEventLog := do
  let event ← event.restore
  rejectIf (event.turnId ≠ log.turnId) .wrongTurn
  let expectedSequence ← okOr (checkedAdd log.lastSequence 1) .invalidSequence
  rejectIf (event.sequence ≠ expectedSequence) .invalidSequence
  rejectIf (log.state.any ConversationTurnState.isTerminal) .invalidOrder
  log.project event.sequence event.kind

/-- Creates and applies the next canonical event for this projection. -/
def appendKind (kind : ConversationTurnEventKind) :
    Except ConversationTurnEventError (ConversationTurnEvent × ConversationTurnEventLog) := do
  let sequence ← okOr (checkedAdd log.lastSequence 1) .invalidSequence
  let event : ConversationTurnEvent := { sequence := sequence, turnId := log.turnId, kind := kind }
  let log ← log.appendEvent event
  return (event, log)

/-- Rehydrates and validates a complete turn-local event stream. -/
def restore (turnId : ConversationTurnId) (events : List ConversationTurnEvent) :
    Except ConversationTurnEventError ConversationTurnEventLog := do
  let log ← events.foldlM appendEvent (new turnId)
  rejectIf log.state.isNone .invalidOrder
  return log

end ConversationTurnEventLog

/-! ## The turn aggregate -/

/-- Stable class for a provider-confirmed conversation failure. -/
inductive ConversationFailureKind where
  | authentication
  | forbidden
  | invalidRequest
  | rateLimited
  | unavailable
  | protocol
  deriving DecidableEq

/-- Sanitized provider failure retained for deterministic command replay. -/
structure ConversationFailure where
  kind : ConversationFailureKind
  message : String
  retryable : Bool
  deriving DecidableEq

/-- One bounded source attached to a completed response. -/
structure ConversationCitation where
  title : Option String
  url : String
  deriving DecidableEq

/-- Provider-reported usage retained with the assistant outcome. -/
structure ConversationUsage where
  inputTokens : ℕ
  outputTokens : ℕ
  costInUsdTicks : ℕ
  deriving DecidableEq

/-- No usage reported. -/
def ConversationUsage.default : ConversationUsage := ⟨0, 0, 0⟩

/-- Durable aggregate coordinating local state around one billable provider request. -/
structure ConversationTurn where
  id : ConversationTurnId
  idempotencyKey : String
  requestFingerprint : Digest
  providerRequestFingerprint : Option Digest
  projectId : ProjectId
  threadId : ThreadId
  userMessageId : MessageId
  runId : RunId
  modelId : String
  searchEnabled : Bool
  state : ConversationTurnState
  effectId : Option EffectId
  assistantMessageId : Option MessageId
  failure : Option ConversationFailure
  providerResponseId : Option String
  citations : List ConversationCitation
  usage : ConversationUsage
  zeroDataRetention : Option Bool
  revision : ℕ
  createdAt : UnixMillis
  updatedAt : UnixMillis
  deriving DecidableEq

/-- Ensures the event projection represents the linked canonical turn exactly. -/
def ConversationTurnEventLog.validateSnapshot (log : ConversationTurnEventLog)
    (turn : ConversationTurn) (assistantText : Option String) :
    Except ConversationTurnEventError Unit := do
  rejectIf (log.turnId ≠ turn.id ∨ log.state ≠ some turn.state) .snapshotMismatch
  match turn.state with
  | .completed => rejectIf (log.text.isEmpty ∨ assistantText ≠ some log.text) .snapshotMismatch
  | _ => rejectIf assistantText.isSome .snapshotMismatch

section Validation

variable [UrlLibrary]

/-- Whether a citation URL is a bounded HTTPS URL with a host and no credentials. -/
def isCredentialFreeHttpsUrl (value : String) : Bool :=
  if maxCitationUrlBytes < value.utf8ByteSize || !("https://".toList.isPrefixOf value.toList) ||
      value.toList.contains '@' || value.toList.any (fun c => isControl c || isWhitespace c) then
    false
  else
    match UrlLibrary.parse value with
    | none => false
    | some url =>
        url.scheme = "https" && url.host.any (fun host => host ≠ "") && url.username = "" &&
          url.password.isNone

/-- Checks citations one after the other, with the bytes of the earlier ones. -/
def validateCitationsFrom : ℕ → List ConversationCitation → Except ConversationTurnError Unit
  | _, [] => .ok ()
  | totalBytes, citation :: rest => do
      rejectIf (!isCredentialFreeHttpsUrl citation.url) (.invalidField "citation.url")
      rejectIf (citation.title.any fun title =>
        title.isEmpty || maxCitationTitleBytes < title.utf8ByteSize || title.toList.any isControl)
        (.invalidField "citation.title")
      let totalBytes := totalBytes + citation.url.utf8ByteSize +
        (citation.title.map String.utf8ByteSize).getD 0
      rejectIf (maxConversationCitationTotalBytes < totalBytes) (.invalidField "citations")
      validateCitationsFrom totalBytes rest

/-- Checks the number, shape and total size of citations. -/
def validateCitations (values : List ConversationCitation) : Except ConversationTurnError Unit := do
  rejectIf (maxCitations < values.length) (.invalidField "citations")
  validateCitationsFrom 0 values

end Validation

/-- Checks an optional provider response identifier. -/
def validateResponseId : Option String → Except ConversationTurnError Unit
  | none => .ok ()
  | some value => validateTurnText value maxProviderResponseIdBytes "provider_response_id"

/-- Checks that usage counters stay exact in every consumer. -/
def validateUsage (usage : ConversationUsage) : Except ConversationTurnError Unit :=
  rejectIf (maxConversationUsageValue < usage.inputTokens
    ∨ maxConversationUsageValue < usage.outputTokens
    ∨ maxConversationUsageValue < usage.costInUsdTicks) (.invalidField "usage")

/-- Checks a sanitized failure. -/
def validateFailure (failure : ConversationFailure) : Except ConversationTurnError Unit :=
  validateTurnText failure.message maxFailureMessageBytes "failure.message"

namespace ConversationTurn

/-- Creates a reserved turn linked to already-validated local entity identifiers. -/
def reserve (id : ConversationTurnId) (idempotencyKey : String) (requestFingerprint : Digest)
    (projectId : ProjectId) (threadId : ThreadId) (userMessageId : MessageId) (runId : RunId)
    (modelId : String) (searchEnabled : Bool) (now : UnixMillis) :
    Except ConversationTurnError ConversationTurn := do
  validateTurnText idempotencyKey maxIdempotencyKeyBytes "idempotency_key"
  validateTurnText modelId maxModelIdBytes "model_id"
  return {
    id := id
    idempotencyKey := idempotencyKey
    requestFingerprint := requestFingerprint
    providerRequestFingerprint := none
    projectId := projectId
    threadId := threadId
    userMessageId := userMessageId
    runId := runId
    modelId := modelId
    searchEnabled := searchEnabled
    state := .reserved
    effectId := none
    assistantMessageId := none
    failure := none
    providerResponseId := none
    citations := []
    usage := .default
    zeroDataRetention := none
    revision := 0
    createdAt := now
    updatedAt := now }

variable (turn : ConversationTurn)

/-- No provider dispatch is recorded. -/
def dispatchAbsent : Bool :=
  turn.providerRequestFingerprint.isNone && turn.effectId.isNone

/-- A provider dispatch is recorded. -/
def dispatchPresent : Bool :=
  turn.providerRequestFingerprint.isSome && turn.effectId.isSome

/-- No metadata of a completed response is recorded. -/
def responseAbsent : Bool :=
  turn.providerResponseId.isNone && turn.citations.isEmpty &&
    turn.usage = .default && turn.zeroDataRetention.isNone

/-- No outcome is recorded. -/
def outcomeAbsent : Bool :=
  turn.assistantMessageId.isNone && turn.failure.isNone && turn.responseAbsent

/-- Whether the lifecycle, dispatch evidence, outcome, revision and timestamps belong together. -/
def isReachable : Bool :=
  turn.createdAt ≤ turn.updatedAt &&
  match turn.state with
  | .reserved =>
      turn.revision = 0 && turn.updatedAt = turn.createdAt && turn.dispatchAbsent &&
        turn.outcomeAbsent
  | .providerStarted => turn.revision = 1 && turn.dispatchPresent && turn.outcomeAbsent
  | .completed =>
      turn.revision = 2 && turn.dispatchPresent && turn.assistantMessageId.isSome &&
        turn.failure.isNone
  | .failed =>
      turn.revision = 2 && turn.dispatchPresent && turn.assistantMessageId.isNone &&
        turn.failure.isSome && turn.responseAbsent
  | .cancelled => turn.revision = 1 && turn.dispatchAbsent && turn.outcomeAbsent
  | .interruptedNeedsReview => turn.revision = 2 && turn.dispatchPresent && turn.outcomeAbsent

/-- Rehydrates a durable snapshot after checking every aggregate invariant. -/
def restore [UrlLibrary] (snapshot : ConversationTurn) :
    Except ConversationTurnError ConversationTurn := do
  validateTurnText snapshot.idempotencyKey maxIdempotencyKeyBytes "idempotency_key"
  validateTurnText snapshot.modelId maxModelIdBytes "model_id"
  validateResponseId snapshot.providerResponseId
  validateCitations snapshot.citations
  validateUsage snapshot.usage
  if let some failure := snapshot.failure then
    validateFailure failure
  rejectIf (!snapshot.isReachable) (.invalidField "persisted_state")
  return snapshot

variable {turn turn' : ConversationTurn} {now : UnixMillis}

/-- The checks of a persisted turn. -/
theorem restore_isOk [UrlLibrary] :
    turn.restore.isOk = true ↔
      validateTurnText turn.idempotencyKey maxIdempotencyKeyBytes "idempotency_key" = .ok () ∧
      validateTurnText turn.modelId maxModelIdBytes "model_id" = .ok () ∧
      validateResponseId turn.providerResponseId = .ok () ∧
      validateCitations turn.citations = .ok () ∧ validateUsage turn.usage = .ok () ∧
      (∀ failure, turn.failure = some failure → validateFailure failure = .ok ()) ∧
      turn.isReachable = true := by
  rw [isOk_iff]
  unfold restore
  cases hfailure : turn.failure <;>
    simp [bind_eq_ok]

/-- What the check of a persisted turn says about its lifecycle. -/
theorem isReachable_of_restore [UrlLibrary] (h : turn.restore.isOk = true) :
    turn.isReachable = true :=
  (restore_isOk.1 h).2.2.2.2.2.2

/-- Moves the turn along one legal edge. -/
def moveTo (turn : ConversationTurn) (next : ConversationTurnState) (now : UnixMillis) :
    Except ConversationTurnError ConversationTurn := do
  rejectIf (!turn.state.permits next) (.invalidTransition turn.state next)
  rejectIf (now < turn.updatedAt) .clockRegression
  let revision ← okOr (checkedAdd turn.revision 1) .revisionExhausted
  return { turn with revision := revision, state := next, updatedAt := now }

/-- What a successful move does. -/
theorem moveTo_eq_ok {next : ConversationTurnState} :
    turn.moveTo next now = .ok turn' ↔
      turn.state.permits next = true ∧ turn.updatedAt ≤ now ∧ turn.revision + 1 ≤ u64Max ∧
        turn' = { turn with revision := turn.revision + 1, state := next, updatedAt := now } := by
  simp [moveTo, bind_eq_ok, checkedAdd, eq_comm (b := turn')]

/-- Records the persisted non-idempotent provider boundary. -/
def startProvider (turn : ConversationTurn) (effectId : EffectId)
    (providerRequestFingerprint : Digest) (now : UnixMillis) :
    Except ConversationTurnError ConversationTurn := do
  let turn ← turn.moveTo .providerStarted now
  return { turn with
    effectId := some effectId
    providerRequestFingerprint := some providerRequestFingerprint }

/-- Commits canonical assistant metadata after a provider completion event. -/
def complete [UrlLibrary] (turn : ConversationTurn) (assistantMessageId : MessageId)
    (providerResponseId : Option String) (citations : List ConversationCitation)
    (usage : ConversationUsage) (zeroDataRetention : Option Bool) (now : UnixMillis) :
    Except ConversationTurnError ConversationTurn := do
  validateResponseId providerResponseId
  validateCitations citations
  validateUsage usage
  let turn ← turn.moveTo .completed now
  return { turn with
    assistantMessageId := some assistantMessageId
    providerResponseId := providerResponseId
    citations := citations
    usage := usage
    zeroDataRetention := zeroDataRetention }

/-- Records a provider-confirmed failure. -/
def fail (turn : ConversationTurn) (failure : ConversationFailure) (now : UnixMillis) :
    Except ConversationTurnError ConversationTurn := do
  validateFailure failure
  let turn ← turn.moveTo .failed now
  return { turn with failure := some failure }

/-- Cancels a reservation that provably did not reach the provider. -/
def cancel (turn : ConversationTurn) (now : UnixMillis) :
    Except ConversationTurnError ConversationTurn :=
  turn.moveTo .cancelled now

/-- Marks an in-flight provider request uncertain and non-replayable. -/
def interrupt (turn : ConversationTurn) (now : UnixMillis) :
    Except ConversationTurnError ConversationTurn :=
  turn.moveTo .interruptedNeedsReview now

/-- What a successful provider start does. -/
theorem startProvider_eq_ok {effectId : EffectId} {fingerprint : Digest} :
    turn.startProvider effectId fingerprint now = .ok turn' ↔
      ∃ moved, turn.moveTo .providerStarted now = .ok moved ∧
        turn' = { moved with
          effectId := some effectId
          providerRequestFingerprint := some fingerprint } := by
  simp [startProvider, bind_eq_ok, eq_comm (b := turn')]

/-- What a successful completion does. -/
theorem complete_eq_ok [UrlLibrary] {assistantMessageId : MessageId}
    {providerResponseId : Option String} {citations : List ConversationCitation}
    {usage : ConversationUsage} {zeroDataRetention : Option Bool} :
    turn.complete assistantMessageId providerResponseId citations usage zeroDataRetention now
        = .ok turn' ↔
      validateResponseId providerResponseId = .ok () ∧ validateCitations citations = .ok () ∧
        validateUsage usage = .ok () ∧ ∃ moved, turn.moveTo .completed now = .ok moved ∧
          turn' = { moved with
            assistantMessageId := some assistantMessageId
            providerResponseId := providerResponseId
            citations := citations
            usage := usage
            zeroDataRetention := zeroDataRetention } := by
  simp [complete, bind_eq_ok, eq_comm (b := turn')]

/-- What recording a failure does. -/
theorem fail_eq_ok {failure : ConversationFailure} :
    turn.fail failure now = .ok turn' ↔
      validateFailure failure = .ok () ∧ ∃ moved, turn.moveTo .failed now = .ok moved ∧
        turn' = { moved with failure := some failure } := by
  simp [fail, bind_eq_ok, eq_comm (b := turn')]

end ConversationTurn

end GrokDesktop
