import GrokDesktop.Domain.Run
import GrokDesktop.Domain.Conversation

/-!
# The conversation store port

The records that cross the boundary between the application service and a store: command keys,
turn snapshots, the commits of one turn, and fork plans.
-/

namespace GrokDesktop

/-- Failure reported by a store. -/
inductive StoreError where
  | notFound
  | conflict
  | unavailable (message : String)
  | internal (message : String)
  deriving DecidableEq

/-- Validated mutation key and canonical request fingerprint. -/
structure MutationCommand where
  scope : String
  key : String
  fingerprint : Digest
  deriving DecidableEq

/-- A run event before the store gives it its sequence. -/
structure NewRunEvent where
  occurredAt : UnixMillis
  kind : RunEventKind
  deriving DecidableEq

/-! ## Bounds -/

def maxConversationContextMessages : ℕ := 1000
def maxConversationContextBytes : ℕ := 2 * 1024 * 1024
def maxConversationRecoveryBatch : ℕ := 100
def maxConversationForkDirectChildren : ℕ := 64
def maxConversationForkFamilyThreads : ℕ := 256
def maxConversationForkDeliveryAliases : ℕ := 64
def maxConversationForkInheritedOutcomes : ℕ := 256
def maxConversationForkMetadataBytes : ℕ := 3 * 1024 * 1024

/-! ## Command scopes -/

def conversationCommandScope : String := "execute_conversation_turn"
def conversationRetryCommandScope : String := "retry_conversation_turn"
def conversationBranchCommandScope : String := "branch_conversation_thread"
def conversationEditBranchCommandScope : String := "edit_and_branch_conversation_turn"
def conversationRegenerateCommandScope : String := "regenerate_conversation_turn"
def conversationForkDeliveryAckCommandScope : String := "acknowledge_conversation_fork_delivery"
def conversationCancelCommandScope : String := "cancel_conversation_turn"
def conversationReconciliationCommandScope : String := "reconcile_conversation_dispatch_exit"

/-! ## Turns -/

/-- Canonical records of one turn. -/
structure ConversationTurnSnapshot where
  turn : ConversationTurn
  userMessage : Message
  assistantMessage : Option Message
  run : Run
  effect : Option SideEffect
  lineage : ConversationTurnLineage
  deriving DecidableEq

/-- A durable reservation and its frozen provider context. -/
structure ConversationTurnReservation where
  snapshot : ConversationTurnSnapshot
  context : List Message
  created : Bool
  deriving DecidableEq

/-- Where the context of a reservation comes from. -/
inductive ConversationTurnReservationSource where
  | currentThread
  | retry (sourceTurnId : ConversationTurnId) (expectedSourceRevision : ℕ)
  deriving DecidableEq

/-- Local credential generation of a thread. -/
inductive ConversationThreadCredentialBinding where
  | unboundEmpty
  | bound (binding : String)
  | legacyUnbound
  deriving DecidableEq

inductive ConversationThreadModelBinding where
  | unboundEmpty
  | bound (modelId : String)
  | legacyUnbound
  deriving DecidableEq

/-- Commit of the provider boundary of one turn. -/
structure ProviderStartCommit where
  turn : ConversationTurn
  expectedTurnRevision : ℕ
  run : Run
  expectedRunRevision : ℕ
  effect : SideEffect
  events : List NewRunEvent
  turnEvent : ConversationTurnEventKind
  deriving DecidableEq

/-- Commit of the terminal state of one turn. -/
structure TerminalTurnCommit where
  turn : ConversationTurn
  expectedTurnRevision : ℕ
  run : Run
  expectedRunRevision : ℕ
  effect : Option SideEffect
  expectedEffectRevision : Option ℕ
  assistantMessage : Option Message
  events : List NewRunEvent
  turnEvent : ConversationTurnEventKind
  deriving DecidableEq

/-- Commit of a cancellation command for one observed revision. -/
structure CancelConversationTurnCommit where
  command : MutationCommand
  turnId : ConversationTurnId
  expectedTurnRevision : ℕ
  terminal : Option TerminalTurnCommit
  deriving DecidableEq

/-! ## Forks -/

/-- Delivery of a fork result to the client. -/
inductive ConversationForkDeliveryState where
  | pending
  | acknowledged
  deriving DecidableEq

/-- Observed delivery of one child thread. -/
structure ConversationForkDelivery where
  childThreadId : ThreadId
  state : ConversationForkDeliveryState
  revision : ℕ
  deriving DecidableEq

/-- Outcome metadata of an assistant message copied into a child thread. -/
structure ConversationInheritedAssistantOutcome where
  childAssistantMessageId : MessageId
  sourceTurnId : ConversationTurnId
  modelId : String
  citations : List ConversationCitation
  usage : ConversationUsage
  zeroDataRetention : Option Bool
  deriving DecidableEq

/-- Ancestry metadata of one thread. -/
structure ConversationForkMetadata where
  lineage : ConversationThreadLineage
  inheritedAssistantOutcomes : List ConversationInheritedAssistantOutcome
  familyThreads : List Thread
  deriving DecidableEq

namespace ConversationForkMetadata

/-- The estimated size of a lineage. -/
def lineageBytes (lineage : ConversationThreadLineage) : ℕ :=
  96 + lineage.rootThreadId.value.utf8ByteSize +
    match lineage.origin with
    | .original => 0
    | .fork parentThreadId sourceTurnId sourceMessageId _ =>
        parentThreadId.value.utf8ByteSize + sourceTurnId.value.utf8ByteSize +
          sourceMessageId.value.utf8ByteSize

/-- The estimated size of a family thread. -/
def threadBytes (thread : Thread) : ℕ :=
  192 + thread.id.value.utf8ByteSize + thread.projectId.value.utf8ByteSize +
    thread.title.utf8ByteSize + lineageBytes thread.lineage

/-- The estimated size of a citation. -/
def citationBytes (citation : ConversationCitation) : ℕ :=
  32 + citation.url.utf8ByteSize + (citation.title.map String.utf8ByteSize).getD 0

/-- The estimated size of an inherited outcome. -/
def outcomeBytes (outcome : ConversationInheritedAssistantOutcome) : ℕ :=
  192 + outcome.childAssistantMessageId.value.utf8ByteSize +
    outcome.sourceTurnId.value.utf8ByteSize + outcome.modelId.utf8ByteSize +
    (outcome.citations.map citationBytes).sum

/-- Conservative encoded size. The additions cannot overflow for records that fit in memory. -/
def estimatedBytes (metadata : ConversationForkMetadata) : ℕ :=
  256 + lineageBytes metadata.lineage + (metadata.familyThreads.map threadBytes).sum +
    (metadata.inheritedAssistantOutcomes.map outcomeBytes).sum

/-- Whether the metadata fits its count and byte bounds. -/
def isWithinBounds (metadata : ConversationForkMetadata) : Bool :=
  !metadata.familyThreads.isEmpty &&
    metadata.familyThreads.length ≤ maxConversationForkFamilyThreads &&
    metadata.inheritedAssistantOutcomes.length ≤ maxConversationForkInheritedOutcomes &&
    metadata.estimatedBytes ≤ maxConversationForkMetadataBytes

end ConversationForkMetadata

/-- Canonical records of one fork. -/
structure ConversationForkSnapshot where
  childThread : Thread
  messages : List Message
  startedTurn : Option ConversationTurnSnapshot
  delivery : ConversationForkDelivery
  deriving DecidableEq

/-- Result of resolving a fork command. -/
structure ConversationForkCommandResolution where
  snapshot : ConversationForkSnapshot
  reconciledPendingDelivery : Bool
  deriving DecidableEq

/-- A durable fork and the frozen provider context of the turn it started. -/
structure ConversationForkReservation where
  snapshot : ConversationForkSnapshot
  context : Option (List Message)
  created : Bool
  reconciledPendingDelivery : Bool
  deriving DecidableEq

/-- The turn a fork starts. -/
structure ConversationForkTurnPlan where
  turn : ConversationTurn
  lineage : ConversationTurnLineage
  run : Run
  runEvent : NewRunEvent
  turnEvent : ConversationTurnEventKind
  deriving DecidableEq

/-- Everything one fork command writes. -/
structure ConversationForkPlan where
  command : MutationCommand
  sourceTurnId : ConversationTurnId
  expectedSourceRevision : ℕ
  childThread : Thread
  messages : List Message
  startedTurn : Option ConversationForkTurnPlan
  deriving DecidableEq

end GrokDesktop
