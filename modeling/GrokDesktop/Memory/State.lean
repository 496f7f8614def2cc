import GrokDesktop.Lib.Table
import GrokDesktop.Application.Ports

/-!
# The in-memory store

The tables of `InMemoryExecutionStore` that the conversation operations read and write. Every
operation holds the store's lock for its whole body, so it is one step from a state to a state.
-/

namespace GrokDesktop

/-- Outcome of an exact cancellation command. -/
structure ConversationCancelCommandRecord where
  fingerprint : Digest
  turnId : ConversationTurnId
  outcomeState : ConversationTurnState
  outcomeRevision : ℕ
  deriving DecidableEq

/-- Outcome of an exact fork command. -/
structure ConversationForkCommandRecord where
  fingerprint : Digest
  childThreadId : ThreadId
  startedTurnId : Option ConversationTurnId
  canonical : Bool
  deriving DecidableEq

/-- Delivery journal of one fork child. -/
structure ConversationForkDeliveryRecord where
  scope : String
  requestFingerprint : Digest
  state : ConversationForkDeliveryState
  revision : ℕ
  deriving DecidableEq

/-- Outcome of an exact delivery acknowledgement command. -/
structure ConversationForkDeliveryAckCommandRecord where
  fingerprint : Digest
  childThreadId : ThreadId
  expectedRevision : ℕ
  outcomeRevision : ℕ
  deriving DecidableEq

/-- Outcome of an exact workspace command. -/
structure CommandRecord where
  fingerprint : Digest
  entityId : String
  deriving DecidableEq

/-- The tables of the store. -/
structure State where
  runs : Table RunId Run := ∅
  effects : Table EffectId SideEffect := ∅
  events : Table RunId (List RunEvent) := ∅
  projects : Table ProjectId Project := ∅
  threads : Table ThreadId Thread := ∅
  messages : Table MessageId Message := ∅
  conversationTurns : Table ConversationTurnId ConversationTurn := ∅
  conversationLineages : Table ConversationTurnId ConversationTurnLineage := ∅
  conversationThreadBindings : Table ThreadId String := ∅
  conversationThreadModels : Table ThreadId String := ∅
  conversationTurnKeys : Table String ConversationTurnId := ∅
  conversationContexts : Table ConversationTurnId (List Message) := ∅
  conversationEvents : Table ConversationTurnId (List ConversationTurnEvent) := ∅
  conversationForkCommands : Table (String × String) ConversationForkCommandRecord := ∅
  conversationForkDeliveries : Table ThreadId ConversationForkDeliveryRecord := ∅
  conversationForkDeliveryAckCommands :
    Table (String × String) ConversationForkDeliveryAckCommandRecord := ∅
  conversationInheritedOutcomes : Table MessageId ConversationTurnId := ∅
  conversationCancelCommands : Table (String × String) ConversationCancelCommandRecord := ∅
  workspaceCommands : Table (String × String) CommandRecord := ∅

namespace State

/-- The store as it is created. -/
def empty : State := {}

/-- Numbers new run events from the length of the stream on. -/
def numberEvents (runId : RunId) : List RunEvent → List NewRunEvent → List RunEvent
  | stream, [] => stream
  | stream, event :: rest =>
      numberEvents runId (stream ++ [{
        sequence := saturatingAdd stream.length 1
        runId := runId
        occurredAt := event.occurredAt
        kind := event.kind }]) rest

variable (s : State)

/-- Appends audit events to the stream of a run. -/
def appendEvents (runId : RunId) (events : List NewRunEvent) : State :=
  { s with
    events := s.events.insert runId
      (numberEvents runId ((s.events.lookup runId).getD []) events) }

def threadMessages (threadId : ThreadId) : List Message :=
  s.messages.values.filter fun message => message.threadId = threadId

def threadTurns (threadId : ThreadId) : List ConversationTurn :=
  s.conversationTurns.values.filter fun turn => turn.threadId = threadId

/-- The highest sequence of the messages of one thread. -/
def newestSequence (threadId : ThreadId) : Option ℕ :=
  ((s.threadMessages threadId).map Message.sequence).max?

/-- The sequence of the next message of one thread. -/
def nextSequence (threadId : ThreadId) : Option ℕ :=
  checkedAdd ((s.newestSequence threadId).getD 0) 1

end State

end GrokDesktop
