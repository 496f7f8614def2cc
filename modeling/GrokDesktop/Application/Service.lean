import GrokDesktop.Lib.Pool
import GrokDesktop.Application.Requests
import GrokDesktop.Memory.Forks
import GrokDesktop.Memory.Workspace

/-!
# The calls of the conversation service

`ConversationService` is a set of asynchronous functions over a store, a clock, an identifier
source, the credential services and the provider. Each function is modelled as a `Program` over the
calls below; `conversationSystem` says how the calls are answered: a store call by the store
operation of that name, every other call by any reply.

A provider stream is the list of the items that the provider will send. `awaitItem` waits for the
next one, and `cancellationRaised` polls the cancellation signal; the replies decide how far the
stream is read.
-/

namespace GrokDesktop

open Resumption

/-- One item of a provider stream. -/
abbrev StreamItem : Type := Except ModelError ConversationEvent

/-- The calls of the conversation service. -/
inductive ConversationCall where
  -- reads of the store
  | getThread (id : ThreadId)
  | getProject (id : ProjectId)
  | threadCredentialBinding (id : ThreadId)
  | threadModelBinding (id : ThreadId)
  | loadTurn (id : ConversationTurnId)
  | loadTurnByCommand (command : MutationCommand)
  | loadTurnContext (id : ConversationTurnId)
  | retrySourceIsLatest (id : ConversationTurnId)
  | listIncompleteTurnsForRecovery (limit : ℕ)
  -- writes of the store
  | reserveTurn (input : TurnReservationInput)
  | resolveConversationForkCommand (command : MutationCommand)
  | reserveConversationFork (plan : ConversationForkPlan)
  | commitProviderStart (commit : ProviderStartCommit)
  | appendTurnText (append : TurnTextAppend)
  | commitTerminal (commit : TerminalTurnCommit)
  | commitCancellation (commit : CancelConversationTurnCommit)
  | commitDispatchExitReconciliation (commit : CancelConversationTurnCommit)
  -- the surroundings
  | now
  | generateId (entity : String)
  | currentRail
  | chatModelPreference
  | loadCredential (rail : ChatRail)
  | acquireCredentialUse (rail : ChatRail) (binding : String)
  | discoverModel (rail : ChatRail) (selected : String)
  | cancellationRaised
  -- the billable provider request of a turn
  | stream (turnId : ConversationTurnId) (request : ConversationRequest)
  | awaitItem

namespace ConversationCall

/-- The reply to each call. A reply `none` of `stream` means that cancellation was raised while the
call was pending, and a reply `true` of `awaitItem` that it was raised before the next item. -/
@[reducible] def Reply : ConversationCall → Type
  | getThread _ => Except StoreError Thread
  | getProject _ => Except StoreError Project
  | threadCredentialBinding _ => Except StoreError ConversationThreadCredentialBinding
  | threadModelBinding _ => Except StoreError ConversationThreadModelBinding
  | loadTurn _ | loadTurnByCommand _ => Except StoreError (Option ConversationTurnSnapshot)
  | loadTurnContext _ => Except StoreError (List Message)
  | retrySourceIsLatest _ => Except StoreError Bool
  | listIncompleteTurnsForRecovery _ => Except StoreError (List ConversationTurnSnapshot)
  | reserveTurn _ => Except StoreError ConversationTurnReservation
  | resolveConversationForkCommand _ =>
      Except StoreError (Option ConversationForkCommandResolution)
  | reserveConversationFork _ => Except StoreError ConversationForkReservation
  | commitProviderStart _ | commitTerminal _ | commitCancellation _
  | commitDispatchExitReconciliation _ => Except StoreError ConversationTurnSnapshot
  | appendTurnText _ => Except StoreError (List ConversationTurnEvent)
  | now => UnixMillis
  | generateId _ => String
  | currentRail => ChatRail
  | chatModelPreference => Except ApplicationError (String × ℕ)
  | loadCredential _ => Except ApplicationError String
  | acquireCredentialUse _ _ => Except ApplicationError Unit
  | discoverModel _ _ => Except ApplicationError String
  | cancellationRaised => Bool
  | stream _ _ => Option (Except ModelError (List StreamItem))
  | awaitItem => Bool

end ConversationCall

/-- The interface of the conversation service. -/
abbrev conversationInterface : Interface := ⟨ConversationCall, ConversationCall.Reply⟩

/-- A function of the conversation service. -/
abbrev Service (α : Type) : Type := Program conversationInterface ApplicationError α

namespace Service

def request (c : ConversationCall) : Service c.Reply := Program.call c Program.done

/-- Continues with the result of a store call, or fails with its error. -/
def fromStore {α : Type} (result : Except StoreError α) : Service α :=
  Program.liftExcept (result.mapError .ofStore)

/-- Continues with the result of a pure check, or fails with its error. -/
def check {α ε : Type} (convert : ε → ApplicationError) (result : Except ε α) : Service α :=
  Program.liftExcept (result.mapError convert)

/-- Fails with the error when the condition holds. -/
def reject (c : Prop) [Decidable c] (error : ApplicationError) : Service Unit :=
  Program.liftExcept (Except.rejectIf c error)

/-- Continues with the value of an option, or fails with the error. -/
def require {α : Type} (o : Option α) (error : ApplicationError) : Service α :=
  Program.liftExcept (Except.okOr o error)

/-- A fresh identifier from the identifier source. -/
def freshId (kind : IdKind) (entity : String) : Service (EntityId kind) := do
  let value ← request (.generateId entity)
  check .ofId (EntityId.new value)

/-- Asks after every call of a program whether cancellation was raised, and gives the program up if
it was. -/
def untilCancelled {α : Type} : Service α → Service (Option (Except ApplicationError α))
  | .done a => .done (some (.ok a))
  | .fail e => .done (some (.error e))
  | .call c k => .call c fun r => .call .cancellationRaised fun (raised : Bool) =>
      if raised then .done none else untilCancelled (k r)

/-- `race_cancellation_first`: cancellation is polled before the program and whenever the program
waits, so it may be noticed with a call of the program made or not. -/
def raceCancellationFirst {α : Type} (p : Service α) :
    Service (Option (Except ApplicationError α)) := do
  let raised : Bool ← request .cancellationRaised
  if raised then return none else untilCancelled p

end Service

/-! ## Answers -/

section System

variable [UrlLibrary]

/-- The result and new state of a store call; `none` for the other calls. -/
def storeAnswer (s : State) : (c : ConversationCall) → Option (c.Reply × State)
  | .getThread id => some (getThread s id, s)
  | .getProject id => some (getProject s id, s)
  | .threadCredentialBinding id => some (threadCredentialBinding s id, s)
  | .threadModelBinding id => some (threadModelBinding s id, s)
  | .loadTurn id => some (loadTurn s id, s)
  | .loadTurnByCommand command => some (loadTurnByCommand s command, s)
  | .loadTurnContext id => some (loadTurnContext s id, s)
  | .retrySourceIsLatest id => some (retrySourceIsLatest s id, s)
  | .listIncompleteTurnsForRecovery limit => some (listIncompleteTurnsForRecovery s limit, s)
  | .reserveTurn input => some (reserveTurn s input)
  | .resolveConversationForkCommand command => some (resolveConversationForkCommand s command)
  | .reserveConversationFork plan => some (reserveConversationFork s plan)
  | .commitProviderStart commit => some (commitProviderStart s commit)
  | .appendTurnText append => some (appendTurnText s append)
  | .commitTerminal commit => some (commitTerminal s commit)
  | .commitCancellation commit => some (commitCancellation s commit)
  | .commitDispatchExitReconciliation commit => some (commitDispatchExitReconciliation s commit)
  | .now | .generateId _ | .currentRail | .chatModelPreference | .loadCredential _
  | .acquireCredentialUse _ _ | .discoverModel _ _ | .cancellationRaised | .stream _ _
  | .awaitItem => none

/-- The store answers its calls; the surroundings answer the others in any way. -/
def conversationSystem : System conversationInterface State where
  answers s c r s' :=
    match storeAnswer s c with
    | some answer => answer = (r, s')
    | none => s' = s

end System

end GrokDesktop
