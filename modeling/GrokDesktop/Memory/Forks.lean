import GrokDesktop.Memory.Turns

/-!
# Fork operations of the in-memory store

A fork copies the frozen context of a finished turn into a child thread and may start a new turn
there. `reserveConversationFork` recomputes every record of the caller's plan from the stored source
and accepts the plan only if it is exactly that; it then journals the command and a pending
delivery, so that the same request under another key finds the child instead of making a second one.
-/

namespace GrokDesktop

open Except

/-- Whether a scope belongs to a fork command. -/
def conversationForkScopeIsSupported (scope : String) : Bool :=
  scope = conversationBranchCommandScope || scope = conversationEditBranchCommandScope ||
    scope = conversationRegenerateCommandScope

/-- The command scope of a fork kind. -/
def conversationForkScope : ConversationForkKind → String
  | .branch => conversationBranchCommandScope
  | .editAndBranch => conversationEditBranchCommandScope
  | .regenerate => conversationRegenerateCommandScope

/-- The fork kind of a child thread. -/
def conversationForkKind (thread : Thread) : Except StoreError ConversationForkKind :=
  match thread.lineage.origin with
  | .fork _ _ _ kind => .ok kind
  | .original => .error .conflict

/-- The thread is a direct child of the parent. -/
def Thread.isChildOf (thread : Thread) (parentId : ThreadId) : Bool :=
  match thread.lineage.origin with
  | .fork parentThreadId _ _ _ => parentThreadId = parentId
  | .original => false

variable (s : State)

/-- The threads with the given root. -/
def State.familyThreads (rootThreadId : ThreadId) : List Thread :=
  s.threads.values.filter fun thread => thread.lineage.rootThreadId = rootThreadId

/-! ## Delivery -/

/-- The canonical commands, or the aliases, that lead to a child thread, with their scopes. -/
def State.forkCommandsOf (childThreadId : ThreadId) (canonical : Bool) :
    List (String × ConversationForkCommandRecord) :=
  (s.conversationForkCommands.entries.filter fun entry =>
    entry.2.canonical = canonical && entry.2.childThreadId = childThreadId).map
      fun entry => (entry.1.1, entry.2)

/-- The delivery of a child thread, checked against its commands. -/
def conversationForkDelivery (childThreadId : ThreadId) :
    Except StoreError ConversationForkDelivery := do
  let record ← okOr (s.conversationForkDeliveries.lookup childThreadId)
    (.internal "conversation fork lost its delivery journal")
  match s.forkCommandsOf childThreadId true with
  | [(scope, command)] =>
      let aliases := s.forkCommandsOf childThreadId false
      rejectIf (maxConversationForkDeliveryAliases < aliases.length
        ∨ aliases.any (fun entry =>
            entry.1 ≠ scope || entry.2.fingerprint ≠ record.requestFingerprint)
        ∨ scope ≠ record.scope ∨ command.fingerprint ≠ record.requestFingerprint
        ∨ ¬ ((record.state = .pending ∧ record.revision = 0)
          ∨ (record.state = .acknowledged ∧ record.revision = 1)))
        (.internal "conversation fork delivery correlation is invalid")
      let thread ← okOr (s.threads.lookup childThreadId)
        (.internal "conversation fork delivery lost its child thread")
      rejectIf (!(conversationForkKind thread).isOk)
        (.internal "conversation fork delivery points to a non-fork thread")
      return { childThreadId := childThreadId, state := record.state, revision := record.revision }
  | _ => .error (.internal "conversation fork delivery has an invalid canonical command")

/-- The frozen context of the turn a fork command started. -/
def forkCommandContext (record : ConversationForkCommandRecord) :
    Except StoreError (Option (List Message)) :=
  linkedRecord s.conversationContexts record.startedTurnId
    "conversation fork turn lost its immutable context"

/-- The copied messages of a child thread are numbered from one without gaps. -/
def copiesAreNumbered : ℕ → List Message → Bool
  | _, [] => true
  | index, message :: rest =>
      message.restore.isOk && message.sequence = index && copiesAreNumbered (index + 1) rest

section Operations

variable [UrlLibrary] (s : State)

def startedTurnSnapshot :
    Option ConversationTurnId → Except StoreError (Option ConversationTurnSnapshot)
  | none => .ok none
  | some turnId => do
      let turn ← okOr (s.conversationTurns.lookup turnId)
        (.internal "conversation fork lost its started turn")
      return some (← conversationSnapshot s turn)

/-- Reads the child of a fork command with its messages, started turn and delivery. -/
def conversationForkSnapshot (record : ConversationForkCommandRecord) :
    Except StoreError ConversationForkSnapshot := do
  let childThread ← okOr (s.threads.lookup record.childThreadId)
    (.internal "conversation fork lost its child thread")
  rejectIf (!childThread.restore.isOk) (.internal "conversation fork child is invalid")
  validatePersistedThreadLineage s childThread
  let kind ← (conversationForkKind childThread).mapError fun _ =>
    .internal "conversation fork child has no lineage"
  let deliveryRecord ← okOr (s.conversationForkDeliveries.lookup childThread.id)
    (.internal "conversation fork lost its delivery journal")
  rejectIf (deliveryRecord.scope ≠ conversationForkScope kind)
    (.internal "conversation fork delivery scope is inconsistent")
  let messages := sortBySequence
    ((s.threadMessages childThread.id).filter fun message => !message.derivation.isOriginal)
  rejectIf (messages.isEmpty ∨ !copiesAreNumbered 1 messages)
    (.internal "conversation fork copied messages are invalid")
  let startedTurn ← startedTurnSnapshot s record.startedTurnId
  rejectIf (decide (kind = .branch) ≠ startedTurn.isNone
    ∨ startedTurn.any fun turn =>
        turn.turn.threadId ≠ childThread.id || turn.turn.requestFingerprint ≠ record.fingerprint)
    (.internal "conversation fork command outcome is inconsistent")
  rejectIf (record.fingerprint ≠ deliveryRecord.requestFingerprint)
    (.internal "conversation fork command and delivery fingerprints differ")
  let delivery ← conversationForkDelivery s childThread.id
  return {
    childThread := childThread
    messages := messages
    startedTurn := startedTurn
    delivery := delivery }

/-! ## Checking a plan -/

/-- The frozen context of a fork source is an ordered list of active messages of its thread. -/
def contextIsOrdered (threadId : ThreadId) : ℕ → List MessageId → List Message → Bool
  | _, _, [] => true
  | previous, ids, message :: rest =>
      message.restore.isOk && message.threadId = threadId && message.state = .active &&
        previous < message.sequence && !ids.contains message.id &&
        contextIsOrdered threadId message.sequence (message.id :: ids) rest

/-- Checks the frozen context of a fork source. -/
def validateForkSourceContext (source : ConversationTurnSnapshot) (context : List Message) :
    Except StoreError Unit := do
  (validateContext context).mapError fun _ =>
    .internal "conversation fork source context is invalid"
  rejectIf (!contextIsOrdered source.turn.threadId 0 [] context)
    (.internal "conversation fork source context is invalid")
  rejectIf (context.getLast? ≠ some source.userMessage)
    (.internal "conversation fork source context has an invalid final user message")

/-- The message equals the expected one and its identifier is new to the store and the plan. -/
def validateNewForkMessage (ids : List MessageId) (actual expected : Message) :
    Except StoreError (List MessageId) := do
  rejectIf (actual ≠ expected ∨ s.messages.contains actual.id ∨ ids.contains actual.id) .conflict
  return actual.id :: ids

/-- Follows the copies of an assistant message back to the source message. -/
def provenanceReaches (s : State) (sourceAssistant : Message) (sourceTurnId : ConversationTurnId) :
    ℕ → List MessageId → Message → Bool
  | 0, _, _ => false
  | fuel + 1, visited, current =>
      current.role = .assistant && current.state = .active &&
        current.content = sourceAssistant.content && !visited.contains current.id &&
        (current.id = sourceAssistant.id ||
          (s.conversationInheritedOutcomes.lookup current.id = some sourceTurnId &&
            match current.derivation with
            | .original => false
            | .fork kind sourceMessageId derivationSourceTurnId _ =>
                !(kind = .editedUser || (kind = .sourceAssistantCopy &&
                  derivationSourceTurnId ≠ sourceTurnId)) &&
                match s.messages.lookup sourceMessageId with
                | none => false
                | some next =>
                    provenanceReaches s sourceAssistant sourceTurnId fuel (current.id :: visited)
                      next))

/-- The turn whose outcome a copied assistant message shows. -/
def inheritedSourceTurn (sourceMessage : Message) : Except StoreError ConversationTurnId := do
  let direct := (s.conversationTurns.values.filter fun turn =>
    turn.assistantMessageId = some sourceMessage.id).map ConversationTurn.id
  let sourceTurnId ← match direct, s.conversationInheritedOutcomes.lookup sourceMessage.id with
    | [turnId], none => Except.ok turnId
    | [], some turnId => .ok turnId
    | _, _ => .error (.internal "copied assistant has ambiguous or missing outcome lineage")
  let sourceTurn ← okOr (s.conversationTurns.lookup sourceTurnId)
    (.internal "inherited outcome lost its source turn")
  let snapshot ← conversationSnapshot s sourceTurn
  let sourceAssistant ← okOr snapshot.assistantMessage
    (.internal "inherited assistant outcome is inconsistent")
  rejectIf (snapshot.turn.state ≠ .completed ∨ sourceAssistant.content ≠ sourceMessage.content
    ∨ !provenanceReaches s sourceAssistant sourceTurnId (maxConversationForkFamilyThreads + 1) []
        sourceMessage) (.internal "inherited assistant outcome is inconsistent")
  return sourceTurnId

/-- The outcome that a copied message shows, if it is an assistant message. -/
def inheritedOutcome (message sourceMessage : Message) :
    Except StoreError (List (MessageId × ConversationTurnId)) :=
  if sourceMessage.role = .assistant then
    (fun turnId => [(message.id, turnId)]) <$> inheritedSourceTurn s sourceMessage
  else .ok []

/-- Checks the copies of the source context, from the given position on. -/
def validateContextCopies (s : State) (plan : ConversationForkPlan)
    (source : ConversationTurnSnapshot) : ℕ → List MessageId → List (Message × Message) →
      Except StoreError (List MessageId × List (MessageId × ConversationTurnId))
  | _, ids, [] => .ok (ids, [])
  | position, ids, (message, sourceMessage) :: rest => do
      let expected ← (Message.newDerived message.id plan.childThread.id position
        sourceMessage.role sourceMessage.content sourceMessage.id source.turn.id (some position)
        .contextCopy plan.childThread.createdAt).mapError fun _ => .conflict
      let ids ← validateNewForkMessage s ids message expected
      let inherited ← inheritedOutcome s message sourceMessage
      let (ids, restInherited) ← validateContextCopies s plan source (position + 1) ids rest
      return (ids, inherited ++ restInherited)

variable (plan : ConversationForkPlan)

/-- Checks the last message of a plan: the copied assistant of a branch, or the edited prompt. -/
def validateLastMessage (ids : List MessageId) (role : MessageRole) (content : String)
    (sourceMessageId : MessageId) (sourceTurnId : ConversationTurnId)
    (sourceContextSequence : Option ℕ) (kind : ConversationMessageDerivationKind) :
    Except StoreError Message := do
  let message ← okOr plan.messages.getLast? .conflict
  let expected ← (Message.newDerived message.id plan.childThread.id plan.messages.length role
    content sourceMessageId sourceTurnId sourceContextSequence kind
    plan.childThread.createdAt).mapError fun _ => .conflict
  let _ ← validateNewForkMessage s ids message expected
  return message

/-- Checks the messages of a plan against the source turn. Returns the outcomes that copied
assistant messages inherit and the provider context of the turn the fork starts. -/
def validateForkMessages (source : ConversationTurnSnapshot) (sourceContext : List Message)
    (kind : ConversationForkKind) :
    Except StoreError (List (MessageId × ConversationTurnId) × Option (List Message)) := do
  let contextCopyCount :=
    if kind = .editAndBranch then sourceContext.length - 1 else sourceContext.length
  rejectIf (kind = .editAndBranch ∧ sourceContext.isEmpty) .conflict
  let expectedCount := contextCopyCount + if kind = .regenerate then 0 else 1
  rejectIf (plan.messages.length ≠ expectedCount ∨ plan.messages.isEmpty) .conflict
  let (ids, inherited) ← validateContextCopies s plan source 1 []
    ((plan.messages.take contextCopyCount).zip sourceContext)
  match kind with
  | .branch =>
      let sourceAssistant ← okOr source.assistantMessage .conflict
      let message ← validateLastMessage s plan ids .assistant sourceAssistant.content
        sourceAssistant.id source.turn.id none .sourceAssistantCopy
      return (inherited ++ [(message.id, source.turn.id)], none)
  | .editAndBranch =>
      let message ← okOr plan.messages.getLast? .conflict
      rejectIf (message.content = source.userMessage.content) .conflict
      let _ ← validateLastMessage s plan ids .user message.content source.userMessage.id
        source.turn.id (some sourceContext.length) .editedUser
      validateContext plan.messages
      return (inherited, some plan.messages)
  | .regenerate =>
      validateContext plan.messages
      return (inherited, some plan.messages)

/-- The origin of the turn a fork kind starts. -/
def forkTurnOrigin (kind : ConversationForkKind) (sourceTurnId : ConversationTurnId) :
    Option ConversationTurnOrigin :=
  match kind with
  | .branch => none
  | .editAndBranch => some (.editAndBranch sourceTurnId)
  | .regenerate => some (.regenerate sourceTurnId)

/-- Checks the turn a plan starts and makes its first event. -/
def validateForkTurnPlan (source : ConversationTurnSnapshot) (credentialBindingId : String)
    (context : Option (List Message)) (kind : ConversationForkKind) :
    Except StoreError (Option ConversationTurnEvent) :=
  match forkTurnOrigin kind source.turn.id with
  | none => if plan.startedTurn.isNone ∧ context.isNone then .ok none else .error .conflict
  | some expectedOrigin => do
      let turnPlan ← okOr plan.startedTurn .conflict
      let context ← okOr context .conflict
      let userMessage ← okOr context.getLast? .conflict
      let turn := turnPlan.turn
      rejectIf (turnPlan.lineage.origin ≠ expectedOrigin
        ∨ turnPlan.lineage.credentialBindingId ≠ some credentialBindingId
        ∨ turnPlan.lineage.retryDepth ≠ 0 ∨ !(turnPlan.lineage.restore turn.id).isOk
        ∨ turn.idempotencyKey ≠ plan.command.key
        ∨ turn.requestFingerprint ≠ plan.command.fingerprint
        ∨ turn.projectId ≠ plan.childThread.projectId ∨ turn.threadId ≠ plan.childThread.id
        ∨ turn.userMessageId ≠ userMessage.id ∨ turn.modelId ≠ source.turn.modelId
        ∨ turn.createdAt ≠ plan.childThread.createdAt ∨ turn.state ≠ .reserved
        ∨ turn.revision ≠ 0 ∨ userMessage.role ≠ .user ∨ s.conversationTurns.contains turn.id
        ∨ s.runs.contains turnPlan.run.id
        ∨ s.conversationTurnKeys.contains turn.idempotencyKey) .conflict
      rejectIf (turnPlan.run ≠ Run.queued turnPlan.run.id plan.childThread.projectId
          plan.childThread.id plan.childThread.createdAt
        ∨ turnPlan.run.id ≠ turn.runId
        ∨ turnPlan.runEvent ≠ { occurredAt := plan.childThread.createdAt, kind := .created }
        ∨ turnPlan.turnEvent ≠ .created) .conflict
      rejectIf (!isCanonicalConversationSnapshot {
        turn := turn
        userMessage := userMessage
        assistantMessage := none
        run := turnPlan.run
        effect := none
        lineage := turnPlan.lineage }) .conflict
      some <$> createdEventLog turn .created

/-- The outcomes a fork's copied assistant messages would show. -/
def projectedOutcomes (inheritedOutcomes : List (MessageId × ConversationTurnId)) :
    Except StoreError (List ConversationInheritedAssistantOutcome) :=
  inheritedOutcomes.mapM fun (childMessageId, sourceTurnId) => do
    let childMessage ← okOr (plan.messages.find? fun message => message.id = childMessageId)
      .conflict
    let sourceTurn ← okOr (s.conversationTurns.lookup sourceTurnId) .conflict
    let source ← conversationSnapshot s sourceTurn
    rejectIf (source.turn.state ≠ .completed
      ∨ source.assistantMessage.map Message.content ≠ some childMessage.content) .conflict
    return {
      childAssistantMessageId := childMessageId
      sourceTurnId := sourceTurnId
      modelId := source.turn.modelId
      citations := source.turn.citations
      usage := source.turn.usage
      zeroDataRetention := source.turn.zeroDataRetention }

/-- Checks that the ancestry metadata of the child would stay within its bounds. -/
def validateProjectedForkMetadataBudget (inheritedOutcomes : List
    (MessageId × ConversationTurnId)) :
    Except StoreError Unit := do
  rejectIf (maxConversationForkInheritedOutcomes < inheritedOutcomes.length) .conflict
  let outcomes ← projectedOutcomes s plan inheritedOutcomes
  let metadata : ConversationForkMetadata := {
    lineage := plan.childThread.lineage
    inheritedAssistantOutcomes := outcomes
    familyThreads := s.familyThreads plan.childThread.lineage.rootThreadId ++ [plan.childThread] }
  rejectIf (!metadata.isWithinBounds) .conflict

/-- What a checked plan writes besides its own records. -/
structure PreparedConversationFork where
  credentialBindingId : String
  modelId : String
  inheritedOutcomes : List (MessageId × ConversationTurnId)
  context : Option (List Message)
  createdTurnEvent : Option ConversationTurnEvent

/-- Checks the child thread of a plan against the source turn and its thread. -/
def validateForkChild :
    Except StoreError
      (ConversationTurnSnapshot × Thread × List Message × ConversationForkKind) := do
  rejectIf (plan.command.key.isEmpty ∨ 128 < plan.command.key.utf8ByteSize) .conflict
  let child := plan.childThread
  rejectIf (!child.restore.isOk) .conflict
  let kind ← conversationForkKind child
  rejectIf (plan.command.scope ≠ conversationForkScope kind ∨ s.threads.contains child.id
    ∨ s.conversationThreadBindings.contains child.id
    ∨ s.conversationThreadModels.contains child.id) .conflict
  let sourceTurn ← okOr (s.conversationTurns.lookup plan.sourceTurnId) .notFound
  let source ← conversationSnapshot s sourceTurn
  rejectIf (source.turn.revision ≠ plan.expectedSourceRevision) .conflict
  let parent ← okOr (s.threads.lookup source.turn.threadId)
    (.internal "conversation fork source lost its thread")
  rejectIf (!parent.restore.isOk) (.internal "conversation fork parent is invalid")
  validatePersistedThreadLineage s parent
  let project ← okOr (s.projects.lookup source.turn.projectId)
    (.internal "conversation fork source lost its project")
  rejectIf (project.state ≠ .active ∨ parent.projectId ≠ source.turn.projectId
    ∨ child.projectId ≠ source.turn.projectId ∨ child.title ≠ parent.title
    ∨ child.createdAt < source.turn.updatedAt ∨ child.createdAt < parent.updatedAt) .conflict
  let sourceContext ← okOr (s.conversationContexts.lookup source.turn.id)
    (.internal "conversation fork source lost its context")
  validateForkSourceContext source sourceContext
  let sourceMessage ← okOr (forkSourceMessage kind source)
    (.internal "completed fork source lost its assistant")
  let expectedChild ← (Thread.newFork child.id parent.projectId parent.title parent.id
    parent.lineage source.turn.id sourceMessage.id sourceMessage.role kind
    child.createdAt).mapError fun _ => .conflict
  rejectIf (child ≠ expectedChild) .conflict
  return (source, parent, sourceContext, kind)

/-- Checks the family of the parent thread: a root of its own and room for one more child. -/
def validateForkFamily (parent : Thread) : Except StoreError Unit := do
  let root ← okOr (s.threads.lookup parent.lineage.rootThreadId)
    (.internal "conversation fork family lost its root")
  rejectIf (root.projectId ≠ parent.projectId ∨ root.lineage.rootThreadId ≠ root.id
    ∨ root.lineage.origin ≠ .original) (.internal "conversation fork family root is invalid")
  rejectIf (maxConversationForkDirectChildren ≤
      (s.threads.values.filter (·.isChildOf parent.id)).length
    ∨ maxConversationForkFamilyThreads ≤ (s.familyThreads parent.lineage.rootThreadId).length)
    .conflict

/-- Checks a fork plan against the store. -/
def prepareConversationFork : Except StoreError PreparedConversationFork := do
  let (source, parent, sourceContext, kind) ← validateForkChild s plan
  rejectIf (!forkSourceEligible kind source.turn.state) .conflict
  let credentialBindingId ← okOr source.lineage.credentialBindingId .conflict
  rejectIf (s.conversationThreadBindings.lookup parent.id ≠ some credentialBindingId) .conflict
  validateForkFamily s parent
  let (inheritedOutcomes, context) ← validateForkMessages s plan source sourceContext kind
  let createdTurnEvent ← validateForkTurnPlan s plan source credentialBindingId context kind
  validateProjectedForkMetadataBudget s plan inheritedOutcomes
  return {
    credentialBindingId := credentialBindingId
    modelId := source.turn.modelId
    inheritedOutcomes := inheritedOutcomes
    context := context
    createdTurnEvent := createdTurnEvent }

/-! ## Reserving a fork -/

/-- Finds the pending child of an equal request and journals the command as its alias. Both callers
have looked the command itself up before. -/
def reconcilePendingConversationForkCommand (command : MutationCommand) :
    StoreResult (Option (ConversationForkSnapshot × Option (List Message))) :=
  let pendingChildren := (s.conversationForkDeliveries.entries.filter fun entry =>
    entry.2.state = .pending && entry.2.scope = command.scope &&
      entry.2.requestFingerprint = command.fingerprint).map Sigma.fst
  match pendingChildren with
  | [] => (.ok none, s)
  | [childThreadId] =>
      match s.forkCommandsOf childThreadId true with
      | [(_, canonical)] =>
          if maxConversationForkDeliveryAliases ≤ (s.forkCommandsOf childThreadId false).length then
            (.error .conflict, s)
          else if canonical.fingerprint ≠ command.fingerprint then
            (.error (.internal "conversation fork delivery fingerprint is inconsistent"), s)
          else
            let alias_ := { canonical with canonical := false }
            let found : Except StoreError _ := do
              let snapshot ← conversationForkSnapshot s alias_
              let context ← forkCommandContext s alias_
              return (snapshot, context)
            match found with
            | .error e => (.error e, s)
            | .ok found => (.ok (some found), { s with
                conversationForkCommands :=
                  s.conversationForkCommands.insert (command.scope, command.key) alias_ })
      | _ => (.error
          (.internal "conversation fork pending delivery lost its canonical command"), s)
  | _ => (.error (.internal "conversation fork pending delivery is not unique"), s)

def forkCommandRecord : ConversationForkCommandRecord where
  fingerprint := plan.command.fingerprint
  childThreadId := plan.childThread.id
  startedTurnId := plan.startedTurn.map fun turnPlan => turnPlan.turn.id
  canonical := true

/-- Writes the child thread of a checked plan with its messages and inherited outcomes. -/
def State.writeForkThread (prepared : PreparedConversationFork) : State :=
  { s with
    conversationThreadBindings :=
      s.conversationThreadBindings.insert plan.childThread.id prepared.credentialBindingId
    conversationThreadModels :=
      s.conversationThreadModels.insert plan.childThread.id prepared.modelId
    threads := s.threads.insert plan.childThread.id plan.childThread
    messages := s.messages.insertAll Message.id plan.messages
    conversationInheritedOutcomes := prepared.inheritedOutcomes.foldl
      (fun t outcome => t.insert outcome.1 outcome.2) s.conversationInheritedOutcomes }

/-- Writes a checked plan: the child thread, the turn it starts, the pending delivery and the
command. -/
def State.writeFork (prepared : PreparedConversationFork) : State :=
  let s := s.writeForkThread plan prepared
  let s := match plan.startedTurn, prepared.context, prepared.createdTurnEvent with
    | some turnPlan, some context, some event =>
        s.insertTurn turnPlan.turn turnPlan.lineage turnPlan.run turnPlan.runEvent context event
    | _, _, _ => s
  { s with
    conversationForkDeliveries := s.conversationForkDeliveries.insert plan.childThread.id {
      scope := plan.command.scope
      requestFingerprint := plan.command.fingerprint
      state := .pending
      revision := 0 }
    conversationForkCommands := s.conversationForkCommands.insert
      (plan.command.scope, plan.command.key) (forkCommandRecord plan) }

/-- Checks a new fork and makes the state it writes. -/
def checkedFork : Except StoreError (PreparedConversationFork × State) := do
  let prepared ← prepareConversationFork s plan
  rejectIf (plan.startedTurn.isSome ≠ prepared.context.isSome
    ∨ plan.startedTurn.isSome ≠ prepared.createdTurnEvent.isSome) .conflict
  rejectIf (s.conversationForkDeliveries.contains plan.childThread.id) .conflict
  return (prepared, s.writeFork plan prepared)

/-- The result of an exact replay of a fork command. -/
def replayFork (command : MutationCommand) (record : ConversationForkCommandRecord) :
    Except StoreError (ConversationForkSnapshot × Option (List Message)) := do
  rejectIf (record.fingerprint ≠ command.fingerprint) .conflict
  let snapshot ← conversationForkSnapshot s record
  let context ← forkCommandContext s record
  return (snapshot, context)

/-- Makes the fork of a plan, or returns the child that the command or an equal pending request
made before. -/
def reserveConversationFork : StoreResult ConversationForkReservation :=
  match conversationForkKind plan.childThread with
  | .error e => (.error e, s)
  | .ok kind =>
    if plan.command.scope ≠ conversationForkScope kind then (.error .conflict, s)
    else
      match s.conversationForkCommands.lookup (plan.command.scope, plan.command.key) with
      | some record =>
          ((replayFork s plan.command record).map fun (snapshot, context) => {
            snapshot := snapshot
            context := context
            created := false
            reconciledPendingDelivery := false }, s)
      | none =>
        match reconcilePendingConversationForkCommand s plan.command with
        | (.error e, s') => (.error e, s')
        | (.ok (some (snapshot, context)), s') => (.ok {
            snapshot := snapshot
            context := context
            created := false
            reconciledPendingDelivery := true }, s')
        | (.ok none, _) =>
          match checkedFork s plan with
          | .error e => (.error e, s)
          | .ok (prepared, s') =>
              ((conversationForkSnapshot s' (forkCommandRecord plan)).map fun snapshot => {
                snapshot := snapshot
                context := prepared.context
                created := true
                reconciledPendingDelivery := false }, s')

/-- Resolves a fork command to the child it made, or to the pending child of an equal request. -/
def resolveConversationForkCommand (command : MutationCommand) :
    StoreResult (Option ConversationForkCommandResolution) :=
  if !conversationForkScopeIsSupported command.scope then (.ok none, s)
  else
    match s.conversationForkCommands.lookup (command.scope, command.key) with
    | some record =>
        (do
          rejectIf (record.fingerprint ≠ command.fingerprint) .conflict
          let snapshot ← conversationForkSnapshot s record
          return some { snapshot := snapshot, reconciledPendingDelivery := false }, s)
    | none =>
        let (found, s') := reconcilePendingConversationForkCommand s command
        (found.map fun o => o.map fun found => {
          snapshot := found.1
          reconciledPendingDelivery := true }, s')

/-- Acknowledges the delivery of a fork, or replays the acknowledgement. -/
def acknowledgeConversationForkDelivery (command : MutationCommand) (childThreadId : ThreadId)
    (expectedRevision : ℕ) : StoreResult ConversationForkDelivery :=
  if command.scope ≠ conversationForkDeliveryAckCommandScope then (.error .conflict, s)
  else
    match s.conversationForkDeliveryAckCommands.lookup (command.scope, command.key) with
    | some record =>
        (do
          rejectIf (record.fingerprint ≠ command.fingerprint
            ∨ record.childThreadId ≠ childThreadId
            ∨ record.expectedRevision ≠ expectedRevision) .conflict
          rejectIf (record.expectedRevision ≠ 0 ∨ record.outcomeRevision ≠ 1
            ∨ checkedAdd record.expectedRevision 1 ≠ some record.outcomeRevision)
            (.internal "conversation fork acknowledgement command is invalid")
          let delivery ← conversationForkDelivery s childThreadId
          rejectIf (delivery.state ≠ .acknowledged ∨ delivery.revision ≠ record.outcomeRevision)
            (.internal "conversation fork acknowledgement outcome is inconsistent")
          return delivery, s)
    | none =>
        let checked : Except StoreError State := do
          let canonicalCommands := (s.forkCommandsOf childThreadId true).length
          rejectIf (canonicalCommands = 0)
            (if s.threads.contains childThreadId then .conflict else .notFound)
          rejectIf (canonicalCommands ≠ 1)
            (.internal "conversation fork delivery has ambiguous canonical commands")
          let observed ← conversationForkDelivery s childThreadId
          rejectIf (observed.state ≠ .pending ∨ observed.revision ≠ expectedRevision) .conflict
          let delivery ← okOr (s.conversationForkDeliveries.lookup childThreadId)
            (.internal "conversation fork lost its delivery journal")
          let revision ← okOr (checkedAdd delivery.revision 1)
            (.internal "conversation fork delivery revision exhausted")
          return { s with
            conversationForkDeliveries := s.conversationForkDeliveries.insert childThreadId
              { delivery with revision := revision, state := .acknowledged }
            conversationForkDeliveryAckCommands :=
              s.conversationForkDeliveryAckCommands.insert (command.scope, command.key) {
                fingerprint := command.fingerprint
                childThreadId := childThreadId
                expectedRevision := expectedRevision
                outcomeRevision := revision } }
        writeThenRead s checked (conversationForkDelivery · childThreadId)

end Operations

end GrokDesktop
