import GrokDesktop.Application.Dispatch
import GrokDesktop.Memory.Checks

/-!
# Which calls the service functions make

Only `start_provider` commits a provider boundary, only `dispatch` makes the provider request, and a
turn is completed or failed only by the function that made its provider request. The other functions
make background calls only.
-/

namespace GrokDesktop

open Except
open Resumption Resumption.Program Service

section Rules

variable {α ε : Type} {ok : ConversationCall → Prop} {post : α → Prop}

@[simp] lemma request_eq (c : ConversationCall) : request c = .call c .done := rfl

@[simp] lemma ensures_fromStore (res : Except StoreError α) :
    Ensures ok post (fromStore res) ↔ ∀ a, res = .ok a → post a := by
  simp [fromStore]

@[simp] lemma ensures_check (convert : ε → ApplicationError) (res : Except ε α) :
    Ensures ok post (check convert res) ↔ ∀ a, res = .ok a → post a := by
  simp [check]

@[simp] lemma ensures_reject (c : Prop) [Decidable c] (error : ApplicationError)
    (post : Unit → Prop) : Ensures ok post (reject c error) ↔ (¬ c → post ()) := by
  simp only [reject, ensures_liftExcept, rejectIf_eq_ok]
  exact ⟨fun h => h (), fun h _ => h⟩

@[simp] lemma ensures_require (o : Option α) (error : ApplicationError) :
    Ensures ok post (require o error) ↔ ∀ a, o = some a → post a := by
  simp [require]

@[simp] lemma ensures_freshId (kind : IdKind) (entity : String) (post : EntityId kind → Prop) :
    Ensures ok post (freshId kind entity) ↔
      ok (.generateId entity) ∧ ∀ value id, EntityId.new value = .ok id → post id := by
  simp [freshId]

/-- Racing a program against cancellation adds only polls of the signal. -/
lemma ensures_raceCancellationFirst {p : Service α}
    {post : Option (Except ApplicationError α) → Prop}
    (hp : p.Ensures ok fun a => post (some (.ok a)))
    (herr : ∀ e, post (some (.error e))) (hnone : post none) (hpoll : ok .cancellationRaised) :
    (raceCancellationFirst p).Ensures ok post := by
  have huntil : (untilCancelled p).Ensures ok post := by
    induction p with
    | done a => exact hp
    | fail e => exact herr e
    | call c k ih => exact ⟨hp.1, fun r => ⟨hpoll, fun raised => by
        cases raised
        · exact ih r (hp.2 r)
        · exact hnone⟩⟩
  refine ⟨hpoll, fun raised => ?_⟩
  cases raised
  · exact huntil
  · exact hnone

end Rules

/-- The calls other than the provider boundary and the provider request, when only the turns in
`streamed` may be completed or failed. -/
def Background (streamed : Set ConversationTurnId) : ConversationCall → Prop
  | .commitProviderStart _ | .stream .. => False
  | .commitTerminal commit =>
      commit.turn.state = .completed ∨ commit.turn.state = .failed → commit.turn.id ∈ streamed
  | _ => True

/-- A program that makes only background calls. -/
abbrev InBackground (streamed : Set ConversationTurnId) {α : Type} (p : Service α) : Prop :=
  p.Ensures (Background streamed) fun _ => True

/-- The calls that read the store or ask the surroundings. -/
def IsReading : ConversationCall → Prop
  | .getThread _ | .getProject _ | .threadCredentialBinding _ | .threadModelBinding _
  | .loadTurn _ | .loadTurnByCommand _ | .loadTurnContext _ | .retrySourceIsLatest _
  | .listIncompleteTurnsForRecovery _ | .now | .generateId _ | .currentRail
  | .chatModelPreference | .loadCredential _ | .acquireCredentialUse _ _ | .discoverModel _ _
  | .cancellationRaised => True
  | _ => False

/-- A program that only reads. -/
abbrev Reads {α : Type} (p : Service α) : Prop := p.Ensures IsReading fun _ => True

attribute [local simp] IsReading Background

variable {streamed : Set ConversationTurnId}

/-- Reading is a background call. -/
lemma IsReading.background {c : ConversationCall} (h : IsReading c) : Background streamed c := by
  cases c <;> first | exact h.elim | trivial

/-- A program that reads is in the background. -/
lemma Reads.background {α : Type} {p : Service α} (h : Reads p) : InBackground streamed p :=
  h.imp fun _ => IsReading.background

/-! ## Preparing -/

/-- Finding a writable thread only reads. -/
lemma writableThread_reads (threadId : ThreadId) : Reads (writableThread threadId) := by
  simp [writableThread]

/-- The preflight of a model only reads. -/
lemma preflightModel_reads (rail : ChatRail) (model : String) (canonical : Bool)
    (expected : Option String) : Reads (preflightModel rail model canonical expected) := by
  simp [preflightModel]

/-- Loading a source only reads. -/
lemma loadSource_reads (srcTurnId : ConversationTurnId) : Reads (loadSource srcTurnId) := by
  simp [loadSource]

lemma requireThreadBinding_reads (threadId : ThreadId) (binding : String)
    (error : ApplicationError) : Reads (requireThreadBinding threadId binding error) := by
  simp [requireThreadBinding]

/-- A reservation is a background call. -/
lemma reserveDispatch_background (model : String) (input : TurnReservationInput) :
    InBackground streamed (reserveDispatch model input) := by
  simp [reserveDispatch]

lemma expectedStartCredentialBinding_ensures {ok : ConversationCall → Prop} {threadId : ThreadId}
    (hok : ok (.threadCredentialBinding threadId)) :
    (expectedStartCredentialBinding threadId).Ensures ok fun _ => True := by
  simp only [expectedStartCredentialBinding, bind_eq, ensures_bind, ensures_fromStore]
  refine ⟨hok, fun _ binding _ => ?_⟩
  cases binding <;> simp

/-- The preflight of a start only reads. -/
lemma preflightStartModel_reads (input : StartConversationTurn) (threadId : ThreadId) :
    Reads (preflightStartModel input threadId) := by
  have hreq : ∀ binding, Reads (requestedStartModel input binding) := by
    intro binding
    cases binding <;> simp [requestedStartModel]
  refine (expectedStartCredentialBinding_ensures trivial).seq fun _ _ => ⟨trivial, fun _ => ?_⟩
  simp only [bind_eq, ensures_bind, ensures_fromStore]
  refine fun binding _ => (hreq binding).mono fun _ _ => ⟨trivial, fun _ => ?_⟩
  exact (preflightModel_reads _ _ _ _).mono fun _ _ => by simp

/-- The reservation of a start freezes the current context of its thread and adds its content. -/
theorem buildStartReservation_ensures (input : StartConversationTurn) (key : String)
    (threadId : ThreadId) (thread : Thread) (binding model : String) (cmd : MutationCommand) :
    (buildStartReservation input key threadId thread binding model cmd).Ensures IsReading
      fun resv => resv.source = .currentThread ∧
        resv.turn.threadId = threadId ∧ resv.userMessage.content = input.content ∧
        resv.turn.searchEnabled = input.searchEnabled := by
  simp only [buildStartReservation, bind_eq, ensures_bind, ensures_check, ensures_freshId]
  refine ⟨trivial, fun _ => ⟨trivial, fun _ _ _ _ hmsg => ⟨trivial, fun _ _ _ => ⟨trivial,
    fun _ _ _ turn hturn => ⟨trivial, fun _ _ _ => ⟨rfl, ?_⟩⟩⟩⟩⟩⟩
  simp only [Message.new, ConversationTurn.reserve, bind_eq_ok, return_eq_ok]
    at hmsg hturn
  obtain ⟨_, -, rfl⟩ := hmsg
  obtain ⟨_, -, _, -, rfl⟩ := hturn
  exact ⟨rfl, rfl, rfl⟩

/-- The checks of a retry only read. -/
lemma checkRetry_reads (input : RetryConversationTurn) (src : ConversationTurnSnapshot)
    (srcTurnId : ConversationTurnId) (replaying : Bool) :
    Reads (checkRetry input src srcTurnId replaying) := by
  have hlat : Reads (requireLatestSource srcTurnId replaying) := by
    simp [requireLatestSource]
  simp only [checkRetry, bind_eq, ensures_bind, ensures_reject, ensures_check, ensures_require]
  refine fun _ _ _ _ => (writableThread_reads _).mono fun _ _ binding _ =>
    hlat.mono fun _ _ => (requireThreadBinding_reads _ _ _).mono fun _ _ =>
    (preflightModel_reads _ _ _ _).mono fun _ _ => by simp

/-- The reservation of a retry freezes the context of its source. -/
theorem buildRetryReservation_ensures (input : RetryConversationTurn)
    (src : ConversationTurnSnapshot) (srcTurnId : ConversationTurnId) (binding : String)
    (cmd : MutationCommand) :
    (buildRetryReservation input src srcTurnId binding cmd).Ensures IsReading
      fun resv => resv.source = .retry srcTurnId input.expectedRevision ∧
        resv.turn.searchEnabled = src.turn.searchEnabled := by
  simp only [buildRetryReservation, bind_eq, ensures_bind, ensures_check, ensures_freshId]
  refine ⟨trivial, fun _ => ⟨trivial, fun _ _ _ _ _ => ⟨trivial, fun _ _ _ => ⟨trivial,
    fun _ _ _ turn hturn _ _ => ⟨rfl, ?_⟩⟩⟩⟩⟩
  simp only [ConversationTurn.reserve, bind_eq_ok, return_eq_ok] at hturn
  obtain ⟨_, -, _, -, rfl⟩ := hturn
  rfl

/-- Planning a fork is in the background. -/
lemma buildForkPlan_background (forkRequest : ConversationForkRequest) (cmd : MutationCommand)
    (src : ConversationTurnSnapshot) (srcCtx : List Message) (parent : Thread)
    (binding : String) :
    InBackground streamed
      (buildForkPlan forkRequest cmd src srcCtx parent binding) := by
  have hcop : ∀ childThreadId now position msgs,
      InBackground streamed (copyContext childThreadId src.turn.id now position msgs) := by
    intro childThreadId now position msgs
    induction msgs generalizing position with
    | nil => simp [copyContext]
    | cons msg rest ih =>
      simp only [copyContext, bind_eq, ensures_bind, ensures_freshId, ensures_check]
      exact ⟨trivial, fun _ _ _ _ _ => (ih _).mono fun _ _ => trivial⟩
  have hlast : ∀ childThreadId seq now, InBackground streamed
      (forkLastMessage forkRequest src srcCtx childThreadId seq now) := by
    cases forkRequest <;> simp [forkLastMessage]
  have hturn : ∀ childThread msgs now, InBackground streamed
      (buildForkTurn forkRequest.kind cmd src binding childThread msgs now) := by
    cases forkRequest.kind <;> simp [buildForkTurn, buildDispatchingTurn]
  simp only [buildForkPlan, bind_eq, ensures_bind, ensures_reject, ensures_check, ensures_require,
    ensures_freshId]
  exact fun _ _ _ => ⟨trivial, fun _ => ⟨trivial, fun _ _ _ _ _ => (hcop _ _ _ _).mono fun _ _ =>
    (hlast _ _ _).mono fun _ _ => (hturn _ _ _).mono fun _ _ => trivial⟩⟩

/-- Reserving a fork is in the background. -/
lemma reserveFork_background (kind : ConversationForkKind) (src : ConversationTurnSnapshot)
    (binding : String) (plan : ConversationForkPlan) :
    InBackground streamed (reserveFork kind src binding plan) := by
  simp only [reserveFork, ensures_ite]
  refine ⟨fun _ => by simp, fun _ => ?_⟩
  exact (preflightModel_reads _ _ _ _).background.seq
    fun _ _ => by simp

section Prepare

variable [Sha256Library]

lemma startCommand_reads (input : StartConversationTurn) (key model : String) :
    Reads (startCommand input key model) := by
  simp [startCommand]

/-- The replay of a start only reads. -/
lemma replayStart_reads (input : StartConversationTurn) (key : String) :
    Reads (replayStart input key) := by
  simp only [replayStart, bind_eq, ensures_bind, ensures_check, ensures_fromStore]
  refine fun threadId _ => ⟨trivial, fun _ binding _ => ?_⟩
  cases binding with
  | bound model =>
    simp only [ensures_bind, ensures_reject]
    exact fun _ => (startCommand_reads _ _ _).mono (by simp)
  | unboundEmpty => simp
  | legacyUnbound => simp

/-- Preparing a start is in the background. -/
lemma prepareStart_background (input : StartConversationTurn) (key : String) :
    InBackground streamed (prepareStart input key) := by
  refine (replayStart_reads input key).background.seq fun existing _ => ?_
  cases finishedTurn existing with
  | some started => simp
  | none =>
    simp only [ensures_bind, bind_eq, ensures_check]
    refine fun threadId _ => (writableThread_reads _).background.mono
      fun _ _ => (preflightStartModel_reads _ _).background.mono
      fun _ _ => (startCommand_reads _ _ _).background.mono
      fun cmd _ => ?_
    simp only [ensures_fromStore]
    refine ⟨trivial, fun _ existing _ => ?_⟩
    cases finishedTurn existing with
    | some started => simp
    | none =>
      exact ((buildStartReservation_ensures _ _ _ _ _ _ _).imp fun _ => IsReading.background).seq
        fun _ _ => reserveDispatch_background _ _

/-- Preparing a retry is in the background. -/
lemma prepareRetry_background (input : RetryConversationTurn) (key : String) :
    InBackground streamed (prepareRetry input key) := by
  simp only [prepareRetry, bind_eq, ensures_bind, ensures_check]
  refine fun srcTurnId _ => (loadSource_reads _).background.mono
    fun _ _ cmd _ => ⟨trivial, fun _ => ?_⟩
  simp only [ensures_fromStore]
  intro existing _
  cases finishedTurn existing with
  | some started => simp
  | none =>
    exact (checkRetry_reads _ _ _ _).background.seq fun _ _ =>
      ((buildRetryReservation_ensures _ _ _ _ _).imp fun _ => IsReading.background).seq
        fun _ _ => reserveDispatch_background _ _

/-- The checks of a fork are in the background. -/
lemma checkFork_background (forkRequest : ConversationForkRequest)
    (src : ConversationTurnSnapshot) (srcCtx : List Message) :
    InBackground streamed (checkFork forkRequest src srcCtx) := by
  simp only [checkFork, bind_eq, ensures_bind, ensures_reject, ensures_check, ensures_require,
    ensures_fromStore]
  refine fun _ _ _ _ _ => ⟨trivial, fun _ _ _ => ⟨trivial, fun _ _ _ _ _ _ => ?_⟩⟩
  exact (requireThreadBinding_reads _ _ _).background

/-- Preparing a fork is in the background. -/
lemma prepareFork_background (forkRequest : ConversationForkRequest) (key : String) :
    InBackground streamed (prepareFork forkRequest key) := by
  simp only [prepareFork, bind_eq, ensures_bind, ensures_check]
  refine fun srcTurnId _ => (loadSource_reads _).background.mono
    fun _ _ cmd _ => ⟨trivial, fun _ => ?_⟩
  simp only [ensures_fromStore]
  intro existing _
  cases finishedFork existing with
  | some started => simp
  | none =>
    exact (checkFork_background _ _ _).seq fun _ _ =>
      (buildForkPlan_background _ _ _ _ _ _).seq fun _ _ => reserveFork_background _ _ _ _

end Prepare

/-! ## Ending turns -/

variable (snap : ConversationTurnSnapshot)

/-- A commit that ends a turn in review says so. -/
lemma buildInterruptCommit_ensures :
    (buildInterruptCommit snap).Ensures (Background streamed)
      fun commit => commit.turn.state = .interruptedNeedsReview := by
  simp only [buildInterruptCommit, bind_eq, ensures_bind, ensures_check]
  refine ⟨trivial, fun _ _ _ turn hturn _ _ _ _ => ?_⟩
  exact (TurnMoved.of_moveTo hturn).2.1

/-- A commit that cancels a reservation says so. -/
lemma buildCancelReservedCommit_ensures :
    (buildCancelReservedCommit snap).Ensures (Background streamed)
      fun commit => commit.turn.state = .cancelled := by
  simp only [buildCancelReservedCommit, bind_eq, ensures_bind, ensures_check]
  exact ⟨trivial, fun _ turn hturn _ _ => (TurnMoved.of_moveTo hturn).2.1⟩

/-- The commit of a failure is about the turn of the snapshot. -/
theorem buildFailedCommit_ensures {ok : ConversationCall → Prop} (hnow : ok .now)
    (snap : ConversationTurnSnapshot) (error : ModelError) :
    (buildFailedCommit snap error).Ensures ok
      fun commit => commit.turn.id = snap.turn.id ∧ commit.turn.state = .failed := by
  simp only [buildFailedCommit, bind_eq, ensures_bind, ensures_check]
  refine ⟨hnow, fun _ _ _ turn hturn _ _ _ _ => ?_⟩
  obtain ⟨-, moved, hmov, rfl⟩ := ConversationTurn.fail_eq_ok.1 hturn
  obtain ⟨hmove, hsta, -⟩ := TurnMoved.of_moveTo hmov
  exact ⟨hmove.id, hsta⟩

/-- The commit of a completion is about the turn of the snapshot. -/
theorem buildCompletedCommit_ensures [UrlLibrary] {ok : ConversationCall → Prop} (hnow : ok .now)
    (hid : ∀ entity, ok (.generateId entity)) (snap : ConversationTurnSnapshot)
    (outcome : ProviderOutcome) :
    (buildCompletedCommit snap outcome).Ensures ok
      fun commit => commit.turn.id = snap.turn.id ∧ commit.turn.state = .completed := by
  simp only [buildCompletedCommit, bind_eq, ensures_bind, ensures_check, ensures_freshId]
  refine ⟨hnow, fun _ _ _ => ⟨hid _, fun _ _ _ _ _ turn hturn _ _ _ _ => ?_⟩⟩
  obtain ⟨-, -, -, moved, hmov, rfl⟩ := ConversationTurn.complete_eq_ok.1 hturn
  obtain ⟨hmove, hsta, -⟩ := TurnMoved.of_moveTo hmov
  exact ⟨hmove.id, hsta⟩

lemma commitEnd_background {commit : TerminalTurnCommit}
    (h : Background streamed (.commitTerminal commit)) :
    InBackground streamed (commitEnd commit) := by
  simpa [commitEnd] using h

/-- An interrupt ends no turn as completed or failed. -/
lemma interrupt_background : InBackground streamed (interrupt snap) :=
  (buildInterruptCommit_ensures snap).seq fun commit hsta =>
    commitEnd_background (by simp [hsta])

/-- Cancelling a reservation is in the background. -/
lemma cancelReserved_background : InBackground streamed (cancelReserved snap) :=
  (buildCancelReservedCommit_ensures snap).seq fun commit hsta =>
    commitEnd_background (by simp [hsta])

/-- So is an interrupt that has to be reconciled. -/
lemma interruptOrReconcile_background : InBackground streamed (interruptOrReconcile snap) := by
  have hatt : InBackground streamed (interrupt snap).attempt :=
    (interrupt_background snap).attempt fun _ => trivial
  refine hatt.seq fun res _ => ?_
  cases res with
  | ok interrupted => simp
  | error error =>
    simp only [reconcile, bind_eq, ensures_bind, ensures_fromStore]
    refine ⟨trivial, fun _ cur _ => ?_⟩
    cases cur <;> simp

/-- Committing provider data about a streamed turn is a background call. -/
lemma commitOrInterrupt_background {snap : ConversationTurnSnapshot}
    (hid : snap.turn.id ∈ streamed) {build : Service TerminalTurnCommit}
    (hbuild : build.Ensures (Background streamed) fun commit => commit.turn.id = snap.turn.id) :
    InBackground streamed (commitOrInterrupt snap build) := by
  have hatt : build.attempt.Ensures (Background streamed) fun res =>
      ∀ commit, res = .ok commit → commit.turn.id = snap.turn.id :=
    (hbuild.mono fun commit hcom _ heq => Except.ok.inj heq ▸ hcom).attempt (by simp)
  refine hatt.seq fun res hres => ?_
  cases res with
  | error error => exact interruptOrReconcile_background snap
  | ok commit =>
    have hcom : Background streamed (.commitTerminal commit) :=
      fun _ => hres commit rfl ▸ hid
    have hend : InBackground streamed (commitEnd commit).attempt :=
      (commitEnd_background hcom).attempt fun _ => trivial
    refine hend.seq fun res _ => ?_
    cases res with
    | ok committed => simp
    | error error => exact interruptOrReconcile_background snap

/-! ## The stream -/

section Stream

variable {started : ConversationTurnSnapshot}

/-- A provider error fails only the streamed turn. -/
lemma finishProviderError_background (hid : started.turn.id ∈ streamed) (error : ModelError) :
    InBackground streamed (finishProviderError started error) := by
  simp only [finishProviderError, ensures_ite]
  exact ⟨fun _ => interruptOrReconcile_background started,
    fun _ => commitOrInterrupt_background hid
      ((buildFailedCommit_ensures trivial _ _).mono fun _ h => h.1)⟩

lemma appendNormalizedTextOrCancel_background (offset : ℕ) (text : String) :
    InBackground streamed (appendNormalizedTextOrCancel started offset text) := by
  have happ : InBackground streamed (appendNormalizedText started offset text) := by
    simp [appendNormalizedText]
  have hrace : InBackground streamed
      (raceCancellationFirst (appendNormalizedText started offset text)) :=
    ensures_raceCancellationFirst happ (fun _ => trivial) trivial trivial
  refine hrace.seq fun res _ => ?_
  rcases res with _ | _ | _ <;> simp

/-- Flushing the buffered text is in the background. -/
lemma flushPending_background (rounds : ℕ) (progress : StreamProgress) :
    InBackground streamed (flushPending started rounds progress) := by
  induction rounds generalizing progress with
  | zero => simp [flushPending]
  | succ rounds ih =>
    simp only [flushPending, ensures_ite]
    refine ⟨fun _ => trivial, fun _ => ?_⟩
    refine (appendNormalizedTextOrCancel_background _ _).seq fun done _ => ?_
    split
    · exact ih _
    · trivial

lemma consumeEvent_background (progress : StreamProgress) (event : ConversationEvent) :
    InBackground streamed (consumeEvent started progress event) := by
  cases event with
  | textDelta delta =>
    simp only [consumeEvent, ensures_ite]
    exact ⟨fun _ => trivial, fun _ => flushPending_background _ _⟩
  | started continuation => simp [consumeEvent]
  | citation citation => simp [consumeEvent]
  | usage usage => simp [consumeEvent]
  | retentionObserved value => simp [consumeEvent]
  | completed continuation => simp [consumeEvent]

variable [UrlLibrary]

/-- The end of a stream completes only the streamed turn. -/
lemma finishStream_background (hid : started.turn.id ∈ streamed) (progress : StreamProgress) :
    InBackground streamed (finishStream started progress) := by
  have hcomp : ∀ outcome, InBackground streamed (completeOrCancel started outcome) := by
    intro outcome
    have hrace : InBackground streamed (raceCancellationFirst (complete started outcome)) :=
      ensures_raceCancellationFirst
        (commitOrInterrupt_background hid
          ((buildCompletedCommit_ensures trivial (fun _ => trivial) _ outcome).mono fun _ h => h.1))
        (fun _ => trivial) trivial trivial
    refine hrace.seq fun res _ => ?_
    rcases res with _ | _ | _
    · exact interruptOrReconcile_background started
    · simp
    · simp
  unfold finishStream
  cases progress.usage with
  | none => exact interruptOrReconcile_background started
  | some usage =>
    simp only [ensures_ite]
    refine ⟨fun _ => interruptOrReconcile_background started, fun _ => ?_⟩
    have hflush : InBackground streamed (flushLast started progress) := by
      simp only [flushLast, ensures_ite]
      exact ⟨fun _ => trivial, fun _ => appendNormalizedTextOrCancel_background _ _⟩
    refine hflush.seq fun flushed _ => ?_
    simp only [ensures_ite]
    exact ⟨fun _ => hcomp _, fun _ => interruptOrReconcile_background started⟩

/-- Consuming a stream ends only the streamed turn. -/
lemma consumeItems_background (hid : started.turn.id ∈ streamed) (progress : StreamProgress)
    (items : List StreamItem) : InBackground streamed (consumeItems started progress items) := by
  induction items generalizing progress with
  | nil =>
    refine ⟨trivial, fun cancelled => ?_⟩
    simp only [done_bind, ensures_ite]
    exact ⟨fun _ => interruptOrReconcile_background started,
      fun _ => finishStream_background hid progress⟩
  | cons item rest ih =>
    refine ⟨trivial, fun cancelled => ?_⟩
    simp only [done_bind, ensures_ite]
    refine ⟨fun _ => interruptOrReconcile_background started, fun _ => ?_⟩
    cases item with
    | error error => exact finishProviderError_background hid error
    | ok event =>
      refine (consumeEvent_background progress event).seq fun next _ => ?_
      cases next with
      | none => exact interruptOrReconcile_background started
      | some next => exact ih next

end Stream

/-! ## Cancellation and recovery -/

lemma buildCancellationTerminal_background :
    InBackground streamed (buildCancellationTerminal snap) := by
  unfold buildCancellationTerminal
  split
  · exact (buildCancelReservedCommit_ensures snap).seq fun _ _ => trivial
  · exact (buildInterruptCommit_ensures snap).seq fun _ _ => trivial
  all_goals trivial

/-- A cancellation is in the background. -/
lemma cancel_background [Sha256Library] (turnId : ConversationTurnId) (expected : ℕ)
    (key : String) : InBackground streamed (cancel turnId expected key) := by
  simp only [cancel, bind_eq, ensures_bind, ensures_check, ensures_fromStore, ensures_require]
  exact fun _ _ => ⟨trivial, fun _ _ _ _ _ =>
    (buildCancellationTerminal_background _).mono fun _ _ => by simp⟩

/-- The reconciliation of an exit is in the background. -/
lemma reconcileDispatchExit_background [Sha256Library] (turnId : ConversationTurnId) :
    InBackground streamed (reconcileDispatchExit turnId) := by
  have hwith : ∀ tries, InBackground streamed (reconcileDispatchExitWithin turnId tries) := by
    intro tries
    induction tries with
    | zero => simp [reconcileDispatchExitWithin]
    | succ tries ih =>
      simp only [reconcileDispatchExitWithin, bind_eq, request_eq, call_bind, done_bind,
        ensures_call, ensures_bind, ensures_check, ensures_fromStore, ensures_require, ensures_ite]
      refine ⟨trivial, fun _ _ _ _ _ => ⟨fun _ => trivial, fun _ cmd _ => ?_⟩⟩
      refine (buildCancellationTerminal_background _).mono fun _ _ => ⟨trivial, fun outcome => ?_⟩
      split
      · trivial
      · exact ih
      · trivial
  exact hwith 4

/-- The recovery is in the background. -/
lemma recoverIncomplete_background (limit : ℕ) :
    InBackground streamed (recoverIncomplete limit) := by
  have hts : ∀ turns summary, InBackground streamed (recoverTurns summary turns) := by
    intro turns
    induction turns with
    | nil => exact fun _ => trivial
    | cons snap rest ih =>
      intro summary
      unfold recoverTurns
      split
      · exact (cancelReserved_background snap).seq fun _ _ => ih _
      · exact (interrupt_background snap).seq fun _ _ => ih _
      all_goals trivial
  simp only [recoverIncomplete, bind_eq, ensures_bind, ensures_reject, ensures_fromStore]
  exact fun _ => ⟨trivial, fun _ _ _ => hts _ _⟩

end GrokDesktop
