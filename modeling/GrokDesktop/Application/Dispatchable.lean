import GrokDesktop.Memory.Contexts
import GrokDesktop.Application.AtMostOnce

/-!
# Which reservations can be dispatched

`prepare_start` and `prepare_retry` commit a reservation first and build its provider request after.
The store accepts a context of as many messages and bytes as the request may have, but the request
has the system prompt besides. So the request of a new prompt fails exactly when its context leaves
no room for the system prompt, and the reserved turn stays behind; the request of a retry was built
once before, from a context of the same size, and never fails.
-/

namespace GrokDesktop

open Except

open Resumption Service
open Program (bind_eq run_bind_ok done_bind)

/-! ## The size of a request -/

lemma requestBytes_eq (context : List Message) (searchEnabled : Bool) :
    requestBytes context searchEnabled
      = contentBytes context + (systemPrompt searchEnabled).utf8ByteSize := by
  unfold requestBytes
  generalize (systemPrompt searchEnabled).utf8ByteSize = total
  induction context generalizing total with
  | nil => simp [contentBytes]
  | cons msg rest ih =>
    rw [List.foldl_cons, ih]
    simp only [contentBytes, List.map_cons, List.sum_cons]
    omega

/-- A context of the given size leaves room for the system prompt. -/
def LeavesRoom (messages bytes : ℕ) (searchEnabled : Bool) : Prop :=
  messages < maxConversationContextMessages ∧
    bytes + (systemPrompt searchEnabled).utf8ByteSize ≤ maxConversationContextBytes

/-- A provider request can be built exactly from a context that is not empty and leaves room for
the system prompt. -/
lemma providerRequest_eq_ok {model : String} {context : List Message} {searchEnabled : Bool} :
    (∃ req, providerRequest model context searchEnabled = .ok req) ↔
      context ≠ [] ∧ LeavesRoom context.length (contentBytes context) searchEnabled := by
  simp only [providerRequest, bind_eq_ok, rejectIf_eq_ok, requestBytes_eq, List.isEmpty_iff, not_or,
    not_le, not_lt]
  constructor
  · rintro ⟨_, _, ⟨hne, hmsgs⟩, _, hbytes, -⟩
    exact ⟨hne, hmsgs, hbytes⟩
  · rintro ⟨hne, hmsgs, hbytes⟩
    exact ⟨_, (), ⟨hne, hmsgs⟩, (), hbytes, rfl⟩

/-! ## Following a preparation -/

/-- The state in which the reservation of a preparation was committed, after a call in the given
state. -/
def noteReservation (noted : Option State) (s : State) :
    (c : ConversationCall) → c.Reply → Option State
  | .reserveTurn _, reply =>
      match reply with
      | .ok reservation => if reservation.created then some s else noted
      | .error _ => noted
  | _, _ => noted

/-- The call returns a dispatch plan. -/
def ReturnsPlan (result : Except ApplicationError StartedConversationTurn) : Prop :=
  ∃ started plan, result = .ok started ∧ started.dispatch = some plan

section Preparation

variable [UrlLibrary]

/-- The contract of a preparation: the store answers its calls, between them other tasks write
anything, and the state in which the preparation commits a reservation is noted. -/
def preparationContract :
    Contract conversationInterface (State × Option State) where
  allowed _ _ := True
  next σ c r σ' := ∃ s, Writes Set.univ σ.1 s ∧ conversationSystem.answers s c r σ'.1 ∧
    σ'.2 = noteReservation σ.2 s c r

variable {α β : Type} {post : α → Prop} {P : State → Prop} {σ : State × Option State}

/-- A reading call changes nothing that the writes of other tasks keep. -/
lemma next_reading (hP : ∀ s s', Writes Set.univ s s' → P s → P s') {c : ConversationCall}
    {r : c.Reply} {σ' : State × Option State}
    (hnext : preparationContract.next σ c r σ') (hc : IsReading c) (hσ : P σ.1 ∧ σ.2 = none) :
    P σ'.1 ∧ σ'.2 = none := by
  obtain ⟨s, hwrs, hans, hnoted⟩ := hnext
  have hread : σ'.1 = s ∧ σ'.2 = σ.2 := by
    cases c <;> first
      | exact hc.elim
      | exact ⟨(Prod.mk.inj hans).2.symm, hnoted⟩
      | exact ⟨hans, hnoted⟩
  rw [hread.1, hread.2]
  exact ⟨hP _ _ hwrs hσ.1, hσ.2⟩

variable {Q : Except ApplicationError β → State × Option State → Prop}

/-- The rule for a program that reads before anything is reserved. -/
lemma wp_reads_bind {p : Service α} {f : α → Service β}
    (hP : ∀ s s', Writes Set.univ s s' → P s → P s') (hQ : ∀ r σ, σ.2 = none → Q r σ)
    (hσ : P σ.1 ∧ σ.2 = none) (hp : p.Ensures IsReading post)
    (hf : ∀ a σ', post a → P σ'.1 ∧ σ'.2 = none → (f a).wp preparationContract Q σ') :
    (p.bind f).wp preparationContract Q σ := by
  rw [Program.wp_bind]
  refine Program.wp_mono (hp.wp (fun σ => P σ.1 ∧ σ.2 = none) (fun _ _ _ _ => trivial)
    (fun _ _ _ _ hσ hc hnext => next_reading hP hnext hc hσ) hσ) ?_
  rintro (error | a) σ' ⟨hσ', hpost⟩
  · exact hQ _ _ hσ'.2
  · exact hf a σ' (hpost a rfl) hσ'

/-- The rule for the end of a preparation: only a fresh reservation is to be looked at. -/
lemma wp_reserveDispatch (model : String) (input : TurnReservationInput)
    {Q : Except ApplicationError StartedConversationTurn → State × Option State → Prop}
    (hP : ∀ s s', Writes Set.univ s s' → P s → P s') (hQ : ∀ r σ, σ.2 = none → Q r σ)
    (hσ : P σ.1 ∧ σ.2 = none)
    (hfresh : ∀ s s' resv, P s → reserveTurn s input = (.ok resv, s') →
      resv.created = true → Q (dispatchReservation model resv) (s', some s)) :
    (reserveDispatch model input).wp preparationContract Q σ := by
  refine ⟨trivial, ?_⟩
  rintro r ⟨s', noted⟩ ⟨s, hwrs, hans, hnoted⟩
  have hresv : reserveTurn s input = (r, s') := hans
  cases r with
  | error error => exact hQ _ _ (hnoted.trans hσ.2)
  | ok resv =>
    have hnote : noted = if resv.created then some s else σ.2 := hnoted
    change (check id (dispatchReservation model resv)).wp preparationContract Q (s', noted)
    simp only [check, Program.wp_liftExcept, Except.mapError_id]
    by_cases hcre : resv.created = true
    · rw [hnote, if_pos hcre]
      exact hfresh s s' resv (hP _ _ hwrs hσ.1) hresv hcre
    · refine hQ _ _ ?_
      rw [hnote, if_neg hcre]
      exact hσ.2

/-- A fresh reservation gives a plan exactly when its context leaves room for the system prompt. -/
lemma returnsPlan_of_created {s s' : State} {input : TurnReservationInput}
    {resv : ConversationTurnReservation}
    (h : reserveTurn s input = (.ok resv, s')) (hcre : resv.created = true)
    (model : String) :
    ∃ userMsg context, captureContext s input = .ok (userMsg, context) ∧
      (ReturnsPlan (dispatchReservation model resv) ↔
        LeavesRoom context.length (contentBytes context) input.turn.searchEnabled) := by
  obtain ⟨prep, hprep, hctx, hturn, -, hsta⟩ := reserveTurn_created h hcre
  obtain ⟨userMsg, hcap⟩ := prepareReservation_context hprep
  refine ⟨userMsg, prep.context, hcap, ?_⟩
  have hroom := and_iff_right (captureContext_ne_nil hcap) (b := LeavesRoom
    prep.context.length (contentBytes prep.context) input.turn.searchEnabled)
  rw [← hroom, ← providerRequest_eq_ok, ← hctx, ← hturn]
  unfold dispatchReservation ReturnsPlan
  rw [if_neg (by rw [hturn, hsta]; simp)]
  cases hreq : providerRequest model resv.context
      resv.snapshot.turn.searchEnabled with
  | error error => simp
  | ok req => simp

/-! ## New prompts -/

variable [Sha256Library]

/-- The prompt and the messages that are sent with it leave room for the system prompt. -/
def PromptFits (s : State) (input : StartConversationTurn) : Prop :=
  ∀ threadId : ThreadId, EntityId.new input.threadId = .ok threadId →
    LeavesRoom ((eligibleMessages s threadId).length + 1)
      (contentBytes (eligibleMessages s threadId) + input.content.utf8ByteSize) input.searchEnabled

/-- A fresh reservation of a new prompt gives a plan exactly when the prompt fits. -/
lemma prepareStart_wp (input : StartConversationTurn) (key : String) (s : State) :
    (prepareStart input key).wp preparationContract
      (fun res σ => ∀ before, σ.2 = some before →
        (ReturnsPlan res ↔ PromptFits before input)) (s, none) := by
  have hP : ∀ s s' : State, Writes Set.univ s s' → True → True := fun _ _ _ h => h
  have hQ : ∀ (res : Except ApplicationError StartedConversationTurn) (σ : State × Option State),
      σ.2 = none → ∀ before, σ.2 = some before →
        (ReturnsPlan res ↔ PromptFits before input) := by
    intro res σ hnone before hsome
    rw [hnone] at hsome
    cases hsome
  refine wp_reads_bind hP hQ ⟨trivial, rfl⟩ (replayStart_reads input key) fun existing σ _ hσ => ?_
  cases finishedTurn existing with
  | some started => exact hQ _ _ hσ.2
  | none =>
    have hthr : (check ApplicationError.ofId (EntityId.new input.threadId)).Ensures IsReading
        fun threadId : ThreadId => EntityId.new input.threadId = .ok threadId := by simp
    refine wp_reads_bind hP hQ hσ hthr fun threadId σ htid hσ => ?_
    refine wp_reads_bind hP hQ hσ (writableThread_reads threadId) fun thread σ _ hσ => ?_
    refine wp_reads_bind hP hQ hσ (preflightStartModel_reads input threadId)
      fun selected σ _ hσ => ?_
    refine wp_reads_bind hP hQ hσ (startCommand_reads input key selected.2) fun command σ _ hσ => ?_
    have hload : Reads (request (.loadTurnByCommand command)) := by simp [IsReading]
    refine wp_reads_bind hP hQ hσ hload fun loaded σ _ hσ => ?_
    have hfnd : Reads (fromStore loaded) := by simp
    refine wp_reads_bind hP hQ hσ hfnd fun existing σ _ hσ => ?_
    cases finishedTurn existing with
    | some started => exact hQ _ _ hσ.2
    | none =>
      refine wp_reads_bind hP hQ hσ (buildStartReservation_ensures _ _ _ _ _ _ _)
        fun resv σ hbuilt hσ => ?_
      obtain ⟨hsrc, hturn, hcont, hsear⟩ := hbuilt
      refine wp_reserveDispatch _ _ hP hQ hσ ?_
      rintro before s' created - hresv hcre _ ⟨rfl⟩
      obtain ⟨userMsg, context, hcap, hplan⟩ :=
        returnsPlan_of_created hresv hcre selected.2
      rw [captureContext, hsrc] at hcap
      obtain ⟨hlen, hbytes⟩ := captureConversationContext_size hcap
      rw [hplan, hlen, hbytes, hturn, hcont, hsear]
      constructor
      · intro hroom other hoth
        obtain rfl : threadId = other := Except.ok.inj (htid.symm.trans hoth)
        exact hroom
      · exact fun hfits => hfits threadId htid

/-! ## Retries -/

/-- The source of a retry has a frozen context. -/
def HasContext (sourceTurnId : ConversationTurnId) (context : List Message) (s : State) : Prop :=
  ContextsOwned s ∧ s.conversationContexts.lookup sourceTurnId = some context

variable {sourceTurnId : ConversationTurnId} {context : List Message}

omit [Sha256Library] in
lemma HasContext.writes
    (s s' : State) (hwrs : Writes Set.univ s s') (h : HasContext sourceTurnId context s) :
    HasContext sourceTurnId context s' := by
  have hkept := hwrs.contexts h.1
  exact ⟨hkept.owned, hkept.extends_ _ _ h.2⟩

omit [Sha256Library] in
/-- The rule for loading the source of a retry. -/
lemma wp_loadSource_bind {f : ConversationTurnSnapshot × List Message → Service β}
    (hQ : ∀ r σ, σ.2 = none → Q r σ) (hσ : ContextsOwned σ.1 ∧ σ.2 = none)
    (hf : ∀ src context σ', HasContext sourceTurnId context σ'.1 ∧ σ'.2 = none →
      (f (src, context)).wp preparationContract Q σ') :
    ((loadSource sourceTurnId).bind f).wp preparationContract Q σ := by
  have hP : ∀ s s', Writes Set.univ s s' → ContextsOwned s → ContextsOwned s' :=
    fun _ _ hwrs hs => (hwrs.contexts hs).owned
  have hload : Reads (request (.loadTurn sourceTurnId)) := by simp [IsReading]
  simp only [loadSource, bind_eq, Program.bind_assoc]
  refine wp_reads_bind hP hQ hσ hload fun loaded σ _ hσ => ?_
  refine wp_reads_bind hP hQ hσ (show Reads (fromStore loaded) by simp) fun found σ _ hσ => ?_
  refine wp_reads_bind hP hQ hσ (show Reads (require found .notFound) by simp)
    fun src σ _ hσ => ?_
  refine ⟨trivial, ?_⟩
  rintro r ⟨s', noted⟩ ⟨s, hwrs, hans, hnoted⟩
  obtain ⟨hrep, rfl⟩ : loadTurnContext s sourceTurnId = r ∧ s = s' := Prod.mk.inj hans
  have hnone : noted = none := hnoted.trans hσ.2
  cases r with
  | error error => exact hQ _ _ hnone
  | ok context =>
    exact hf src context (s, noted)
      ⟨⟨hP _ _ hwrs hσ.1, okOr_eq_ok.1 hrep⟩, hnone⟩

/-- A fresh reservation of a retry always gives a plan. -/
lemma prepareRetry_wp (input : RetryConversationTurn) (key : String) {s : State}
    (hs : ContextsOwned s) :
    (prepareRetry input key).wp preparationContract
      (fun result σ => σ.2.isSome → ReturnsPlan result) (s, none) := by
  have hP : ∀ s s', Writes Set.univ s s' → ContextsOwned s → ContextsOwned s' :=
    fun _ _ hwrs hs => (hwrs.contexts hs).owned
  have hQ : ∀ (result : Except ApplicationError StartedConversationTurn) (σ : State × Option State),
      σ.2 = none → σ.2.isSome → ReturnsPlan result := by
    intro result σ hnone hsome
    rw [hnone] at hsome
    cases hsome
  have hsrc : Reads (check ApplicationError.ofId
      (EntityId.new input.sourceTurnId : Except IdError ConversationTurnId)) := by simp
  refine wp_reads_bind hP hQ ⟨hs, rfl⟩ hsrc fun sourceTurnId σ _ hσ => ?_
  refine wp_loadSource_bind hQ hσ fun src context σ hσ => ?_
  have hcmd : (check id (retryCommand input key src context)).Ensures IsReading
      fun _ => LeavesRoom context.length (contentBytes context) src.turn.searchEnabled := by
    -- the command is derived from a provider request that could be built
    rw [ensures_check]
    intro command h
    simp only [retryCommand, bind_eq_ok] at h
    obtain ⟨req, hreq, -⟩ := h
    exact (providerRequest_eq_ok.1 ⟨req, hreq⟩).2
  refine wp_reads_bind HasContext.writes hQ hσ hcmd fun command σ hroom hσ => ?_
  have hload : Reads (request (.loadTurnByCommand command)) := by simp [IsReading]
  refine wp_reads_bind HasContext.writes hQ hσ hload fun loaded σ _ hσ => ?_
  refine wp_reads_bind HasContext.writes hQ hσ (show Reads (fromStore loaded) by simp)
    fun existing σ _ hσ => ?_
  cases finishedTurn existing with
  | some started => exact hQ _ _ hσ.2
  | none =>
    refine wp_reads_bind HasContext.writes hQ hσ (checkRetry_reads _ _ _ _)
      fun binding σ _ hσ => ?_
    refine wp_reads_bind HasContext.writes hQ hσ (buildRetryReservation_ensures _ _ _ _ _)
      fun reservation σ hbuilt hσ => ?_
    obtain ⟨hretry, hsear⟩ := hbuilt
    refine wp_reserveDispatch _ _ HasContext.writes hQ hσ ?_
    rintro before s' created hctx hresv hcre -
    obtain ⟨userMessage, frozen, hcap, hplan⟩ :=
      returnsPlan_of_created hresv hcre src.turn.modelId
    rw [captureContext, hretry] at hcap
    obtain ⟨sourceContext, hget, hlen, hbytes⟩ := captureRetryContext_size hcap
    obtain rfl : context = sourceContext := Option.mem_unique hctx.2 hget
    rw [hplan, hlen, hbytes, hsear]
    exact hroom

/-! ## Every reservation -/

/-- A committed reservation can always be dispatched, or cannot for one reason: from every reachable
store and with any writes by other tasks in between, `prepare_start` returns the plan of the turn it
reserved exactly when its prompt leaves room for the system prompt, and `prepare_retry` always
returns it. -/
theorem fresh_reservation_plan_iff (operations : List StoreOperation) :
    (∀ input key, (prepareStart input key).wp preparationContract
      (fun result σ => ∀ before, σ.2 = some before →
        (ReturnsPlan result ↔ PromptFits before input)) (State.empty.run operations, none)) ∧
    ∀ input key, (prepareRetry input key).wp preparationContract
      (fun result σ => σ.2.isSome → ReturnsPlan result) (State.empty.run operations, none) :=
  ⟨fun input key => prepareStart_wp input key _,
    fun input key => prepareRetry_wp input key (run_contextsOwned operations)⟩

end Preparation

/-! ## A prompt that does not fit -/

namespace LargePrompt

open SampleRun

attribute [local instance] url sha

variable {content : String}

/-- The first message of the thread. -/
def message (content : String) : Message where
  id := ⟨"first", by decide⟩
  threadId := thread.id
  sequence := 0
  role := .user
  content := content
  state := .active
  derivation := .original
  revision := 0
  createdAt := 0
  updatedAt := 0

/-- A project, a thread and its first message are created. -/
def operations (content : String) : List StoreOperation :=
  [.createProject project ⟨"create_project", "project-key", 0⟩,
    .createThread thread ⟨"create_thread", "thread-key", 0⟩,
    .createMessage (message content) ⟨"create_message", "message-key", 0⟩]

/-- The store with one message. -/
def full (content : String) : State := State.empty.run (operations content)

/-- The start of a turn whose prompt has the same content as the first message. -/
abbrev start (content : String) : StartConversationTurn := ⟨"thread", content, none, false⟩

/-- The answers of the store and its surroundings, with the reservation noted. -/
def notedReply (σ : State × Option State) (c : ConversationCall) :
    c.Reply × (State × Option State) :=
  ((reply σ.1 c).1, (reply σ.1 c).2, noteReservation σ.2 σ.1 c (reply σ.1 c).1)

lemma next_notedReply (σ : State × Option State) (c : ConversationCall) :
    preparationContract.next σ c (notedReply σ c).1 (notedReply σ c).2 :=
  ⟨σ.1, .refl, answers_reply σ.1 c, rfl⟩

/-- The command of the start. -/
def command : MutationCommand := ⟨conversationCommandScope, "start-key", 0⟩

/-- The turn that the start reserves. -/
def turn : ConversationTurn where
  id := turnId
  idempotencyKey := "start-key"
  requestFingerprint := 0
  providerRequestFingerprint := none
  projectId := project.id
  threadId := thread.id
  userMessageId := ⟨"message", by decide⟩
  runId := ⟨"run", by decide⟩
  modelId := "grok"
  searchEnabled := false
  state := .reserved
  effectId := none
  assistantMessageId := none
  failure := none
  providerResponseId := none
  citations := []
  usage := .default
  zeroDataRetention := none
  revision := 0
  createdAt := 0
  updatedAt := 0

/-- The prompt of the turn, at a position of its thread. -/
def prompt (content : String) (sequence : ℕ) : Message :=
  { message content with id := turn.userMessageId, sequence := sequence }

/-- The reservation of the start. -/
def reservation (content : String) : TurnReservationInput where
  turn := turn
  lineage := ⟨.original, some "credential", .xaiApiKey, 0⟩
  source := .currentThread
  userMessage := prompt content 0
  run := Run.queued turn.runId project.id thread.id 0
  event := createdRunEvent 0
  turnEvent := .created

/-! ### The reservation is committed -/

lemma turn_restores : turn.restore.isOk = true := by decide +kernel

variable (hval : validateText "message.content" content 1 maxMessageBytes false = .ok ())
  (hbytes : content.utf8ByteSize = 1024 * 1024)

include hval in
lemma acceptsReservationInput_reservation :
    acceptsReservationInput (reservation content) = true := by
  have hmsg : isCanonicalMessage (prompt content 0) .user 0 0 = true := by
    simp [isCanonicalMessage, Message.new, prompt, message, hval]
  have hcan : isCanonicalReservationInput turn (prompt content 0)
      (reservation content).run (reservation content).event = true := by
    simp only [isCanonicalReservationInput, turn_restores, Bool.and_eq_true, decide_eq_true_eq]
    exact ⟨⟨⟨⟨⟨⟨⟨⟨⟨rfl, trivial⟩, rfl⟩, rfl⟩, rfl⟩, rfl⟩, rfl⟩, hmsg⟩, rfl⟩, rfl⟩
  have hlin : ((reservation content).lineage.restore turn.id).isOk = true := rfl
  simp only [acceptsReservationInput, Bool.and_eq_true]
  exact ⟨⟨⟨hcan, hlin⟩, rfl⟩, rfl⟩

/-- The first message is all that the prompt is sent with. -/
lemma eligibleMessages_full :
    eligibleMessages (full content) thread.id = [{ message content with sequence := 1 }] := rfl

include hbytes in
/-- The store accepts a context of exactly two MiB. -/
lemma captureContext_reservation :
    captureContext (full content) (reservation content)
      = .ok (prompt content 2, [{ message content with sequence := 1 }, prompt content 2]) := by
  have hnext : (full content).nextSequence turn.threadId = some 2 := rfl
  have helig : eligibleMessages (full content) turn.threadId
      = [{ message content with sequence := 1 }] := eligibleMessages_full
  have hcoll : collectContext 0 (1024 * 1024) [{ message content with sequence := 1 }]
      = .ok () := by
    simp [collectContext, message, hbytes, maxConversationContextMessages,
      maxConversationContextBytes, bind_eq_ok]
  have hval : validateContext [{ message content with sequence := 1 }, prompt content 2]
      = .ok () := by
    simp [validateContext, contentBytes, prompt, message, hbytes, maxConversationContextMessages,
      maxConversationContextBytes, bind_eq_ok]
  simp only [captureContext, reservation, captureConversationContext, bind_eq_ok, okOr_eq_ok,
    return_eq_ok]
  refine ⟨2, hnext, (), ?_, (), ?_, rfl⟩
  · rw [helig]
    exact hbytes ▸ hcoll
  · rw [helig]
    exact hval

include hval hbytes in
lemma prepareReservation_reservation :
    ∃ prepared, prepareReservation (full content) (reservation content) = .ok prepared := by
  have hrest : (prompt content 2).restore.isOk = true := by
    rw [Message.restore]
    simp [prompt, message, hval, ConversationMessageDerivation.restore,
      ConversationMessageDerivation.wellFormed, ConversationMessageDerivation.isOriginal,
      rejectIf]
    rfl
  have hmess : isReachableTurnMessage (prompt content 2) .user 0 2 = true := by
    simp only [isReachableTurnMessage, hrest]
    rfl
  have hcan : isCanonicalConversationSnapshot {
      turn := turn
      userMessage := prompt content 2
      assistantMessage := none
      run := (reservation content).run
      effect := none
      lineage := (reservation content).lineage } = true :=
    isCanonicalConversationSnapshot_eq_true.2
      ⟨turn_restores, rfl, rfl, rfl, Nat.succ_ne_zero 1, hmess, rfl, rfl, rfl⟩
  simp only [prepareReservation, bind_eq_ok, rejectIf_eq_ok, okOr_eq_ok, return_eq_ok, not_or,
    not_not]
  refine ⟨_, (), Bool.false_ne_true, thread, rfl, project, rfl, (), ?_, "credential", rfl, true,
    rfl, true, rfl, _, captureContext_reservation hbytes, (), ?_, _, rfl, rfl⟩
  · exact ⟨rfl, rfl, rfl, rfl, rfl, rfl, rfl, rfl, rfl, Bool.false_ne_true, Bool.false_ne_true,
      Bool.false_ne_true⟩
  · exact fun hbad => Bool.false_ne_true ((congrArg (!·) hcan).symm.trans hbad)

/-! ### The run up to the reservation -/

lemma replayStart_run : (replayStart (start content) "start-key").run notedReply
    (full content, none) = (.ok none, full content, none) := by
  unfold replayStart
  dsimp only
  refine (run_bind_ok (a := thread.id) (t := (full content, none)) rfl).trans ?_
  exact (run_bind_ok (a := .ok .unboundEmpty) (t := (full content, none)) rfl).trans rfl

lemma preflightStartModel_run : (preflightStartModel (start content) thread.id).run notedReply
    (full content, none) = (.ok ("credential", "grok"), full content, none) := by
  rfl

lemma freshId_run {kind : IdKind} {entity : String} {i : EntityId kind}
    (h : EntityId.new entity = .ok i) (σ : State × Option State) :
    (freshId kind entity).run notedReply σ = (.ok i, σ) := by
  change ((check ApplicationError.ofId (EntityId.new entity : Except IdError (EntityId kind))).run
    notedReply σ) = _
  rw [h]
  rfl

include hval in
lemma buildStartReservation_run :
    (buildStartReservation (start content) "start-key" thread.id thread "credential" "grok"
      command).run notedReply (full content, none)
      = (.ok (reservation content), full content, none) := by
  have hmsg : Message.new turn.userMessageId thread.id .user content 0
      = .ok (prompt content 0) := by
    rw [Message.new, hval]
    rfl
  unfold buildStartReservation
  refine (run_bind_ok (a := (0 : ℕ)) (t := (full content, none)) rfl).trans ?_
  refine (run_bind_ok (freshId_run (i := turn.userMessageId) rfl _)).trans ?_
  refine (run_bind_ok (a := prompt content 0) (t := (full content, none)) ?_).trans ?_
  · rw [hmsg]
    rfl
  · refine (run_bind_ok (freshId_run (i := turn.runId) rfl _)).trans ?_
    refine (run_bind_ok (freshId_run (i := turnId) rfl _)).trans ?_
    exact (run_bind_ok (a := turn) (t := (full content, none)) rfl).trans rfl

include hval hbytes in
/-- The run commits its reservation. -/
lemma prepareStart_run :
    ((prepareStart (start content) "start-key").run notedReply (full content, none)).2.2
      = some (full content) := by
  obtain ⟨prep, hprep⟩ := prepareReservation_reservation hval hbytes
  have hs : Consistent (full content) := run_consistent (operations content)
  obtain ⟨reserved, hresv, hcre⟩ := reserveTurn_of_prepared hs
    (acceptsReservationInput_reservation hval) rfl hprep
  have hthr : (check ApplicationError.ofId (EntityId.new "thread" : Except IdError ThreadId)).run
      notedReply (full content, none) = (.ok thread.id, full content, none) := rfl
  have hwrit : (writableThread thread.id).run notedReply (full content, none)
      = (.ok thread, full content, none) := rfl
  have hcmd : (startCommand (start content) "start-key" "grok").run notedReply
      (full content, none) = (.ok command, full content, none) := rfl
  have hload : (request (.loadTurnByCommand command)).run notedReply (full content, none)
      = (.ok (.ok none), full content, none) := rfl
  have hnote : noteReservation none (full content) (.reserveTurn (reservation content))
      (reserveTurn (full content) (reservation content)).1 = some (full content) := by
    rw [hresv]
    exact if_pos hcre
  have hreq : (request (.reserveTurn (reservation content))).run notedReply
      (full content, none) = (.ok (.ok reserved),
        (reserveTurn (full content) (reservation content)).2, some (full content)) := by
    have hrep : reply (full content) (.reserveTurn (reservation content))
        = reserveTurn (full content) (reservation content) := rfl
    rw [request_eq, Program.run, notedReply]
    dsimp only
    rw [hrep, hnote, hresv]
    rfl
  have hfin : finishedTurn none = none := rfl
  have hok : ∀ {α : Type} (a : α), fromStore (.ok a) = .done a := fun _ => rfl
  unfold prepareStart
  rw [bind_eq, run_bind_ok replayStart_run, hfin]
  dsimp only
  rw [bind_eq, run_bind_ok hthr, bind_eq,
    run_bind_ok hwrit, bind_eq, run_bind_ok preflightStartModel_run]
  dsimp only
  rw [bind_eq, run_bind_ok hcmd, bind_eq, run_bind_ok hload, hok, bind_eq, done_bind, hfin]
  dsimp only
  rw [reserveStart, bind_eq, run_bind_ok (buildStartReservation_run hval),
    reserveDispatch, bind_eq, run_bind_ok hreq, hok, bind_eq,
    done_bind, check, Program.run_liftExcept]

/-! ### No room for the system prompt -/

lemma systemPrompt_ne_empty : systemPrompt false ≠ "" := by
  unfold systemPrompt productChatSystemPromptV2
  refine fun hemp => absurd (String.append_eq_empty_iff.1 hemp).2 ?_
  decide +kernel

include hbytes in
lemma not_promptFits : ¬ PromptFits (full content) (start content) := by
  intro hfits
  have hthr : (EntityId.new "thread" : Except IdError ThreadId) = .ok thread.id := rfl
  have hroom := (hfits thread.id hthr).2
  have hsyst : (systemPrompt false).utf8ByteSize ≠ 0 :=
    fun hzero => systemPrompt_ne_empty (String.utf8ByteSize_eq_zero_iff.1 hzero)
  rw [eligibleMessages_full] at hroom
  simp only [contentBytes, List.map_cons, List.map_nil, List.sum_cons, List.sum_nil, message,
    hbytes, maxConversationContextBytes] at hroom
  omega

/-- A thread with one message of one MiB accepts a prompt of one MiB. The turn is reserved, and the
call returns an error in place of its plan. -/
theorem fresh_reservation_without_plan : ¬ ∀ (_ : UrlLibrary) (_ : Sha256Library)
    (operations : List StoreOperation) (input : StartConversationTurn) (key : String),
    (prepareStart input key).wp preparationContract
      (fun result σ => σ.2.isSome → ReturnsPlan result) (State.empty.run operations, none) := by
  intro hall
  have hbytes : (String.ofList (List.replicate (1024 * 1024) 'a')).utf8ByteSize = 1024 * 1024 :=
    Utf8.utf8ByteSize_replicate _ _
  generalize hcontent : String.ofList (List.replicate (1024 * 1024) 'a') = content at hbytes
  have hvalid : validateText "message.content" content 1 maxMessageBytes false = .ok () :=
    hcontent ▸ validateText_replicate (by decide) (by decide) (by decide) (by decide)
  have hnoted := prepareStart_run hvalid hbytes
  have hplan := Program.wp_run next_notedReply
    (hall url sha (operations content) (start content) "start-key") (by
      change ((prepareStart (start content) "start-key").run notedReply
        (full content, none)).2.2.isSome = true
      rw [hnoted]
      rfl)
  have hiff := Program.wp_run next_notedReply (prepareStart_wp (start content) "start-key"
    (full content)) (full content) hnoted
  exact not_promptFits hbytes (hiff.1 hplan)

end LargePrompt

end GrokDesktop
