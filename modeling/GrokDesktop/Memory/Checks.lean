import GrokDesktop.Domain.EventLog
import GrokDesktop.Memory.Forks

/-!
# What the checks of the store operations establish

For each operation that writes, the facts about the store and the caller's records that its checks
establish. Later modules use these facts and do not unfold the checks.
-/

namespace GrokDesktop

open Except Table ConversationTurn List

/-! ## Reservation -/

section Context

variable {s : State}

variable {res : Message × List Message}

variable {turn : ConversationTurn} {userMessage : Message}

/-- Freezing a context gives the prompt its sequence. -/
lemma captureContext_eq_ok {input : TurnReservationInput}
    (h : captureContext s input = .ok res) :
    ∃ seq, res.1 = { input.userMessage with sequence := seq } := by
  unfold captureContext at h
  split at h
  · simp only [captureConversationContext, bind_eq_ok, return_eq_ok] at h
    obtain ⟨seq, _, _, _, _, _, rfl⟩ := h
    exact ⟨seq, rfl⟩
  · simp only [captureRetryContext, bind_eq_ok, return_eq_ok] at h
    obtain ⟨_, _, _, _, _, _, _, _, seq, _, _, _, _, _, _, _, rfl⟩ := h
    exact ⟨seq, rfl⟩

end Context

/-- A derived message, which passes the check of persisted messages. -/
theorem Message.newDerived_eq_ok {id : MessageId} {threadId : ThreadId} {seq : ℕ}
    {role : MessageRole} {content : String} {sourceMessageId : MessageId}
    {srcTurnId : ConversationTurnId} {sourceContextSequence : Option ℕ}
    {kind : ConversationMessageDerivationKind} {now : UnixMillis} {msg : Message}
    (h : newDerived id threadId seq role content sourceMessageId srcTurnId
      sourceContextSequence kind now = .ok msg) :
    msg = {
      id := id
      threadId := threadId
      sequence := seq
      role := role
      content := content
      state := .active
      derivation := .fork kind sourceMessageId srcTurnId sourceContextSequence
      revision := 0
      createdAt := now
      updatedAt := now } ∧ msg.restore.isOk = true := by
  simp only [newDerived, bind_eq_ok, rejectIf_eq_ok, return_eq_ok] at h
  obtain ⟨_, hseq, _, hcont, _, hder, rfl⟩ := h
  have hchk := hder
  simp only [ConversationMessageDerivation.restore, bind_eq_ok, return_eq_ok] at hchk
  obtain ⟨_, -, rfl⟩ := hchk
  exact ⟨rfl, by simp [restore, hseq, hcont, hder, rejectIf, Except.toBool]⟩

section Checks

variable [UrlLibrary] {s s' : State}

/-- What the checks of a new reservation establish. -/
structure ReservationChecked (s : State) (input : TurnReservationInput)
    (prepared : PreparedReservation) : Prop where
  /-- The thread has no turn in progress. -/
  idle : ∀ turn ∈ s.threadTurns input.turn.threadId, turn.state.isTerminal = true
  /-- The thread and its project are stored. -/
  owned : ∃ thread project, s.threads.lookup input.turn.threadId = some thread ∧
    s.projects.lookup thread.projectId = some project ∧ thread.projectId = input.turn.projectId
  /-- The records have new identifiers. -/
  newMessage : s.messages.lookup input.userMessage.id = none
  newRun : s.runs.lookup input.run.id = none
  newTurn : s.conversationTurns.lookup input.turn.id = none
  /-- The turn links the message and the run. -/
  userMessageId : input.userMessage.id = input.turn.userMessageId
  runId : input.run.id = input.turn.runId
  /-- The context is frozen, and the store only gives the message its sequence. -/
  captured : captureContext s input = .ok (prepared.userMessage, prepared.context)
  sequenced : ∃ sequence, prepared.userMessage = { input.userMessage with sequence := sequence }
  /-- A thread is bound only once. -/
  bindThread : prepared.bindThread = true →
    s.conversationThreadBindings.lookup input.turn.threadId = none
  /-- The records are those of a reserved turn. -/
  canonical : isCanonicalConversationSnapshot {
    turn := input.turn
    userMessage := prepared.userMessage
    assistantMessage := none
    run := input.run
    effect := none
    lineage := input.lineage } = true
  /-- The first event is that of a reserved turn. -/
  created : createdEventLog input.turn input.turnEvent = .ok prepared.turnEvent

/-- The checks of an accepted reservation. -/
lemma prepareReservation_eq_ok {input : TurnReservationInput} {prepared : PreparedReservation}
    (h : prepareReservation s input = .ok prepared) : ReservationChecked s input prepared := by
  simp only [prepareReservation, bind_eq_ok, okOr_eq_ok, return_eq_ok, rejectIf_eq_ok] at h
  obtain ⟨_, hidle, thread, hthr, project, hproj, _, hrecs, binding, hbind, bindThread,
    hbindThread, bindModel, hbindModel, ⟨userMessage, context⟩, hcontext, _, hcanonical, event,
    hevent, rfl⟩ := h
  simp only [not_or, not_not, Bool.not_eq_true, contains_eq_false] at hrecs
  obtain ⟨-, -, hprojectId, -, hmess, -, hrid, -, -, hmsg, hrun, hturn⟩ := hrecs
  refine ⟨?_, ⟨thread, project, hthr, hproj, hprojectId.symm⟩, hmsg, hrun, hturn,
    hmess, hrid, hcontext, captureContext_eq_ok hcontext, ?_, by simpa using hcanonical,
    hevent⟩
  · intro turn hmem
    cases hsta : turn.state <;> simp_all [ConversationTurnState.isTerminal]
  · -- a thread that must be bound is not bound yet
    rintro rfl
    unfold bindThreadValue at hbindThread
    split at hbindThread
    · split at hbindThread <;> cases hbindThread
    · assumption

/-! ## The provider boundary and the terminal states -/

/-- One move of a turn: along an edge of its lifecycle, with the same links. -/
structure TurnMoved (turn turn' : ConversationTurn) : Prop where
  permits : turn.state.permits turn'.state = true
  id : turn'.id = turn.id
  projectId : turn'.projectId = turn.projectId
  threadId : turn'.threadId = turn.threadId
  userMessageId : turn'.userMessageId = turn.userMessageId
  runId : turn'.runId = turn.runId
  idempotencyKey : turn'.idempotencyKey = turn.idempotencyKey
  requestFingerprint : turn'.requestFingerprint = turn.requestFingerprint
  modelId : turn'.modelId = turn.modelId

omit [UrlLibrary] in
/-- A legal edge is a move. -/
theorem TurnMoved.of_moveTo {turn moved : ConversationTurn} {next : ConversationTurnState}
    {now : UnixMillis} (h : turn.moveTo next now = .ok moved) :
    TurnMoved turn moved ∧ moved.state = next ∧ moved.effectId = turn.effectId := by
  obtain ⟨hperm, -, -, rfl⟩ := moveTo_eq_ok.1 h
  exact ⟨⟨hperm, rfl, rfl, rfl, rfl, rfl, rfl, rfl, rfl⟩, rfl, rfl⟩

/-- What the checks of a provider start establish. -/
structure ProviderStartChecked (s : State) (commit : ProviderStartCommit)
    (current : ConversationTurnSnapshot) (turnEvents : List ConversationTurnEvent) : Prop where
  /-- The stored turn is the reservation the commit starts. -/
  loaded : loadSnapshot s commit.turn.id = .ok current
  reserved : current.turn.state = .reserved
  moved : TurnMoved current.turn commit.turn
  started : commit.turn.state = .providerStarted
  /-- The effect is new and linked by the turn. -/
  newEffect : s.effects.lookup commit.effect.id = none
  effectId : commit.turn.effectId = some commit.effect.id
  noAssistant : current.assistantMessage = none
  assistantMessageId : commit.turn.assistantMessageId = current.turn.assistantMessageId
  /-- The run is that of the turn. -/
  run : dispatchedRun current.run commit.turn.updatedAt = .ok commit.run
  canonical : isCanonicalConversationSnapshot { current with
    turn := commit.turn
    assistantMessage := none
    run := commit.run
    effect := some commit.effect } = true
  extended : extendedEventLog s commit.turn commit.turnEvent none = .ok turnEvents

/-- The checks of an accepted provider boundary. -/
lemma checkedProviderStart_eq_ok {commit : ProviderStartCommit}
    (h : checkedProviderStart s commit = .ok s') :
    ∃ cur turnEvents, ProviderStartChecked s commit cur turnEvents ∧
      s' = s.writeProviderStart commit turnEvents := by
  simp only [checkedProviderStart, bind_eq_ok, return_eq_ok, rejectIf_eq_ok, not_or,
    Bool.not_eq_true, Bool.not_eq_false', contains_eq_false] at h
  obtain ⟨cur, hload, _, ⟨heff, hexact⟩, _, hcan, turnEvents, hevs, rfl⟩ := h
  refine ⟨cur, turnEvents, ?_, rfl⟩
  simp only [isExactProviderStart, Bool.and_eq_true, decide_eq_true_eq, Option.isNone_iff_eq_none]
    at hexact
  obtain ⟨⟨⟨⟨⟨hsta, -⟩, hasst⟩, -⟩, -⟩, hrest⟩ := hexact
  split at hrest
  · cases hrest
  · simp only [Bool.and_eq_true, decide_eq_true_eq, toOption_eq_some] at hrest
    obtain ⟨⟨⟨hturn, hrun⟩, -⟩, -⟩ := hrest
    obtain ⟨moved, hmov, hcom⟩ := startProvider_eq_ok.1 hturn
    obtain ⟨hperm, -, -, rfl⟩ := moveTo_eq_ok.1 hmov
    refine ⟨hload, hsta, ⟨?_, ?_, ?_, ?_, ?_, ?_, ?_, ?_, ?_⟩, ?_, heff, ?_, hasst, ?_, hrun,
      hcan, hevs⟩ <;> rw [hcom]
    exact hperm

variable {plan : ConversationForkPlan} {source : ConversationTurnSnapshot}
  {kind : ConversationForkKind} {commit : TerminalTurnCommit} {ids : List MessageId}
  {inherited : List (MessageId × ConversationTurnId)} {srcCtx : List Message}

/-- The record a terminal commit must carry is a move of the turn that keeps its effect. -/
lemma expectedTerminalTurn_moved {cur turn : ConversationTurn}
    (h : expectedTerminalTurn cur commit = some turn) :
    TurnMoved cur turn ∧ turn.effectId = cur.effectId := by
  unfold expectedTerminalTurn at h
  simp only at h
  split at h
  · split at h
    · obtain ⟨-, -, -, moved, hmov, rfl⟩ :=
        complete_eq_ok.1 (toOption_eq_some.1 h)
      obtain ⟨hmove, -, heff⟩ := TurnMoved.of_moveTo hmov
      exact ⟨{ hmove with }, heff⟩
    · cases h
  · simp only [Option.bind_eq_bind, Option.bind_eq_some_iff, toOption_eq_some] at h
    obtain ⟨_, -, hfail⟩ := h
    obtain ⟨-, moved, hmov, rfl⟩ := fail_eq_ok.1 hfail
    obtain ⟨hmove, -, heff⟩ := TurnMoved.of_moveTo hmov
    exact ⟨{ hmove with }, heff⟩
  · obtain ⟨hmove, -, heff⟩ := TurnMoved.of_moveTo (toOption_eq_some.1 h)
    exact ⟨hmove, heff⟩
  · obtain ⟨hmove, -, heff⟩ := TurnMoved.of_moveTo (toOption_eq_some.1 h)
    exact ⟨hmove, heff⟩
  · cases h

omit [UrlLibrary] in
/-- The effect of a terminal commit is the current one, moved on. -/
lemma isExactTerminalEffectTransition_id {cur : ConversationTurnSnapshot} {at_ : UnixMillis}
    (h : isExactTerminalEffectTransition cur commit at_ = true) :
    commit.effect.map SideEffect.id = cur.effect.map SideEffect.id := by
  unfold isExactTerminalEffectTransition at h
  split at h
  · simp [*]
  · rename_i currentEffect nextEffect _ _ _ _ _
    have hid : nextEffect.id = currentEffect.id := by
      simp only [Bool.and_eq_true] at h
      have hmove := h.2
      split at hmove
      · exact (SideEffect.moveTo_eq_ok.1 (by simpa [SideEffect.finish] using hmove)).2 ▸ rfl
      · exact (SideEffect.moveTo_eq_ok.1 (by simpa [SideEffect.finish] using hmove)).2 ▸ rfl
      · exact (SideEffect.moveTo_eq_ok.1 (by simpa [SideEffect.interrupt] using hmove)).2 ▸ rfl
      · cases hmove
    simp [*]
  · cases h

/-- What the checks of a terminal commit establish. -/
structure TerminalChecked (s : State) (commit : TerminalTurnCommit)
    (current : ConversationTurnSnapshot) (assistant : Option Message)
    (turnEvents : List ConversationTurnEvent) : Prop where
  /-- The stored turn is the one the commit ends. -/
  loaded : loadSnapshot s commit.turn.id = .ok current
  moved : TurnMoved current.turn commit.turn
  /-- The run and the effect are those of the turn. -/
  run : ∃ runState, current.run.transition runState commit.turn.updatedAt = .ok commit.run
  effectId : commit.turn.effectId = current.turn.effectId
  effect : commit.effect.map SideEffect.id = current.effect.map SideEffect.id
  /-- The assistant message is new, and the last one of its thread. -/
  newAssistant : ∀ message, assistant = some message → s.messages.lookup message.id = none
  sequenced : ∀ message, assistant = some message →
    s.nextSequence message.threadId = some message.sequence
  canonical : isCanonicalConversationSnapshot { current with
    turn := commit.turn
    assistantMessage := assistant
    run := commit.run
    effect := commit.effect } = true
  extended : extendedEventLog s commit.turn commit.turnEvent (assistant.map Message.content)
    = .ok turnEvents

/-- The checks of an accepted terminal commit. -/
lemma checkedTerminal_eq_ok (h : checkedTerminal s commit = .ok s') :
    ∃ cur assistant turnEvents, TerminalChecked s commit cur assistant turnEvents ∧
      s' = s.writeTerminal commit assistant turnEvents := by
  simp only [checkedTerminal, bind_eq_ok, return_eq_ok, rejectIf_eq_ok, Bool.not_eq_true,
    Bool.not_eq_false'] at h
  obtain ⟨cur, hload, _, hexact, assistant, hasst, _, hcan, turnEvents, hevs, rfl⟩ := h
  refine ⟨cur, assistant, turnEvents, ?_, rfl⟩
  simp only [isExactTerminalTransition, Bool.and_eq_true, decide_eq_true_eq] at hexact
  obtain ⟨⟨-, hturn⟩, hrest⟩ := hexact
  obtain ⟨hmov, heffectId⟩ := expectedTerminalTurn_moved hturn
  split at hrest
  · cases hrest
  · simp only [Bool.and_eq_true, decide_eq_true_eq, toOption_eq_some] at hrest
    obtain ⟨⟨hrun, -⟩, heff⟩ := hrest
    have hseqd : ∀ msg, assistant = some msg →
        s.messages.lookup msg.id = none ∧
          s.nextSequence msg.threadId = some msg.sequence := by
      rintro msg rfl
      unfold sequencedAssistant at hasst
      split at hasst
      · cases hasst
      · simp only [bind_eq_ok, rejectIf_eq_ok, Bool.not_eq_true, contains_eq_false,
          okOr_eq_ok, return_eq_ok, Option.some.injEq] at hasst
        obtain ⟨_, hnew, _, hseq, rfl⟩ := hasst
        exact ⟨hnew, hseq⟩
    exact ⟨hload, hmov, ⟨_, hrun⟩, heffectId, isExactTerminalEffectTransition_id heff,
      fun msg h => (hseqd msg h).1, fun msg h => (hseqd msg h).2,
      hcan, hevs⟩

/-! ## Text -/

/-- What the checks of a new text append establish. -/
structure TextChecked (s : State) (append : TurnTextAppend) (events : List ConversationTurnEvent)
    (turn : ConversationTurn) (log log' : ConversationTurnEventLog) : Prop where
  stored : s.conversationTurns.lookup append.turnId = some turn
  started : turn.state = .providerStarted
  read : conversationEventLog s append.turnId = .ok log
  valid : log.validateSnapshot turn none = .ok ()
  appended : appendChunks log (splitConversationText append.text) = .ok (events, log')
  nonempty : events ≠ []

omit [UrlLibrary] in
/-- The checks of an accepted append. -/
lemma checkedTextAppend_eq_ok {append : TurnTextAppend} {evs : List ConversationTurnEvent}
    (h : checkedTextAppend s append = .ok (evs, true)) :
    ∃ turn log log', TextChecked s append evs turn log log' := by
  simp only [checkedTextAppend, bind_eq_ok, okOr_eq_ok, rejectIf_eq_ok, not_or, not_not,
    mapError_eq_ok] at h
  obtain ⟨_, -, turn, hturn, _, ⟨-, hsta⟩, log, hlog, _, hval, h⟩ := h
  split at h
  · simp [bind_eq_ok] at h
  · simp only [bind_eq_ok, rejectIf_eq_ok, mapError_eq_ok, pair_eq_ok] at h
    obtain ⟨_, -, ⟨events', log'⟩, happ, _, hne, rfl, -⟩ := h
    exact ⟨turn, log, log', hturn, hsta, hlog, hval, happ, by simpa using hne⟩

/-! ## Forks -/

/-- The messages that context copies write are new and have distinct identifiers. -/
lemma validateContextCopies_eq_ok {pairs : List (Message × Message)} {position : ℕ}
    {ids' : List MessageId}
    (h : validateContextCopies s plan source position ids pairs = .ok (ids', inherited)) :
    (∀ pair ∈ pairs, s.messages.lookup pair.1.id = none ∧ pair.1.id ∉ ids ∧
        pair.1.restore.isOk = true) ∧
      (pairs.map fun pair => pair.1.id).Nodup ∧
      ∀ id, id ∈ ids' ↔ id ∈ ids ∨ ∃ pair ∈ pairs, pair.1.id = id := by
  induction pairs generalizing position ids inherited with
  | nil =>
    simp only [validateContextCopies, Except.ok.injEq, Prod.mk.injEq] at h
    simp [h.1]
  | cons pair rest ih =>
    simp only [validateContextCopies, bind_eq_ok, validateNewForkMessage, rejectIf_eq_ok, not_or,
      not_not, Bool.not_eq_true, contains_eq_false, contains_eq_mem, decide_eq_false_iff_not,
      mapError_eq_ok, return_eq_ok] at h
    obtain ⟨_, hder, _, ⟨_, ⟨rfl, hnew, hfresh⟩, rfl⟩, _, -, ⟨_, restInherited⟩, hrest, heq⟩ := h
    obtain ⟨rfl, -⟩ := Prod.mk.inj heq
    obtain ⟨hall, hnd, hmem⟩ := ih hrest
    refine ⟨?_, ?_, fun id => ?_⟩
    · rintro _ (_ | ⟨_, hpair⟩)
      · exact ⟨hnew, hfresh, (Message.newDerived_eq_ok hder).2⟩
      · obtain ⟨hnew', hfresh', hrsd⟩ := hall _ hpair
        exact ⟨hnew', fun hin => hfresh' (mem_cons_of_mem _ hin), hrsd⟩
    · simp only [map_cons, nodup_cons, mem_map, not_exists, not_and]
      exact ⟨fun p hp heq => (hall p hp).2.1 (heq ▸ mem_cons_self), hnd⟩
    · grind

variable {srcTurnId : ConversationTurnId} {sourceMessageId : MessageId} {role : MessageRole}

omit [UrlLibrary] in
/-- The message that ends a plan is new. -/
lemma validateLastMessage_eq_ok {content : String}
    {sourceContextSequence : Option ℕ} {kind : ConversationMessageDerivationKind}
    {msg : Message}
    (h : validateLastMessage s plan ids role content sourceMessageId srcTurnId
      sourceContextSequence kind = .ok msg) :
    plan.messages.getLast? = some msg ∧ s.messages.lookup msg.id = none ∧
      msg.id ∉ ids ∧ msg.restore.isOk = true := by
  simp only [validateLastMessage, bind_eq_ok, okOr_eq_ok, validateNewForkMessage, rejectIf_eq_ok,
    not_or, not_not, Bool.not_eq_true, contains_eq_false, contains_eq_mem,
    decide_eq_false_iff_not, mapError_eq_ok, return_eq_ok] at h
  obtain ⟨_, hlast, _, hder, _, ⟨_, ⟨rfl, hnew, hfresh⟩, -⟩, rfl⟩ := h
  exact ⟨hlast, hnew, hfresh, (Message.newDerived_eq_ok hder).2⟩

/-- The messages a plan writes: all new, with distinct identifiers. -/
def NewMessages (s : State) (messages : List Message) : Prop :=
  (∀ message ∈ messages, s.messages.lookup message.id = none) ∧ (messages.map Message.id).Nodup

/-- The messages of a plan are new when its copies are and its last message is. -/
theorem NewMessages.of_copies {count : ℕ}
    (hcop : validateContextCopies s plan source 1 []
      ((plan.messages.take count).zip srcCtx) = .ok (ids, inherited))
    (hcnt : count ≤ srcCtx.length)
    (hlast : plan.messages.length ≤ count ∨ plan.messages.length = count + 1 ∧
      ∃ message, plan.messages.getLast? = some message ∧
        s.messages.lookup message.id = none ∧ message.id ∉ ids ∧ message.restore.isOk = true) :
    NewMessages s plan.messages ∧ ∀ message ∈ plan.messages, message.restore.isOk = true := by
  obtain ⟨hall, hnd, hids⟩ := validateContextCopies_eq_ok hcop
  have hfst : ((plan.messages.take count).zip srcCtx).map Prod.fst
      = plan.messages.take count :=
    map_fst_zip (by rw [length_take]; omega)
  have hmem : ∀ message ∈ plan.messages.take count, ∃ pair ∈
      (plan.messages.take count).zip srcCtx, pair.1 = message := by
    intro message hmsg
    rw [← hfst] at hmsg
    simpa using hmsg
  have htake : NewMessages s (plan.messages.take count) := by
    constructor
    · intro message hmsg
      obtain ⟨pair, hpair, rfl⟩ := hmem message hmsg
      exact (hall pair hpair).1
    · rw [← hfst, map_map]
      exact hnd
  have hrest : ∀ message ∈ plan.messages.take count, message.restore.isOk = true := by
    intro message hmsg
    obtain ⟨pair, hpair, rfl⟩ := hmem message hmsg
    exact (hall pair hpair).2.2
  rcases hlast with hlen | ⟨hlen, message, hlast, hnew, hfresh, hrsd⟩
  · rw [take_of_length_le hlen] at htake hrest
    exact ⟨htake, hrest⟩
  · have hsplit : plan.messages = plan.messages.take count ++ [message] := by
      rw [← dropLast_append_getLast? message hlast]
      simp [hlen]
    rw [hsplit]
    refine ⟨⟨?_, ?_⟩, by simpa [or_imp, forall_and] using ⟨hrest, hrsd⟩⟩
    · intro m hm
      rcases mem_append.1 hm with hm | hm
      · exact htake.1 m hm
      · rw [mem_singleton.1 hm]
        exact hnew
    · rw [map_append, nodup_append]
      refine ⟨htake.2, by simp, ?_⟩
      rintro a ha b hb rfl
      simp only [map_cons, map_nil, mem_singleton] at hb
      obtain ⟨m, hm, rfl⟩ := mem_map.1 ha
      obtain ⟨pair, hpair, rfl⟩ := hmem m hm
      exact hfresh ((hids _).2 (Or.inr ⟨pair, hpair, hb⟩))

variable {context : Option (List Message)}

lemma validateForkMessages_eq_ok
    (h : validateForkMessages s plan source srcCtx kind = .ok (inherited, context)) :
    NewMessages s plan.messages ∧ plan.messages ≠ [] ∧
      (∀ msg ∈ plan.messages, msg.restore.isOk = true) ∧
      ∀ msgs, context = some msgs → msgs = plan.messages := by
  simp only [validateForkMessages, bind_eq_ok, rejectIf_eq_ok, not_or, not_not] at h
  obtain ⟨_, -, _, ⟨hlen, hsome⟩, ⟨ids, inh⟩, hcop, h⟩ := h
  suffices hmsgs : (NewMessages s plan.messages ∧
      ∀ msg ∈ plan.messages, msg.restore.isOk = true) ∧
      ∀ msgs, context = some msgs → msgs = plan.messages from
    ⟨hmsgs.1.1, by simpa using hsome, hmsgs.1.2, hmsgs.2⟩
  cases kind with
  | branch =>
    simp only [bind_eq_ok] at h
    obtain ⟨_, -, msg, hlast, -, rfl⟩ := h
    refine ⟨NewMessages.of_copies hcop (by simp) (.inr ⟨by simpa using hlen, msg,
      validateLastMessage_eq_ok hlast⟩), by simp⟩
  | editAndBranch =>
    simp only [bind_eq_ok] at h
    obtain ⟨_, -, _, -, msg, hlast, _, -, -, rfl⟩ := h
    refine ⟨NewMessages.of_copies hcop (by simp) (.inr ⟨by simpa using hlen, msg,
      validateLastMessage_eq_ok hlast⟩), by simp [eq_comm]⟩
  | regenerate =>
    simp only [bind_eq_ok] at h
    obtain ⟨_, -, -, rfl⟩ := h
    refine ⟨NewMessages.of_copies hcop (by simp) (.inl (by simpa using hlen.le)), by simp [eq_comm]⟩

/-- What the checks of the turn a plan starts establish. -/
structure ForkTurnChecked (s : State) (plan : ConversationForkPlan)
    (turnPlan : ConversationForkTurnPlan) (event : ConversationTurnEvent)
    (userMessage : Message) : Prop where
  /-- The turn and its run are new. -/
  newTurn : s.conversationTurns.lookup turnPlan.turn.id = none
  newRun : s.runs.lookup turnPlan.run.id = none
  newKey : s.conversationTurnKeys.lookup turnPlan.turn.idempotencyKey = none
  runId : turnPlan.run.id = turnPlan.turn.runId
  /-- The turn belongs to the child thread and answers the last message of the plan. -/
  reserved : turnPlan.turn.state = .reserved
  threadId : turnPlan.turn.threadId = plan.childThread.id
  projectId : turnPlan.turn.projectId = plan.childThread.projectId
  inPlan : userMessage ∈ plan.messages
  userMessageId : turnPlan.turn.userMessageId = userMessage.id
  lineage : (turnPlan.lineage.restore turnPlan.turn.id).isOk = true
  canonical : isCanonicalConversationSnapshot {
    turn := turnPlan.turn
    userMessage := userMessage
    assistantMessage := none
    run := turnPlan.run
    effect := none
    lineage := turnPlan.lineage } = true
  created : createdEventLog turnPlan.turn .created = .ok event

lemma validateForkTurnPlan_eq_ok {credentialBindingId : String}
    {created : Option ConversationTurnEvent}
    (h : validateForkTurnPlan s plan source credentialBindingId context kind = .ok created)
    (hctx : ∀ msgs, context = some msgs → msgs = plan.messages)
    {turnPlan : ConversationForkTurnPlan} (hplan : plan.startedTurn = some turnPlan) :
    ∃ event userMessage, created = some event ∧
      ForkTurnChecked s plan turnPlan event userMessage := by
  unfold validateForkTurnPlan at h
  split at h
  · simp [hplan] at h
  · simp only [hplan, bind_eq_ok, okOr_eq_ok, Option.some.injEq, exists_eq_left', rejectIf_eq_ok,
      not_or, not_not, Bool.not_eq_true, Bool.not_eq_false', contains_eq_false] at h
    obtain ⟨msgs, hmsgs, userMessage, hlast, _, hturn, _, hrun, _, hcan, h⟩ := h
    obtain ⟨-, -, -, hlin, -, -, hproj, htid, huser, -, -, hsta, -, -, hnewT,
      hnewR, hnewK⟩ := hturn
    cases hev : createdEventLog turnPlan.turn .created with
    | error e => simp [hev] at h
    | ok event =>
      rw [hev] at h
      refine ⟨event, userMessage, (Except.ok.inj h).symm, hnewT, hnewR, hnewK, hrun.2.1,
        hsta, htid, hproj, ?_, huser, hlin, hcan, hev⟩
      rw [← hctx msgs hmsgs]
      exact mem_of_getLast? hlast

/-- What the checks of a new fork establish. -/
structure ForkChecked (s : State) (plan : ConversationForkPlan)
    (prepared : PreparedConversationFork)
    (source : ConversationTurnSnapshot) (parent : Thread) (kind : ConversationForkKind)
    (sourceMessage : Message) : Prop where
  prepares : prepareConversationFork s plan = .ok prepared
  /-- The child thread is new and well formed. -/
  newThread : s.threads.lookup plan.childThread.id = none
  unbound : s.conversationThreadBindings.lookup plan.childThread.id = none
  restored : plan.childThread.restore.isOk = true
  /-- The source turn, its thread and its project are stored. -/
  loaded : loadSnapshot s plan.sourceTurnId = .ok source
  parentStored : s.threads.lookup source.turn.threadId = some parent
  project : s.projects.contains source.turn.projectId = true
  parentProject : parent.projectId = source.turn.projectId
  childProject : plan.childThread.projectId = source.turn.projectId
  /-- The ancestry of the child continues that of the parent. -/
  eligible : forkSourceEligible kind source.turn.state = true
  message : forkSourceMessage kind source = some sourceMessage
  origin : plan.childThread.lineage.origin = .fork parent.id source.turn.id sourceMessage.id kind
  root : plan.childThread.lineage.rootThreadId = parent.lineage.rootThreadId
  depth : plan.childThread.lineage.forkDepth = parent.lineage.forkDepth + 1
  role : kind.sourceMessageRole = sourceMessage.role
  binding : s.conversationThreadBindings.lookup parent.id = some prepared.credentialBindingId
  /-- The messages are new. -/
  messages : NewMessages s plan.messages
  /-- The turn it starts, if any, is new. -/
  turn : ∀ turnPlan, plan.startedTurn = some turnPlan → ∃ context event userMessage,
    prepared.context = some context ∧ prepared.createdTurnEvent = some event ∧
      ForkTurnChecked s plan turnPlan event userMessage

lemma validateForkChild_eq_ok {parent : Thread}
    (h : validateForkChild s plan = .ok (source, parent, srcCtx, kind)) :
    s.threads.lookup plan.childThread.id = none ∧
      s.conversationThreadBindings.lookup plan.childThread.id = none ∧
      plan.childThread.restore.isOk = true ∧ loadSnapshot s plan.sourceTurnId = .ok source ∧
      s.threads.lookup source.turn.threadId = some parent ∧
      s.projects.contains source.turn.projectId = true ∧
      parent.projectId = source.turn.projectId ∧
      plan.childThread.projectId = source.turn.projectId ∧
      ∃ srcMsg, forkSourceMessage kind source = some srcMsg ∧
        plan.childThread.lineage.origin = .fork parent.id source.turn.id srcMsg.id kind ∧
        plan.childThread.lineage.rootThreadId = parent.lineage.rootThreadId ∧
        plan.childThread.lineage.forkDepth = parent.lineage.forkDepth + 1 ∧
        kind.sourceMessageRole = srcMsg.role := by
  simp only [validateForkChild, bind_eq_ok, rejectIf_eq_ok, okOr_eq_ok]
    at h
  obtain ⟨_, -, _, hrsd, kind', -, _, hnew, srcTurn, hsour, source', hsrc, _, -,
    parent', hpar, _, -, _, -, project, hproj, _, hrecs, _, -, _, -, srcMsg,
    hsrcM, expected, hexp, _, hch, rfl, rfl, -, rfl⟩ := h
  simp only [not_or, not_not, Bool.not_eq_true, contains_eq_false] at hnew hrecs hch
  simp only [mapError_eq_ok, Thread.newFork, bind_eq_ok, return_eq_ok] at hexp
  obtain ⟨_, -, lineage, hlin, rfl⟩ := hexp
  -- the ancestry of the child extends that of its parent
  simp only [ConversationThreadLineage.fork, ConversationThreadLineage.restore, bind_eq_ok,
    rejectIf_eq_ok, not_or, not_not, return_eq_ok] at hlin
  obtain ⟨_, -, _, ⟨-, hrole⟩, _, -, _, -, rfl⟩ := hlin
  have hturn := (conversationSnapshotWith_eq_ok.1 hsrc).1
  rw [← hturn] at hsour hsrc
  have hlin := congrArg Thread.lineage hch
  exact ⟨hnew.2.1, hnew.2.2.1, by simpa using hrsd,
    loadSnapshot_eq_ok.2 ⟨hsour, hsrc⟩, hpar, contains_iff.2 ⟨project, hproj⟩,
    hrecs.2.1, hrecs.2.2.1, srcMsg, hsrcM, by rw [hlin],
    by rw [hlin], by rw [hlin], hrole⟩

variable {prepared : PreparedConversationFork}

/-- The checks of an accepted fork. -/
lemma checkedFork_eq_ok (h : checkedFork s plan = .ok (prepared, s')) :
    (∃ source parent kind srcMsg, ForkChecked s plan prepared source parent kind srcMsg) ∧
      s' = s.writeFork plan prepared := by
  simp only [checkedFork, bind_eq_ok, rejectIf_eq_ok] at h
  obtain ⟨_, hprep, _, hsome, _, -, rfl, rfl⟩ := h
  have hparts := hprep
  simp only [prepareConversationFork, bind_eq_ok, return_eq_ok, Prod.exists] at hparts
  obtain ⟨source, parent, srcCtx, kind, hch, _, helig, binding, hcred, _,
    hbind, _, -, inherited, context, hmsgs, created, hturn, _, -, rfl⟩ := hparts
  obtain ⟨hnew, hbound, hrsd, hload, hpar, hproj, hparentProject, hchil,
    srcMsg, hsrcM, hori, hroot, hdepth, hrole⟩ := validateForkChild_eq_ok hch
  obtain ⟨hnewM, -, -, hctx⟩ := validateForkMessages_eq_ok hmsgs
  refine ⟨⟨source, parent, kind, srcMsg, hprep, hnew, hbound, hrsd, hload, hpar,
    hproj, hparentProject, hchil, by simpa using helig, hsrcM, hori,
    hroot, hdepth, hrole, by simpa using hbind, hnewM, ?_⟩, rfl⟩
  intro turnPlan hplan
  obtain ⟨event, userMessage, hcre, hchk⟩ :=
    validateForkTurnPlan_eq_ok hturn hctx hplan
  have hcont : context ≠ none := by
    simpa [hplan] using (not_or.1 hsome).1
  obtain ⟨msgs, hmsgs⟩ := Option.ne_none_iff_exists'.1 hcont
  exact ⟨msgs, event, userMessage, hmsgs, hcre, hchk⟩

/-- The checks that a checked fork passed, at its own source, parent and kind. -/
theorem ForkChecked.parts {parent : Thread}
    {srcMsg : Message} (h : ForkChecked s plan prepared source parent kind srcMsg) :
    ∃ srcCtx, validateForkChild s plan = .ok (source, parent, srcCtx, kind) ∧
      source.lineage.credentialBindingId = some prepared.credentialBindingId ∧
      validateForkFamily s parent = .ok () ∧
      validateForkMessages s plan source srcCtx kind
        = .ok (prepared.inheritedOutcomes, prepared.context) ∧
      validateForkTurnPlan s plan source prepared.credentialBindingId prepared.context kind
        = .ok prepared.createdTurnEvent ∧
      validateProjectedForkMetadataBudget s plan prepared.inheritedOutcomes = .ok () ∧
      prepared.modelId = source.turn.modelId := by
  have hprep := h.prepares
  simp only [prepareConversationFork, bind_eq_ok, okOr_eq_ok, return_eq_ok, Prod.exists] at hprep
  obtain ⟨source', parent', srcCtx, kind', hch, _, -, binding, hcred, _, -, _,
    hfam, inherited, context, hmsgs, created, hturn, _, hbudg, rfl⟩ := hprep
  obtain ⟨-, -, -, hload, hpar, -, -, -, _, -, hori, -⟩ := validateForkChild_eq_ok hch
  obtain rfl : source = source' := Except.ok.inj (h.loaded.symm.trans hload)
  obtain rfl : parent = parent' := Option.mem_unique h.parentStored hpar
  obtain rfl : kind = kind' := by
    have heq := h.origin.symm.trans hori
    simp only [ConversationThreadOrigin.fork.injEq] at heq
    exact heq.2.2.2
  exact ⟨srcCtx, hch, hcred, hfam, hmsgs, hturn, hbudg, rfl⟩

end Checks

end GrokDesktop
