import GrokDesktop.Memory.Family

/-!
# Prompts that are sent again

The frozen context of a turn ends with its prompt and follows the sequences of its thread. A prompt
of another turn is in it only if that turn had completed when the context was captured, and a copy
only if the turn of every prompt that it goes back to had completed at the fork that made it. Both
hold because a message becomes a prompt when it is stored or never, so what a store knows of the
prompts in a context when it freezes it stays true.
-/

namespace GrokDesktop

open Except Table ConversationMessageDerivation State List
open Relation (TransGen ReflTransGen)

section Prompts

variable {s s' : State}

/-! ## Sequences -/

/-- The sequence comes after all messages of a thread. -/
def State.IsAfter (s : State) (threadId : ThreadId) (sequence : ℕ) : Prop :=
  ∀ id message, s.messages.lookup id = some message → message.threadId = threadId →
    message.sequence < sequence

variable {message prompt : Message} {turn : ConversationTurn} {context : List Message}
  {ends : Set ConversationTurn} {threadId : ThreadId} {operations : List StoreOperation}

lemma isAfter_of_newestSequence {newest : ℕ} (h : (s.newestSequence threadId).getD 0 = newest) :
    s.IsAfter threadId (newest + 1) := by
  intro id message hid hthr
  have hmem : message.sequence ∈ (s.threadMessages threadId).map Message.sequence :=
    mem_map.2 ⟨message, mem_filter.2
      ⟨mem_values.2 ⟨id, hid⟩, decide_eq_true hthr⟩, rfl⟩
  have hle : message.sequence ≤ ((s.threadMessages threadId).map Message.sequence).max?.getD 0 :=
    le_max?_getD_of_mem hmem
  rw [← newestSequence, h] at hle
  exact Nat.lt_succ_of_le hle

lemma isAfter_of_nextSequence {sequence : ℕ} (h : s.nextSequence threadId = some sequence) :
    s.IsAfter threadId sequence := by
  obtain ⟨-, rfl⟩ := checkedAdd_eq_some.1 h
  exact isAfter_of_newestSequence rfl

/-- Two messages of one thread have different sequences. -/
def Sequenced (messages : Table MessageId Message) : Prop :=
  ∀ id id' message message', messages.lookup id = some message →
    messages.lookup id' = some message' → message.threadId = message'.threadId →
    message.sequence = message'.sequence → id = id'

/-- A message after all others of its thread keeps the sequences apart. -/
theorem Sequenced.insert (h : Sequenced s.messages)
    (hafter : s.IsAfter message.threadId message.sequence) :
    Sequenced (s.messages.insert message.id message) := by
  intro id id' first second hfst hsec hthr hseq
  rcases lookup_insert_cases hfst with hold | ⟨rfl, rfl⟩ <;>
    rcases lookup_insert_cases hsec with hold' | ⟨rfl, rfl⟩
  · exact h _ _ _ _ hold hold' hthr hseq
  · exact absurd hseq (hafter _ _ hold hthr).ne
  · exact absurd hseq (hafter _ _ hold' hthr.symm).ne'
  · rfl

/-- The messages of a thread. -/
lemma mem_threadMessages (hkey : MessagesKeyed s) :
    message ∈ s.threadMessages threadId ↔
      s.messages.lookup message.id = some message ∧ message.threadId = threadId := by
  rw [threadMessages, mem_filter, mem_values, decide_eq_true_eq]
  refine and_congr_left fun _ => ⟨?_, fun h => ⟨_, h⟩⟩
  rintro ⟨id, hid⟩
  rwa [hkey _ _ hid]

variable {msgs : List Message}

/-- Messages of a thread have distinct identifiers. -/
theorem MessagesKeyed.nodup_sorted (hkey : MessagesKeyed s)
    (hsub : msgs <+ s.threadMessages threadId) : ((sortBySequence msgs).map Message.id).Nodup := by
  have hids : (msgs.map Message.id).Nodup :=
    (nodup_map_values hkey).sublist ((hsub.trans filter_sublist).map _)
  exact ((perm_insertionSort _ _).map Message.id).nodup_iff.2 hids

/-- Sorted messages of a thread have increasing sequences. -/
theorem Sequenced.sorted (h : Sequenced s.messages) (hkey : MessagesKeyed s)
    (hsub : msgs <+ s.threadMessages threadId) :
    (sortBySequence msgs).Pairwise fun a b => a.sequence < b.sequence := by
  have hle : (sortBySequence msgs).Pairwise fun a b => a.sequence ≤ b.sequence :=
    pairwise_insertionSort _ _
  refine (hle.and (pairwise_map.1 (hkey.nodup_sorted hsub))).imp_of_mem fun {a b} ha hb hab => ?_
  obtain ⟨hsto, hthr⟩ :=
    (mem_threadMessages hkey).1 (hsub.subset ((perm_insertionSort _ _).mem_iff.1 ha))
  obtain ⟨hsto', hthr'⟩ :=
    (mem_threadMessages hkey).1 (hsub.subset ((perm_insertionSort _ _).mem_iff.1 hb))
  refine lt_of_le_of_ne hab.1 fun hsame => hab.2 ?_
  exact h _ _ _ _ hsto hsto' (hthr.trans hthr'.symm) hsame

/-! ## Settled prompts -/

/-- Every turn that the message is the prompt of has completed. -/
def PromptSettled (s : State) (messageId : MessageId) : Prop :=
  ∀ id turn, s.conversationTurns.lookup id = some turn → turn.userMessageId = messageId →
    turn.state = .completed

/-- What is known of the frozen context of a turn. -/
structure FrozenContext (s : State) (turn : ConversationTurn) (context : List Message) : Prop where
  prompt : ∃ prompt, context.getLast? = some prompt ∧
    s.messages.lookup turn.userMessageId = some prompt
  threadId : ∀ message ∈ context, message.threadId = turn.threadId
  ordered : context.Pairwise fun a b => a.sequence < b.sequence
  settled : ∀ message ∈ context.dropLast, PromptSettled s message.id

/-- A copied message is at the place of the frozen context that its source is at. -/
def Placed (s : State) (message : Message) (sourceMessageId : MessageId)
    (sourceTurnId : ConversationTurnId) : Prop :=
  ∃ context source, s.conversationContexts.lookup sourceTurnId = some context ∧
    context[message.sequence - 1]? = some source ∧ source.id = sourceMessageId

/-- What is known of a derived message: it is edited, or what it copies is settled. -/
structure CopyRecord (s : State) (message : Message) : Prop where
  settled : ∀ kind sourceMessageId sourceTurnId sequence,
    message.derivation = .fork kind sourceMessageId sourceTurnId sequence → kind ≠ .editedUser →
    PromptSettled s sourceMessageId
  placed : ∀ sourceMessageId sourceTurnId sequence,
    message.derivation = .fork .contextCopy sourceMessageId sourceTurnId sequence →
    Placed s message sourceMessageId sourceTurnId

lemma CopyRecord.of_original (h : message.derivation = .original) :
    CopyRecord s message := by
  constructor <;> simp [h]

/-- What is known of prompts. -/
structure PromptRecords (s : State) : Prop where
  sequenced : Sequenced s.messages
  /-- A message is the prompt of one turn at most. -/
  exclusive : ∀ id id' turn turn', s.conversationTurns.lookup id = some turn →
    s.conversationTurns.lookup id' = some turn' →
    turn.userMessageId = turn'.userMessageId → id = id'
  context : ∀ id turn, s.conversationTurns.lookup id = some turn →
    ∃ context, s.conversationContexts.lookup id = some context ∧ FrozenContext s turn context
  copy : ∀ id message, s.messages.lookup id = some message → CopyRecord s message

/-- The empty store has the records. -/
lemma PromptRecords.empty : PromptRecords State.empty where
  sequenced id _ _ _ h := by simp [State.empty] at h
  exclusive id _ _ _ h := by simp [State.empty] at h
  context id _ h := by simp [State.empty] at h
  copy id _ h := by simp [State.empty] at h

/-! ## One write -/

/-- What a write does to prompts: it keeps those of the stored turns, and the turn that it starts,
if any, brings a new one. -/
structure PromptStep (s s' : State) (started : Option ConversationTurn) : Prop where
  messages : s.messages.Extends s'.messages
  contexts : s.conversationContexts.Extends s'.conversationContexts
  turns : ∀ id turn', s'.conversationTurns.lookup id = some turn' →
    (∃ turn, s.conversationTurns.lookup id = some turn ∧
      turn'.userMessageId = turn.userMessageId ∧ turn'.threadId = turn.threadId ∧
      (turn.state = .completed → turn'.state = .completed)) ∨
    started = some turn' ∧ turn'.id = id
  fresh : ∀ turn, started = some turn → s.messages.lookup turn.userMessageId = none

variable {started : Option ConversationTurn}

/-- A write keeps settled what is stored. -/
theorem PromptStep.settled (h : PromptStep s s' started) {message : Message} {id : MessageId}
    (hsto : s.messages.lookup id = some message) (hset : PromptSettled s id) :
    PromptSettled s' id := by
  intro turnId turn' hturn hpr
  rcases h.turns _ _ hturn with ⟨turn, hold, hsame, -, hdone⟩ | ⟨hstd, -⟩
  · exact hdone (hset _ _ hold (hsame.symm.trans hpr))
  · have hnone := h.fresh _ hstd
    rw [hpr, hsto] at hnone
    cases hnone

variable {id : ConversationTurnId}

section

variable (hmsgs : s.messages.Extends s'.messages)
include hmsgs

/-- The turns and contexts are as they were. -/
theorem PromptStep.of_eq (hctxs : s'.conversationContexts = s.conversationContexts)
    (hts : s'.conversationTurns = s.conversationTurns) : PromptStep s s' none where
  messages := hmsgs
  contexts := hctxs ▸ .refl _
  turns _ turn' hturn := .inl ⟨turn', hts ▸ hturn, rfl, rfl, fun h => h⟩
  fresh _ h := by cases h

/-- A stored turn moves on. -/
lemma PromptStep.of_moved {turn turn' : ConversationTurn}
    (hctxs : s'.conversationContexts = s.conversationContexts)
    (hts : s'.conversationTurns = s.conversationTurns.insert turn'.id turn')
    (hsto : s.conversationTurns.lookup turn'.id = some turn) (hmov : TurnMoved turn turn') :
    PromptStep s s' none where
  messages := hmsgs
  contexts := hctxs ▸ .refl _
  turns id next hnext := by
    rw [hts] at hnext
    rcases lookup_insert_cases hnext with hold | ⟨rfl, rfl⟩
    · exact .inl ⟨next, hold, rfl, rfl, fun h => h⟩
    · refine .inl ⟨turn, hsto, hmov.userMessageId, hmov.threadId, fun hdone => ?_⟩
      -- a completed turn does not move
      have hperm := hmov.permits
      rw [ConversationTurnState.permits_of_isTerminal (by rw [hdone]; rfl)] at hperm
      cases hperm
  fresh _ h := by cases h

/-- A new turn is started. -/
lemma PromptStep.of_started {turn : ConversationTurn} {context : List Message}
    (hctxs : s'.conversationContexts = s.conversationContexts.insert turn.id context)
    (hnew : s.conversationContexts.lookup turn.id = none)
    (hts : s'.conversationTurns = s.conversationTurns.insert turn.id turn)
    (hfresh : s.messages.lookup turn.userMessageId = none) : PromptStep s s' (some turn) where
  messages := hmsgs
  contexts := hctxs ▸ .insert _ hnew
  turns id next hnext := by
    rw [hts] at hnext
    rcases lookup_insert_cases hnext with hold | ⟨rfl, rfl⟩
    · exact .inl ⟨next, hold, rfl, rfl, fun h => h⟩
    · exact .inr ⟨rfl, rfl⟩
  fresh _ h := by rwa [← Option.some.inj h]

end

/-! ## Reservations -/

/-- The context that is captured for a prompt: settled messages of its thread in their order, then
the prompt. -/
structure Captured (s : State) (threadId : ThreadId) (prompt : Message) (context : List Message)
    (earlier : List Message) : Prop where
  context_eq : context = earlier ++ [prompt]
  after : s.IsAfter threadId prompt.sequence
  ordered : earlier.Pairwise fun a b => a.sequence < b.sequence
  earlier : ∀ message ∈ earlier, s.messages.lookup message.id = some message ∧
    message.threadId = threadId ∧ PromptSettled s message.id

/-- A captured context is frozen with the turn that brings its prompt. -/
theorem Captured.frozen {earlier : List Message}
    (h : Captured s turn.threadId prompt context earlier) (hstep : PromptStep s s' (some turn))
    (hthr : prompt.threadId = turn.threadId)
    (hpr : s'.messages.lookup turn.userMessageId = some prompt) :
    FrozenContext s' turn context := by
  obtain ⟨rfl, hafter, hord, hear⟩ := h
  refine ⟨⟨prompt, by simp, hpr⟩, ?_, ?_, ?_⟩
  · intro message hmem
    rcases mem_append.1 hmem with hmem | hmem
    · exact (hear message hmem).2.1
    · rw [mem_singleton.1 hmem, hthr]
  · refine pairwise_append.2 ⟨hord, pairwise_singleton _ _, ?_⟩
    intro message hmem last hlast
    obtain ⟨hsto, hthr', -⟩ := hear message hmem
    rw [mem_singleton.1 hlast]
    exact hafter _ _ hsto hthr'
  · intro message hmem
    rw [dropLast_concat] at hmem
    obtain ⟨hsto, -, hset⟩ := hear message hmem
    exact hstep.settled hsto hset

@[simp] lemma State.writeReservation_messages (s : State) (input : TurnReservationInput)
    (prep : PreparedReservation) : (s.writeReservation input prep).messages
      = s.messages.insert prep.userMessage.id prep.userMessage := rfl

@[simp] lemma State.writeReservation_conversationContexts (s : State)
    (input : TurnReservationInput) (prep : PreparedReservation) :
    (s.writeReservation input prep).conversationContexts
      = s.conversationContexts.insert input.turn.id prep.context := rfl

variable [UrlLibrary]

/-- A write that starts a turn with a frozen context and makes right copies keeps the records. -/
theorem PromptRecords.step (h : PromptRecords s) (hs : Consistent s) (hrecs : ForkRecords s)
    (hstep : PromptStep s s' started) (hseqd : Sequenced s'.messages)
    (hstd : ∀ turn, started = some turn → ∃ context,
      s'.conversationContexts.lookup turn.id = some context ∧ FrozenContext s' turn context)
    (hcopy : ∀ id message, s'.messages.lookup id = some message →
      s.messages.lookup id = some message ∨ CopyRecord s' message) : PromptRecords s' := by
  have hpr : ∀ {id turn}, s.conversationTurns.lookup id = some turn →
      ∃ prompt, s.messages.lookup turn.userMessageId = some prompt := by
    intro id turn hturn
    obtain ⟨-, snap, rfl, hread⟩ := hs.turn _ _ hturn
    exact ⟨_, hread.userMessage⟩
  refine ⟨hseqd, ?_, ?_, ?_⟩
  · intro id id' turn turn' hturn hturn' hsame
    rcases hstep.turns _ _ hturn with ⟨old, hold, heq, -⟩ | ⟨hnew, hid⟩ <;>
      rcases hstep.turns _ _ hturn' with ⟨old', hold', heq', -⟩ | ⟨hnew', hid'⟩
    · exact h.exclusive _ _ _ _ hold hold' (by rw [← heq, hsame, heq'])
    · obtain ⟨prompt, hsto⟩ := hpr hold
      rw [← heq, hsame, hstep.fresh _ hnew'] at hsto
      cases hsto
    · obtain ⟨prompt, hsto⟩ := hpr hold'
      rw [← heq', ← hsame, hstep.fresh _ hnew] at hsto
      cases hsto
    · rw [← hid, ← hid', Option.mem_unique hnew hnew']
  · intro id turn' hturn
    rcases hstep.turns _ _ hturn with ⟨turn, hold, hsame, hthr, -⟩ | ⟨hnew, rfl⟩
    · obtain ⟨context, hctx, hfroz⟩ := h.context _ _ hold
      refine ⟨context, hstep.contexts _ _ hctx, ?_, ?_, hfroz.ordered, ?_⟩
      · obtain ⟨prompt, hlast, hsto⟩ := hfroz.prompt
        exact ⟨prompt, hlast, hsame ▸ hstep.messages _ _ hsto⟩
      · exact fun message hmem => (hfroz.threadId message hmem).trans hthr.symm
      · intro message hmem
        exact hstep.settled (hrecs.context _ _ hctx _ (mem_of_mem_dropLast hmem))
          (hfroz.settled message hmem)
    · exact hstd _ hnew
  · intro id message hid
    rcases hcopy _ _ hid with hold | hnew
    · have hrec := h.copy _ _ hold
      refine ⟨fun kind sourceMessageId srcTurnId seq hder hkind => ?_,
        fun sourceMessageId srcTurnId seq hder => ?_⟩
      · obtain ⟨_, source, hcpd⟩ :=
          (hrecs.message _ _ hold).copied _ _ _ _ hder
        exact hstep.settled hcpd.sourceStored
          (hrec.settled _ _ _ _ hder hkind)
      · obtain ⟨context, source, hctx, hrest⟩ := hrec.placed _ _ _ hder
        exact ⟨context, source, hstep.contexts _ _ hctx, hrest⟩
    · exact hnew

/-- A message that is not an unresolved prompt is settled. -/
theorem Consistent.settled (hs : Consistent s)
    (hsto : s.messages.lookup message.id = some message)
    (hthr : message.threadId = threadId) (h : isUnresolvedPrompt s threadId message = false) :
    PromptSettled s message.id := by
  intro id turn hturn hpr
  obtain ⟨-, snap, rfl, hread⟩ := hs.turn _ _ hturn
  have hmsg : snap.userMessage = message := by
    have hget := hread.userMessage
    rw [hpr, hsto] at hget
    exact (Option.some.inj hget).symm
  simp only [isUnresolvedPrompt, any_eq_false, mem_values, Bool.and_eq_true,
    decide_eq_true_eq, not_and, not_not, forall_exists_index] at h
  refine h _ id hturn ⟨?_, hpr⟩
  rw [← hread.prompt.threadId, hmsg, hthr]

/-- What the captured context of a turn is. -/
lemma captureConversationContext_captured (hs : Consistent s) (hrecs : ForkRecords s)
    (h : PromptRecords s) {userMsg : Message}
    (hcap : captureConversationContext s turn userMsg = .ok (prompt, context)) :
    ∃ earlier, Captured s turn.threadId prompt context earlier := by
  simp only [captureConversationContext, bind_eq_ok, okOr_eq_ok] at hcap
  obtain ⟨seq, hseq, _, -, _, -, rfl, rfl⟩ := hcap
  have hmem : ∀ message ∈ sortBySequence (eligibleMessages s turn.threadId),
      message ∈ eligibleMessages s turn.threadId :=
    fun message hmsg => (perm_insertionSort _ _).mem_iff.1 hmsg
  refine ⟨_, rfl, isAfter_of_nextSequence hseq, ?_, ?_⟩
  · exact h.sequenced.sorted hrecs.keyed filter_sublist
  · intro message hmsg
    obtain ⟨hsto, hthr, -, hres⟩ :=
      mem_eligibleMessages hrecs.keyed (hmem message hmsg)
    exact ⟨hsto, hthr, hs.settled hsto hthr hres⟩

/-- The context of the source of a retry, with the new prompt in the place of the old one. -/
lemma captureRetryContext_captured (hrecs : ForkRecords s) (h : PromptRecords s)
    {lineage : ConversationTurnLineage} {srcTurnId : ConversationTurnId}
    {expectedSourceRevision : ℕ} {userMsg : Message}
    (hcap : captureRetryContext s turn lineage srcTurnId expectedSourceRevision userMsg
      = .ok (prompt, context)) :
    ∃ earlier, Captured s turn.threadId prompt context earlier := by
  simp only [captureRetryContext, bind_eq_ok, okOr_eq_ok, rejectIf_eq_ok, not_or, not_not] at hcap
  obtain ⟨source, hsrc, _, -, sourceUser, hsour, _, hchec, seq, hseq, frozen,
    hfroz, _, hlast, _, -, rfl, rfl⟩ := hcap
  obtain ⟨-, -, hthr, -, -, hnew, -⟩ := hchec
  obtain ⟨frozen', hfroz', hctx⟩ := h.context _ _ hsrc
  obtain rfl := Option.mem_unique hfroz hfroz'
  obtain ⟨-, rfl⟩ := checkedAdd_eq_some.1 hseq
  rw [← hthr]
  refine ⟨_, rfl, isAfter_of_newestSequence (by rw [hnew]; rfl), ?_, ?_⟩
  · exact hctx.ordered.sublist (dropLast_sublist _)
  · intro message hmem
    have hmem' := mem_of_mem_dropLast hmem
    exact ⟨hrecs.context _ _ hfroz _ hmem', hctx.threadId _ hmem', hctx.settled _ hmem⟩

variable {prep : PreparedReservation} {input : TurnReservationInput}

lemma ReservationChecked.captured_context (hs : Consistent s) (hrecs : ForkRecords s)
    (h : PromptRecords s) (hchk : ReservationChecked s input prep) :
    ∃ earlier, Captured s input.turn.threadId prep.userMessage prep.context earlier := by
  have hcapt := hchk.captured
  unfold captureContext at hcapt
  split at hcapt
  · exact captureConversationContext_captured hs hrecs h hcapt
  · exact captureRetryContext_captured hrecs h hcapt

/-- A reservation keeps the records. -/
lemma ReservationChecked.promptRecords (hs : Consistent s) (hrecs : ForkRecords s)
    (h : PromptRecords s) (hown : ContextsOwned s)
    (hchk : ReservationChecked s input prep)
    (hacc : acceptsReservationInput input = true) :
    PromptStep s (s.writeReservation input prep) (some input.turn) ∧
      PromptRecords (s.writeReservation input prep) := by
  obtain ⟨seq, hseqd⟩ := hchk.sequenced
  obtain ⟨hthr, horig, -⟩ := acceptsReservationInput_parts hacc
  obtain ⟨earlier, hcapt⟩ := hchk.captured_context hs hrecs h
  have hid : prep.userMessage.id = input.userMessage.id := by rw [hseqd]
  have htid : prep.userMessage.threadId = input.turn.threadId := by
    rw [hseqd, hthr]
  have hmsgs := s.writeReservation_messages input prep
  have hnew : s.messages.lookup prep.userMessage.id = none := hid ▸ hchk.newMessage
  have hstep : PromptStep s (s.writeReservation input prep) (some input.turn) :=
    .of_started (hmsgs ▸ .insert _ hnew) rfl (hown _ hchk.newTurn) rfl
      (hchk.userMessageId ▸ hchk.newMessage)
  refine ⟨hstep, h.step hs hrecs hstep ?_ ?_ ?_⟩
  · exact h.sequenced.insert (htid ▸ hcapt.after)
  · rintro turn ⟨⟩
    refine ⟨_, lookup_insert_self _ _ _, hcapt.frozen hstep htid ?_⟩
    rw [← hchk.userMessageId, ← hid]
    exact lookup_insert_self _ _ _
  · intro id message hmsg
    rcases lookup_insert_cases (hmsgs ▸ hmsg) with hold | ⟨-, rfl⟩
    · exact .inl hold
    · refine .inr (.of_original ?_)
      rw [hseqd]
      exact horig

/-! ## Forks -/

section Fork

variable {plan : ConversationForkPlan} {prep : PreparedConversationFork}
  {source : ConversationTurnSnapshot} {parent : Thread} {kind : ConversationForkKind}
  {srcMsg : Message} {srcCtx : List Message}

/-- The messages of a plan have the sequences of their positions. -/
theorem ForkMessages.sequence {inherited : List (MessageId × ConversationTurnId)}
    {context : Option (List Message)}
    (h : ForkMessages s plan source kind srcCtx inherited context) {message : Message} {i : ℕ}
    (hi : plan.messages[i]? = some message) :
    message.threadId = plan.childThread.id ∧ message.sequence = i + 1 := by
  have hlt : i < (forkOrigins kind source srcCtx).length := by
    rw [← h.length_eq]
    exact (List.getElem?_eq_some_iff.1 hi).1
  have hder := h.derived _ _ _ hi (List.getElem?_eq_getElem hlt)
  exact ⟨hder.threadId, hder.sequence⟩

section

variable (h : ForkChecked s plan prep source parent kind srcMsg)
include h

/-- The messages of a fork keep the sequences apart, since its thread is new. -/
theorem ForkChecked.sequenced (hrecs : ForkRecords s)
    (hcop : ForkCopies s plan prep source parent kind srcCtx)
    (hseqd : Sequenced s.messages) :
    Sequenced (s.writeFork plan prep).messages := by
  rw [writeFork_messages]
  have hch : ∀ {id message}, s.messages.lookup id = some message →
      message.threadId ≠ plan.childThread.id := by
    intro id message hid hthr
    obtain ⟨_, hsto⟩ := contains_iff.1 (hrecs.message _ _ hid).owned
    rw [hthr, h.newThread] at hsto
    cases hsto
  intro id id' first second hfst hsec hthr hseq
  rcases lookup_insertAll_cases _ _ hfst with hold | ⟨hmem, rfl⟩ <;>
    rcases lookup_insertAll_cases _ _ hsec with hold' | ⟨hmem', rfl⟩
  · exact hseqd _ _ _ _ hold hold' hthr hseq
  · obtain ⟨i, hi⟩ := List.getElem?_of_mem hmem'
    exact absurd (hthr.trans (hcop.messages.sequence hi).1) (hch hold)
  · obtain ⟨i, hi⟩ := List.getElem?_of_mem hmem
    exact absurd (hthr.symm.trans (hcop.messages.sequence hi).1) (hch hold')
  · obtain ⟨i, hi⟩ := List.getElem?_of_mem hmem
    obtain ⟨j, hj⟩ := List.getElem?_of_mem hmem'
    have hpos : i + 1 = j + 1 := by
      rw [← (hcop.messages.sequence hi).2, ← (hcop.messages.sequence hj).2, hseq]
    obtain rfl := Nat.succ_injective hpos
    rw [Option.mem_unique hi hj]

variable {origin : ConversationMessageDerivationKind × Message}

/-- What a fork copies is settled: the context of its source turn, and the prompt of a source turn
that has completed. -/
lemma ForkChecked.origin_settled (hs : Consistent s) (hprs : PromptRecords s)
    (hcop : ForkCopies s plan prep source parent kind srcCtx)
    (hori : origin ∈ forkOrigins kind source srcCtx) (hkind : origin.1 ≠ .editedUser) :
    PromptSettled s origin.2.id := by
  obtain ⟨hturn, hread⟩ := loadSnapshot_read h.loaded
  rw [← (hs.turn _ _ hturn).1] at hturn
  obtain ⟨frozen, hfroz, hctx⟩ := hprs.context _ _ hturn
  obtain rfl := Option.mem_unique hcop.frozen hfroz
  rcases mem_forkOrigins hori with ⟨-, hmem, hear⟩ | ⟨-, -, hans⟩ | ⟨hedit, -⟩
  · -- a message before the prompt of the source turn, or that prompt
    rw [← dropLast_append_getLast? _ hcop.prompt, mem_append, mem_singleton] at hmem
    rcases hmem with hmem | hlast
    · exact hctx.settled _ hmem
    · intro id turn hoth hpr
      have hsame : id = source.turn.id := by
        refine hprs.exclusive _ _ _ _ hoth hturn ?_
        rw [hpr, hlast, hread.prompt.linked]
      rw [hsame] at hoth
      rw [← Option.mem_unique hturn hoth]
      have helig := h.eligible
      cases kind with
      | branch | regenerate => simpa [forkSourceEligible] using helig
      | editAndBranch =>
        -- an edit does not copy the prompt of its source
        have hord := hctx.ordered
        rw [← dropLast_append_getLast? _ hcop.prompt] at hord
        have hbef := (pairwise_append.1 hord).2.2 _ (hear rfl) _
          (mem_singleton_self _)
        rw [hlast] at hbef
        exact absurd hbef (lt_irrefl _)
  · -- an answer is no prompt
    intro id turn hoth hpr
    obtain ⟨-, other, rfl, hread'⟩ := hs.turn _ _ hoth
    have hsto := hread.answer hans
    have hget := hread'.userMessage
    rw [hpr, hsto.stored] at hget
    have hrole := hread'.prompt.role
    rw [← Option.some.inj hget, hsto.role] at hrole
    cases hrole
  · exact absurd hedit hkind

/-- The turn that a fork starts, if any, brings a new prompt. -/
lemma ForkChecked.promptStep (hown : ContextsOwned s)
    (hcop : ForkCopies s plan prep source parent kind srcCtx) :
    PromptStep s (s.writeFork plan prep) (plan.startedTurn.map ConversationForkTurnPlan.turn) := by
  have hmsgs : s.messages.Extends (s.writeFork plan prep).messages := by
    rw [writeFork_messages]
    exact .insertAll _ h.messages.1
  have htab := h.startedTables hcop
  have hts := h.conversationTurns
  cases hplan : plan.startedTurn with
  | none =>
    rw [hplan] at htab hts
    exact .of_eq hmsgs htab.2 hts
  | some turnPlan =>
    rw [hplan] at htab hts
    obtain ⟨_, _, prompt, -, -, hturn⟩ := h.turn turnPlan hplan
    refine .of_started hmsgs htab.2 (hown _ hturn.newTurn) hts ?_
    rw [hturn.userMessageId]
    exact h.messages.1 _ hturn.inPlan

/-- A fork freezes the copies as its context. -/
lemma ForkChecked.frozen
    (hs : Consistent s) (hcop : ForkCopies s plan prep source parent kind srcCtx)
    {turnPlan : ConversationForkTurnPlan} (hplan : plan.startedTurn = some turnPlan) :
    FrozenContext (s.writeFork plan prep) turnPlan.turn plan.messages := by
  obtain ⟨prompt, hlast, hlink⟩ := (hcop.started turnPlan hplan).prompt
  obtain ⟨_, _, _, -, -, hturn⟩ := h.turn turnPlan hplan
  have hpr : prompt ∈ plan.messages := mem_of_getLast? hlast
  refine ⟨⟨prompt, hlast, ?_⟩, ?_, ?_, ?_⟩
  · rw [writeFork_messages, hlink]
    exact lookup_insertAll_of_mem _ _ hpr h.messages.2
  · intro message hmem
    obtain ⟨i, hi⟩ := List.getElem?_of_mem hmem
    rw [(hcop.messages.sequence hi).1, hturn.threadId]
  · refine pairwise_iff_getElem.2 fun i j hi hj hij => ?_
    rw [(hcop.messages.sequence (List.getElem?_eq_getElem hi)).2,
      (hcop.messages.sequence (List.getElem?_eq_getElem hj)).2]
    omega
  · -- no turn but the started one has a prompt among the new messages, and its prompt is the last
    intro message hmem id turn hget hsame
    rw [h.conversationTurns, hplan] at hget
    rcases lookup_insert_cases hget with hold | ⟨-, rfl⟩
    · obtain ⟨-, snap, rfl, hread⟩ := hs.turn _ _ hold
      have hsto := hread.userMessage
      rw [hsame, h.messages.1 _ (mem_of_mem_dropLast hmem)] at hsto
      cases hsto
    · have hnd := h.messages.2
      rw [← dropLast_append_getLast? _ hlast, map_append, nodup_append] at hnd
      refine absurd (hlink.symm.trans hsame).symm ?_
      exact hnd.2.2 _ (mem_map_of_mem hmem) _ (by simp)

end

omit [UrlLibrary] in
/-- The copies of a context are in the order of the context. -/
lemma forkOrigins_contextCopy {i : ℕ}
    (h : (forkOrigins kind source srcCtx)[i]? = some origin)
    (hkind : origin.1 = .contextCopy) : srcCtx[i]? = some origin.2 := by
  have hcpd : ∀ (copied last : List Message) (derivation : ConversationMessageDerivationKind),
      derivation ≠ .contextCopy →
      (copied.map (ConversationMessageDerivationKind.contextCopy, ·) ++
        last.map (derivation, ·))[i]? = some origin → copied[i]? = some origin.2 := by
    intro copied last derivation hoth hi
    rw [List.getElem?_append] at hi
    split at hi
    · obtain ⟨message, hmsg, rfl⟩ := Option.map_eq_some_iff.1 ((List.getElem?_map ..).symm.trans hi)
      exact hmsg
    · obtain ⟨message, -, rfl⟩ := mem_map.1 (mem_of_getElem? hi)
      exact absurd hkind hoth
  cases kind with
  | branch => exact hcpd _ _ .sourceAssistantCopy (by simp) h
  | editAndBranch =>
    have hear : srcCtx.dropLast[i]? = some origin.2 :=
      hcpd _ [source.userMessage] .editedUser (by simp) h
    rw [List.getElem?_dropLast] at hear
    split at hear
    · exact hear
    · cases hear
  | regenerate =>
    obtain ⟨message, hmsg, rfl⟩ :=
      Option.map_eq_some_iff.1 ((List.getElem?_map ..).symm.trans h)
    exact hmsg

variable (h : ForkChecked s plan prep source parent kind srcMsg)
include h

/-- A message of a fork is a right copy. -/
lemma ForkChecked.copyRecord
    (hs : Consistent s) (hrecs : ForkRecords s) (hprs : PromptRecords s)
    (hcop : ForkCopies s plan prep source parent kind srcCtx)
    (hstep : PromptStep s (s.writeFork plan prep)
      (plan.startedTurn.map ConversationForkTurnPlan.turn))
    {message : Message} (hmem : message ∈ plan.messages) :
    CopyRecord (s.writeFork plan prep) message := by
  obtain ⟨i, origin, hi, hori, hderived⟩ := hcop.messages.origin hmem
  have hori' := mem_of_getElem? hori
  have hsto := (h.origin_stored hs hrecs hcop hori').1
  constructor
  · intro derivationKind sourceMessageId srcTurnId seq hder hkind
    rw [hderived.derivation] at hder
    obtain ⟨rfl, rfl, -, -⟩ := hder
    exact hstep.settled hsto (h.origin_settled hs hprs hcop hori' hkind)
  · intro sourceMessageId srcTurnId seq hder
    rw [hderived.derivation, fork.injEq] at hder
    obtain ⟨hkind, rfl, rfl, -⟩ := hder
    refine ⟨srcCtx, origin.2, hstep.contexts _ _ hcop.frozen, ?_, rfl⟩
    rw [hderived.sequence]
    exact forkOrigins_contextCopy hori hkind

/-- A fork keeps the records. -/
lemma ForkChecked.promptRecords
    (hs : Consistent s) (hrecs : ForkRecords s) (hprs : PromptRecords s)
    (hown : ContextsOwned s) :
    PromptStep s (s.writeFork plan prep) (plan.startedTurn.map ConversationForkTurnPlan.turn) ∧
      PromptRecords (s.writeFork plan prep) := by
  obtain ⟨srcCtx, hcop⟩ := h.copies
  have hstep := h.promptStep hown hcop
  refine ⟨hstep, hprs.step hs hrecs hstep
    (h.sequenced hrecs hcop hprs.sequenced) ?_ ?_⟩
  · intro turn hstd
    obtain ⟨turnPlan, hplan, rfl⟩ := Option.map_eq_some_iff.1 hstd
    have htab := h.startedTables hcop
    rw [hplan] at htab
    refine ⟨plan.messages, ?_, h.frozen hs hcop hplan⟩
    rw [htab.2]
    exact lookup_insert_self _ _ _
  · intro id message hid
    rw [writeFork_messages] at hid
    rcases lookup_insertAll_cases _ _ hid with hold | ⟨hmem, -⟩
    · exact .inl hold
    · exact .inr (h.copyRecord hs hrecs hprs hcop hstep hmem)

end Fork

/-! ## Runs -/

/-- Every write keeps the records. -/
lemma Write.promptRecords (h : Write ends s s') (hs : Consistent s) (hrecs : ForkRecords s)
    (hprs : PromptRecords s) (hown : ContextsOwned s) :
    (∃ started, PromptStep s s' started) ∧ PromptRecords s' := by
  -- without a new message or turn there is nothing to show
  have hkept : ∀ {s' : State}, PromptStep s s' none → s'.messages = s.messages →
      (∃ started, PromptStep s s' started) ∧ PromptRecords s' := by
    intro s' hstep hmsgs
    refine ⟨⟨_, hstep⟩, hprs.step hs hrecs hstep (hmsgs ▸ hprs.sequenced) ?_ ?_⟩
    · intro _ hstd
      cases hstd
    · exact fun id message hid => .inl (hmsgs ▸ hid)
  -- a new original message is the last one of its thread
  have hadded : ∀ {s' : State} {message : Message}, PromptStep s s' none →
      s'.messages = s.messages.insert message.id message →
      s.nextSequence message.threadId = some message.sequence → message.derivation = .original →
      (∃ started, PromptStep s s' started) ∧ PromptRecords s' := by
    intro s' message hstep hmsgs hseq horig
    refine ⟨⟨_, hstep⟩, hprs.step hs hrecs hstep ?_ ?_ ?_⟩
    · rw [hmsgs]
      exact hprs.sequenced.insert (isAfter_of_nextSequence hseq)
    · intro _ hstd
      cases hstd
    · intro id other hid
      rcases lookup_insert_cases (hmsgs ▸ hid) with hold | ⟨-, rfl⟩
      · exact .inl hold
      · exact .inr (.of_original horig)
  cases h with
  | journal _ hj =>
    rw [← hj]
    exact hkept (.of_eq (.refl _) rfl rfl) rfl
  | project project hnew
  | thread thread hproj hnew hrest hori => exact hkept (.of_eq (.refl _) rfl rfl) rfl
  | message message hnew hthr horig hseq =>
    exact hadded (.of_eq (.insert _ hnew) rfl rfl) rfl hseq horig
  | reserve input prep hacc hkey hchk =>
    obtain ⟨hstep, hnext⟩ := hchk.promptRecords hs hrecs hprs hown hacc
    exact ⟨⟨_, hstep⟩, hnext⟩
  | fork plan prep source parent kind srcMsg hchk =>
    obtain ⟨hstep, hnext⟩ := hchk.promptRecords hs hrecs hprs hown
    exact ⟨⟨_, hstep⟩, hnext⟩
  | start commit cur turnEvents hchk =>
    exact hkept (.of_moved (.refl _) rfl rfl (loadSnapshot_read hchk.loaded).1 hchk.moved) rfl
  | text append evs turn log log' hchk => exact hkept (.of_eq (.refl _) rfl rfl) rfl
  | terminal commit cur assistant turnEvents hchk hends =>
    have hsto := (loadSnapshot_read hchk.loaded).1
    cases assistant with
    | none => exact hkept (.of_moved (.refl _) rfl rfl hsto hchk.moved) rfl
    | some answer =>
      exact hadded (.of_moved (.insert _ (hchk.newAssistant _ rfl)) rfl rfl hsto
        hchk.moved) rfl (hchk.sequenced _ rfl) (hchk.answer_original rfl).2

/-- What holds of every store that a run of writes reaches. -/
structure Recorded (s : State) : Prop where
  consistent : Consistent s
  forks : ForkRecords s
  prompts : PromptRecords s
  owned : ContextsOwned s

lemma Recorded.empty : Recorded State.empty :=
  ⟨.empty, .empty, .empty, fun _ _ => rfl⟩

lemma Write.recorded (h : Write ends s s') (hs : Recorded s) :
    Recorded s' :=
  ⟨(Writes.updates (.single h) hs.consistent).consistent hs.consistent,
    Writes.forkRecords (.single h) hs.consistent hs.forks,
    (h.promptRecords hs.consistent hs.forks hs.prompts hs.owned).2, (h.contexts hs.owned).owned⟩

lemma Writes.recorded (h : Writes ends s s') (hs : Recorded s) :
    Recorded s' := by
  induction h with
  | refl => exact hs
  | tail _ hwr ih => exact hwr.recorded ih

/-- Every reachable store is of this kind. -/
lemma run_recorded (operations : List StoreOperation) : Recorded (State.empty.run operations) :=
  (run_writes operations).recorded .empty

/-- Messages and contexts stay as they are, and a turn whose prompt is stored is stored. -/
theorem Writes.prompt_old (h : Writes ends s s') (hs : Recorded s) :
    s.messages.Extends s'.messages ∧
      s.conversationContexts.Extends s'.conversationContexts ∧
      ∀ id turn' message, s'.conversationTurns.lookup id = some turn' →
        s.messages.lookup turn'.userMessageId = some message →
        ∃ turn, s.conversationTurns.lookup id = some turn ∧
          turn'.userMessageId = turn.userMessageId := by
  induction h with
  | refl => exact ⟨.refl _, .refl _, fun id turn' _ hturn _ => ⟨turn', hturn, rfl⟩⟩
  | tail hbef hwr ih =>
    obtain ⟨hmsgs, hctxs, hts⟩ := ih
    have hmidd := Writes.recorded hbef hs
    obtain ⟨started, hstep⟩ := (hwr.promptRecords hmidd.consistent hmidd.forks
      hmidd.prompts hmidd.owned).1
    refine ⟨fun id message hid => hstep.messages _ _ (hmsgs _ _ hid),
      fun id context hid => hstep.contexts _ _ (hctxs _ _ hid), ?_⟩
    intro id turn' message hturn hsto
    rcases hstep.turns _ _ hturn with ⟨turn, hold, hsame, -⟩ | ⟨hstd, -⟩
    · obtain ⟨first, hfst, hsame'⟩ := hts id turn message hold (hsame ▸ hsto)
      exact ⟨first, hfst, hsame.trans hsame'⟩
    · -- the prompt of a new turn was not stored before
      have hsto' := hmsgs _ _ hsto
      rw [hstep.fresh _ hstd] at hsto'
      cases hsto'

/-- What is not so at first and is so after a run becomes so at one of its operations. -/
lemma State.exists_operation {P : State → Prop} (hfst : ¬ P s) (hlast : P (s.run operations)) :
    ∃ before op rest,
      operations = before ++ op :: rest ∧ ¬ P (s.run before) ∧
      P (op.apply (s.run before)) := by
  induction operations generalizing s with
  | nil => exact absurd hlast hfst
  | cons op operations ih =>
    by_cases hnext : P (op.apply s)
    · exact ⟨[], op, operations, rfl, hfst, hnext⟩
    · obtain ⟨before, later, rest, rfl, hbef, hafter⟩ := ih hnext hlast
      exact ⟨op :: before, later, rest, rfl, hbef, hafter⟩

/-- Every turn that the message is the prompt of had completed before the rest of a run. -/
def CompletedBefore (operations before : List StoreOperation) (messageId : MessageId) : Prop :=
  ∀ id turn, (State.empty.run operations).conversationTurns.lookup id = some turn →
    turn.userMessageId = messageId →
    ∃ old, (State.empty.run before).conversationTurns.lookup id = some old ∧ old.state = .completed

/-- The first message is one that the second copies unedited. -/
def CopyOf (s : State) (source message : Message) : Prop :=
  s.messages.lookup source.id = some source ∧ ∃ kind sourceTurnId sequence,
    message.derivation = .fork kind source.id sourceTurnId sequence ∧ kind ≠ .editedUser

/-- The frozen context of a turn, seen from the run that it was captured in. -/
structure NothingResent (operations : List StoreOperation) (id : ConversationTurnId)
    (turn : ConversationTurn) (context : List Message) : Prop where
  /-- The context ends with the prompt of the turn. -/
  prompt : ∃ prompt, context.getLast? = some prompt ∧
    (State.empty.run operations).messages.lookup turn.userMessageId = some prompt
  /-- The messages are those of the thread of the turn, in the order of their sequences. -/
  threadId : ∀ message ∈ context, message.threadId = turn.threadId
  ordered : context.Pairwise fun a b => a.sequence < b.sequence
  /-- The copies of a context are in the order of the context that they are copied from. -/
  placed : ∀ message ∈ context, ∀ sourceMessageId sourceTurnId sequence,
    message.derivation = .fork .contextCopy sourceMessageId sourceTurnId sequence →
    Placed (State.empty.run operations) message sourceMessageId sourceTurnId
  /-- The other prompts in the context are of turns that had completed when it was captured. -/
  captured : ∃ before operation rest, operations = before ++ operation :: rest ∧
    (State.empty.run before).conversationTurns.lookup id = none ∧
    (operation.apply (State.empty.run before)).conversationContexts.lookup id = some context ∧
    ∀ message ∈ context.dropLast, CompletedBefore operations before message.id
  /-- The prompts that a copy goes back to are of turns that had completed when it was made. -/
  copied : ∀ message ∈ context, (∃ source, CopyOf (State.empty.run operations) source message) →
    ∃ before plan rest, operations = before ++ .reserveConversationFork plan :: rest ∧
      (State.empty.run before).messages.lookup message.id = none ∧ message ∈ plan.messages ∧
      ∀ original, TransGen (CopyOf (State.empty.run operations)) original message →
        CompletedBefore operations before original.id

lemma run_append (operations rest : List StoreOperation) :
    s.run (operations ++ rest) = (s.run operations).run rest := by
  simp [run]

/-- What a settled message is the prompt of had completed. -/
lemma PromptSettled.completedBefore {before : List StoreOperation} {id : MessageId}
    (h : PromptSettled (State.empty.run before) id)
    (hsto : (State.empty.run before).messages.lookup id = some message)
    (rest : List StoreOperation) : CompletedBefore (before ++ rest) before id := by
  intro turnId turn hturn hpr
  rw [run_append] at hturn
  obtain ⟨old, hold, hsame⟩ := ((run_writes rest).prompt_old (run_recorded before)).2.2
    turnId turn message hturn (hpr ▸ hsto)
  exact ⟨old, hold, h _ _ hold (hsame ▸ hpr)⟩

/-- What a stored message is copied from was stored with it. -/
lemma stored_of_copyOf {original : Message} (hs : Recorded s)
    (hmsgs : s.messages.Extends s'.messages) (h : ReflTransGen (CopyOf s') original message)
    (hsto : s.messages.lookup message.id = some message) :
    s.messages.lookup original.id = some original := by
  induction h using ReflTransGen.head_induction_on with
  | refl => exact hsto
  | head hcopy _ ih =>
    obtain ⟨hsrc, kind, srcTurnId, seq, hder, -⟩ := hcopy
    obtain ⟨_, source, hcpd⟩ := (hs.forks.message _ _ ih).copied _ _ _ _ hder
    rw [hcpd.sourceStored, Option.mem_unique (hmsgs _ _ hcpd.sourceStored) hsrc]

/-- The context of a turn is captured by the operation that makes the turn. -/
lemma run_captured (hturn : (State.empty.run operations).conversationTurns.lookup id = some turn)
    (hctx : (State.empty.run operations).conversationContexts.lookup id = some context) :
    ∃ before op rest, operations = before ++ op :: rest ∧
      (State.empty.run before).conversationTurns.lookup id = none ∧
      (op.apply (State.empty.run before)).conversationContexts.lookup id = some context ∧
      ∀ message ∈ context.dropLast, CompletedBefore operations before message.id := by
  obtain ⟨before, op, rest, rfl, hnone, hsome⟩ := exists_operation
    (P := fun s => s.conversationTurns.lookup id ≠ none) (s := State.empty) (by simp [State.empty])
    (by rw [hturn]; simp)
  rw [not_not] at hnone
  have hs := run_recorded before
  have hafter : Recorded (op.apply (State.empty.run before)) :=
    op.writes.recorded hs
  have hrest := (run_writes rest).prompt_old hafter
  have hrun : State.empty.run (before ++ op :: rest)
      = (op.apply (State.empty.run before)).run rest := run_append _ _
  rw [hrun] at hturn hctx
  obtain ⟨made, hmade⟩ := Option.ne_none_iff_exists'.1 hsome
  obtain ⟨captured, hcapt, hfroz⟩ := hafter.prompts.context _ _ hmade
  obtain rfl := Option.mem_unique (hrest.2.1 _ _ hcapt) hctx
  refine ⟨before, op, rest, rfl, hnone, hcapt, fun message hmem => ?_⟩
  rcases op.origins (State.empty.run before) with ⟨input, prep, hresv⟩ |
    ⟨plan, prep, source, parent, kind, srcMsg, hfks⟩ | hnothing
  · -- a reservation: what is sent with the prompt was settled before
    rw [hresv.apply_eq, writeReservation_conversationTurns] at hmade
    rw [hresv.apply_eq] at hcapt
    obtain ⟨earlier, hcont', -, -, hear⟩ :=
      hresv.checked.captured_context hs.consistent hs.forks hs.prompts
    rcases lookup_insert_cases hmade with hold | ⟨rfl, -⟩
    · rw [hnone] at hold
      cases hold
    · obtain rfl := Option.mem_unique hcapt (lookup_insert_self _ _ _)
      rw [hcont', dropLast_concat] at hmem
      obtain ⟨hsto, -, hset⟩ := hear message hmem
      exact hset.completedBefore hsto _
  · -- a fork: its messages are new, and the turn it starts has not completed
    intro otherId other hoth hpr
    have hsto := hafter.forks.context _ _ hcapt message (mem_of_mem_dropLast hmem)
    rw [hrun] at hoth
    obtain ⟨old, hold, hsame⟩ := hrest.2.2 _ _ message hoth (hpr ▸ hsto)
    have hdone := hfroz.settled message hmem _ _ hold (hsame ▸ hpr)
    rw [hfks.apply_eq, hfks.checked.conversationTurns] at hold
    split at hold
    · exact ⟨old, hold, hdone⟩
    · rename_i turnPlan hplan
      rcases lookup_insert_cases hold with hold | ⟨-, rfl⟩
      · exact ⟨old, hold, hdone⟩
      · obtain ⟨_, _, _, -, -, hstd⟩ := hfks.checked.turn turnPlan hplan
        rw [hstd.reserved] at hdone
        cases hdone
  · -- without a new lineage there is no new turn
    obtain ⟨-, snap, rfl, hread⟩ := hafter.consistent.turn _ _ hmade
    have hlin := hread.lineage
    rw [(hafter.consistent.turn _ _ hmade).1, hnothing.lineages,
      hs.forks.lineage_eq_none hnone] at hlin
    cases hlin

/-- A copy is made by a fork. -/
lemma run_copied
    (hmsg : (State.empty.run operations).messages.lookup message.id = some message)
    (hcopy : ∃ source, CopyOf (State.empty.run operations) source message) :
    ∃ before plan rest, operations = before ++ .reserveConversationFork plan :: rest ∧
      (State.empty.run before).messages.lookup message.id = none ∧ message ∈ plan.messages ∧
      ∀ original, TransGen (CopyOf (State.empty.run operations)) original message →
        CompletedBefore operations before original.id := by
  obtain ⟨before, op, rest, rfl, hnone, hsome⟩ := exists_operation
    (P := fun s => s.messages.lookup message.id ≠ none) (s := State.empty) (by simp [State.empty])
    (by rw [hmsg]; simp)
  rw [not_not] at hnone
  have hs := run_recorded before
  have hrest := (run_writes rest).prompt_old (op.writes.recorded hs)
  have hrun : State.empty.run (before ++ op :: rest)
      = (op.apply (State.empty.run before)).run rest := run_append _ _
  rw [hrun] at hmsg hcopy
  obtain ⟨stored, hsto⟩ := Option.ne_none_iff_exists'.1 hsome
  obtain rfl := Option.mem_unique (hrest.1 _ _ hsto) hmsg
  have hderived : stored.derivation ≠ .original := by
    obtain ⟨source, -, kind, srcTurnId, seq, hder, -⟩ := hcopy
    rw [hder]
    simp
  rcases op.origins (State.empty.run before) with ⟨input, prep, hresv⟩ |
    ⟨plan, prep, source, parent, kind, srcMsg, hfks⟩ | hnoth
  · obtain ⟨seq, hseqd⟩ := hresv.checked.sequenced
    rw [hresv.apply_eq] at hsto
    rcases lookup_insert_cases hsto with hold | ⟨-, rfl⟩
    · rw [hnone] at hold
      cases hold
    · rw [hseqd] at hderived
      exact absurd (acceptsReservationInput_parts hresv.accepts).2.1 hderived
  · obtain ⟨srcCtx, hcop⟩ := hfks.checked.copies
    have hmsgs := ((run_writes (op :: rest)).prompt_old hs).1
    rw [hfks.apply_eq, writeFork_messages] at hsto
    rcases lookup_insertAll_cases _ _ hsto with hold | ⟨hmem, -⟩
    · rw [hnone] at hold
      cases hold
    · refine ⟨before, plan, rest, by rw [hfks.operation_eq], hnone, hmem, fun original hchain => ?_⟩
      rw [run_append] at hchain
      obtain ⟨direct, hback, hdir, derivationKind, srcTurnId, seq, hder, hkind⟩ :=
        Relation.TransGen.tail'_iff.1 hchain
      obtain ⟨i, origin, -, hori, hfrom⟩ := hcop.messages.origin hmem
      have hori' := mem_of_getElem? hori
      have horiginStored :=
        (hfks.checked.origin_stored hs.consistent hs.forks hcop hori').1
      rw [hfrom.derivation, fork.injEq] at hder
      obtain ⟨rfl, hid, -, -⟩ := hder
      obtain rfl : origin.2 = direct := by
        have hsame := hmsgs _ _ horiginStored
        rw [hid, hdir] at hsame
        exact (Option.some.inj hsame).symm
      have hsto' := stored_of_copyOf hs hmsgs hback horiginStored
      refine PromptSettled.completedBefore ?_ hsto' _
      rcases hback.cases_head with rfl | ⟨copy, hcpd, hback'⟩
      · exact hfks.checked.origin_settled hs.consistent hs.prompts hcop hori' hkind
      · obtain ⟨-, copyKind, _, _, hcopyDerivation, hcopyKind⟩ := hcpd
        exact (hs.prompts.copy _ _ (stored_of_copyOf hs hmsgs hback' horiginStored)).settled
          _ _ _ _ hcopyDerivation hcopyKind
  · rcases hnoth.messages _ _ hsto with hold | horig
    · rw [hnone] at hold
      cases hold
    · exact absurd horig hderived

/-- No prompt of a turn that had not completed is sent again: the frozen context of a turn has no
other one of its thread, and no copy that goes back to one. -/
theorem uncompleted_prompts_not_resent (operations : List StoreOperation)
    {id : ConversationTurnId} {turn : ConversationTurn}
    (hturn : (State.empty.run operations).conversationTurns.lookup id = some turn) :
    ∃ context, (State.empty.run operations).conversationContexts.lookup id = some context ∧
      NothingResent operations id turn context := by
  have hs := run_recorded operations
  obtain ⟨context, hctx, hfrozen⟩ := hs.prompts.context _ _ hturn
  have hsto := hs.forks.context _ _ hctx
  refine ⟨context, hctx, hfrozen.prompt, hfrozen.threadId, hfrozen.ordered, ?_,
    run_captured hturn hctx, ?_⟩
  · intro message hmem sourceMessageId srcTurnId seq hder
    exact (hs.prompts.copy _ _ (hsto message hmem)).placed _ _ _ hder
  · exact fun message hmem hcopy => run_copied (hsto message hmem) hcopy

end Prompts

namespace MovedRail

attribute [local instance] url

/-- The edited prompt of a cancelled turn is sent without the prompt of that turn. -/
theorem edited_turn_resends_nothing : ∃ turn context,
    (State.empty.run (forked .xaiApiKey)).conversationTurns.lookup ⟨"edited-turn", by decide⟩
      = some turn ∧
    (State.empty.run (forked .xaiApiKey)).conversationContexts.lookup ⟨"edited-turn", by decide⟩
      = some context ∧
    NothingResent (forked .xaiApiKey) ⟨"edited-turn", by decide⟩ turn context := by
  have hmade : ((State.empty.run (forked .xaiApiKey)).conversationTurns.lookup
      ⟨"edited-turn", by decide⟩).isSome = true := by decide +kernel
  obtain ⟨turn, hturn⟩ := Option.isSome_iff_exists.1 hmade
  obtain ⟨context, hctx, hnoth⟩ := uncompleted_prompts_not_resent (forked .xaiApiKey) hturn
  exact ⟨turn, context, hturn, hctx, hnoth⟩

end MovedRail

end GrokDesktop
