import Mathlib.Data.List.Infix
import GrokDesktop.Memory.Copies

/-!
# The records of forks

Every message that a fork derives keeps the role of a stored message of the parent thread, and every
copied answer leads back, one thread at a time, to the answer of one completed turn. `ForkRecords`
states this for all records of the store. A write only adds records, so it keeps the invariant when
the records it adds are right; that is shown once for each kind of write.
-/

namespace GrokDesktop

open Except Table State List

section Lineage

variable {s s' : State} {message : Message} {turnId : ConversationTurnId} {fuel : ℕ}
  {snapshot : ConversationTurnSnapshot} {id : MessageId} {ends : Set ConversationTurn}
  {input : TurnReservationInput} {plan : ConversationForkPlan}
  {prep : PreparedConversationFork} {source : ConversationTurnSnapshot}
  {parent : Thread} {kind : ConversationForkKind} {srcMsg : Message}
  {srcCtx : List Message}

/-! ## The way back to an answer -/

/-- Every message is stored under its identifier. -/
def MessagesKeyed (s : State) : Prop :=
  ∀ id message, s.messages.lookup id = some message → message.id = id

/-- A way back to an answer stays one when messages and outcomes are added, when more steps are
allowed, and when messages that were not stored count as visited. -/
theorem provenanceReaches_mono (hmsgs : s.messages.Extends s'.messages)
    (houtc : s.conversationInheritedOutcomes.Extends s'.conversationInheritedOutcomes)
    (hkey : MessagesKeyed s) {answer : Message} {fuel' : ℕ} {visited visited' : List MessageId}
    (hfuel : fuel ≤ fuel') (hvis : ∀ id ∈ visited', id ∈ visited ∨ s.messages.lookup id = none)
    (hsto : s.messages.lookup message.id = some message)
    (h : provenanceReaches s answer turnId fuel visited message = true) :
    provenanceReaches s' answer turnId fuel' visited' message = true := by
  induction fuel generalizing fuel' visited visited' message with
  | zero => cases h
  | succ fuel ih =>
    obtain ⟨fuel', rfl⟩ : ∃ n, fuel' = n + 1 := ⟨fuel' - 1, by omega⟩
    simp only [provenanceReaches, Bool.and_eq_true, Bool.or_eq_true, decide_eq_true_eq,
      Bool.not_eq_true', contains_eq_mem, decide_eq_false_iff_not] at h ⊢
    obtain ⟨⟨hmsg, hnot⟩, hend⟩ := h
    have hnot' : message.id ∉ visited' := by
      intro hmem
      rcases hvis _ hmem with hold | hnone
      · exact hnot hold
      · rw [hsto] at hnone
        cases hnone
    refine ⟨⟨hmsg, hnot'⟩, ?_⟩
    rcases hend with hend | ⟨hout, hstep⟩
    · exact .inl hend
    · refine .inr ⟨houtc _ _ hout, ?_⟩
      split at hstep
      · cases hstep
      · simp only [Bool.and_eq_true] at hstep ⊢
        obtain ⟨hkind, hnext⟩ := hstep
        split at hnext
        · cases hnext
        · rename_i next hget
          rw [hmsgs _ _ hget]
          refine ⟨hkind, ih (by omega) ?_ (hkey _ _ hget ▸ hget) hnext⟩
          intro id hid
          rcases mem_cons.1 hid with rfl | hid
          · exact .inl mem_cons_self
          · exact (hvis id hid).imp_left (mem_cons_of_mem _)

/-- The messages that a new prompt is sent with are stored. -/
theorem mem_eligibleMessages (hkey : MessagesKeyed s) {threadId : ThreadId}
    (h : message ∈ eligibleMessages s threadId) :
    s.messages.lookup message.id = some message ∧ message.threadId = threadId ∧
      message.state = .active ∧ isUnresolvedPrompt s threadId message = false := by
  simp only [eligibleMessages, threadMessages, mem_filter, decide_eq_true_eq,
    Bool.and_eq_true, Bool.not_eq_true', mem_values] at h
  obtain ⟨⟨⟨id, hid⟩, hthr⟩, hact, hres⟩ := h
  exact ⟨hkey id message hid ▸ hid, hthr, hact, hres⟩

/-! ## The messages of a fork -/

@[simp] lemma State.writeFork_messages :
    (s.writeFork plan prep).messages = s.messages.insertAll Message.id plan.messages := by
  unfold writeFork
  split <;> rfl

@[simp] lemma State.writeFork_outcomes : (s.writeFork plan prep).conversationInheritedOutcomes
    = prep.inheritedOutcomes.foldl (fun t outcome => t.insert outcome.1 outcome.2)
      s.conversationInheritedOutcomes := by
  unfold writeFork
  split <;> rfl

@[simp] lemma State.writeFork_threads :
    (s.writeFork plan prep).threads = s.threads.insert plan.childThread.id plan.childThread := by
  unfold writeFork
  split <;> rfl

/-- Where the messages of a fork are derived from. -/
theorem mem_forkOrigins {origin : ConversationMessageDerivationKind × Message}
    (h : origin ∈ forkOrigins kind source srcCtx) :
    (origin.1 = .contextCopy ∧ origin.2 ∈ srcCtx ∧
      (kind = .editAndBranch → origin.2 ∈ srcCtx.dropLast)) ∨
    (origin.1 = .sourceAssistantCopy ∧ kind = .branch ∧
      source.assistantMessage = some origin.2) ∨
    (origin.1 = .editedUser ∧ kind = .editAndBranch ∧ origin.2 = source.userMessage) := by
  cases kind with
  | branch =>
    simp only [forkOrigins, mem_append, mem_map, Option.mem_toList] at h
    rcases h with ⟨message, hmsg, rfl⟩ | ⟨message, hmsg, rfl⟩
    · exact .inl ⟨rfl, hmsg, by simp⟩
    · exact .inr (.inl ⟨rfl, rfl, hmsg⟩)
  | editAndBranch =>
    simp only [forkOrigins, mem_append, mem_map, mem_singleton] at h
    rcases h with ⟨message, hmsg, rfl⟩ | rfl
    · exact .inl ⟨rfl, mem_of_mem_dropLast hmsg, fun _ => hmsg⟩
    · exact .inr (.inr ⟨rfl, rfl, rfl⟩)
  | regenerate =>
    simp only [forkOrigins, mem_map] at h
    obtain ⟨message, hmsg, rfl⟩ := h
    exact .inl ⟨rfl, hmsg, by simp⟩

/-- The messages of an ordered context belong to one thread and have growing sequences. -/
lemma contextIsOrdered_parts {threadId : ThreadId} {prev : ℕ} {ids : List MessageId}
    {ctx : List Message} (h : contextIsOrdered threadId prev ids ctx = true) :
    (∀ message ∈ ctx, message.threadId = threadId ∧ prev < message.sequence) ∧
      ctx.Pairwise fun a b => a.sequence < b.sequence := by
  induction ctx generalizing prev ids with
  | nil => simp
  | cons message rest ih =>
    simp only [contextIsOrdered, Bool.and_eq_true, decide_eq_true_eq] at h
    obtain ⟨⟨⟨⟨⟨-, hthr⟩, -⟩, hprev⟩, -⟩, hrest⟩ := h
    obtain ⟨hall, hpair⟩ := ih hrest
    refine ⟨?_, .cons (fun other hoth => (hall other hoth).2) hpair⟩
    rintro other (_ | ⟨_, hoth⟩)
    · exact ⟨hthr, hprev⟩
    · exact ⟨(hall other hoth).1, hprev.trans (hall other hoth).2⟩

variable [UrlLibrary]

/-! ## What later writes keep -/

/-- The parts of the store that later writes keep. -/
structure ForkGrows (s s' : State) : Prop where
  threads : ∀ id thread, s.threads.lookup id = some thread →
    ∃ thread', s'.threads.lookup id = some thread' ∧ thread'.lineage = thread.lineage
  messages : s.messages.Extends s'.messages
  outcomes : s.conversationInheritedOutcomes.Extends s'.conversationInheritedOutcomes
  lineages : s.conversationLineages.Extends s'.conversationLineages
  turns : ∀ id turn, s.conversationTurns.lookup id = some turn →
    ∃ turn', s'.conversationTurns.lookup id = some turn' ∧ turn'.modelId = turn.modelId
  ended : ∀ id snapshot, s.conversationTurns.lookup id = some snapshot.turn →
    TurnRead s snapshot → snapshot.turn.state.isTerminal = true →
      s'.conversationTurns.lookup id = some snapshot.turn ∧ TurnRead s' snapshot

/-! ## Answers and prompts -/

/-- The message shows the answer of a completed turn, found in at most the given number of steps. -/
def ShowsOutcome (s : State) (message : Message) (turnId : ConversationTurnId) (fuel : ℕ) : Prop :=
  ∃ snapshot answer, s.conversationTurns.lookup turnId = some snapshot.turn ∧
    TurnRead s snapshot ∧ snapshot.turn.state = .completed ∧
    snapshot.assistantMessage = some answer ∧
    provenanceReaches s answer turnId fuel [] message = true

/-- The stored answer of a turn. -/
structure StoredAnswer (s : State) (turn : ConversationTurn) (answer : Message) : Prop where
  stored : s.messages.lookup answer.id = some answer
  linked : turn.assistantMessageId = some answer.id
  completed : turn.state = .completed
  threadId : answer.threadId = turn.threadId
  role : answer.role = .assistant
  active : answer.state = .active
  original : answer.derivation = .original

/-- The answer of a read turn is stored. -/
lemma TurnRead.answer {answer : Message} (h : TurnRead s snapshot)
    (hans : snapshot.assistantMessage = some answer) :
    StoredAnswer s snapshot.turn answer := by
  obtain ⟨-, -, -, -, -, -, -, -, hcan⟩ := isCanonicalConversationSnapshot_eq_true.1 h.canonical
  obtain ⟨hdone, hlinked⟩ := isCanonicalAssistantMessage_eq_true hcan
  have hsta : snapshot.turn.state = .completed := hdone.1 (by simp [hans])
  simp only [isCanonicalAssistantMessage, hsta, hans, Bool.and_eq_true, decide_eq_true_eq] at hcan
  obtain ⟨⟨⟨hlink, hthr⟩, -⟩, hmsg⟩ := hcan
  obtain ⟨hrole, hact, horig⟩ := isCanonicalMessage_eq_true hmsg
  have hsto := h.assistantMessage
  rw [hlink, hans] at hsto
  cases hsto with
  | present hsto => exact ⟨hsto, hlink, hsta, hthr, hrole, hact, horig⟩

/-- The stored prompt of a turn. -/
structure StoredPrompt (s : State) (turn : ConversationTurn) (prompt : Message) : Prop where
  stored : s.messages.lookup prompt.id = some prompt
  linked : turn.userMessageId = prompt.id
  threadId : prompt.threadId = turn.threadId
  role : prompt.role = .user

/-- The prompt of a read turn is stored. -/
lemma TurnRead.prompt (h : TurnRead s snapshot) :
    StoredPrompt s snapshot.turn snapshot.userMessage := by
  obtain ⟨-, -, hlink, hthr, -, hmsg, -⟩ :=
    isCanonicalConversationSnapshot_eq_true.1 h.canonical
  simp only [isReachableTurnMessage, Bool.and_eq_true, decide_eq_true_eq] at hmsg
  refine ⟨?_, hlink, hthr.symm, hmsg.1.1.1.1⟩
  rw [← hlink]
  exact h.userMessage

/-! ## The invariant -/

/-- The source of a derived message is a message of the parent thread. -/
structure CopiedMessage (s : State) (message : Message) (kind : ConversationMessageDerivationKind)
    (sourceMessageId : MessageId) (sourceTurnId : ConversationTurnId) (thread : Thread)
    (source : Message) : Prop where
  stored : s.threads.lookup message.threadId = some thread
  parent : ∃ forkedFrom forkKind,
    thread.lineage.origin = .fork source.threadId sourceTurnId forkedFrom forkKind
  sourceStored : s.messages.lookup sourceMessageId = some source
  role : message.role = source.role
  content : message.content = source.content ↔ kind ≠ .editedUser
  outcome : message.role = .assistant → ∃ turnId,
    s.conversationInheritedOutcomes.lookup message.id = some turnId ∧
      ShowsOutcome s message turnId (thread.lineage.forkDepth + 1)

/-- What is known of every stored message. -/
structure MessageRecord (s : State) (id : MessageId) (message : Message) : Prop where
  keyed : message.id = id
  owned : s.threads.contains message.threadId = true
  copied : ∀ kind sourceMessageId sourceTurnId sequence,
    message.derivation = .fork kind sourceMessageId sourceTurnId sequence →
      ∃ thread source,
        CopiedMessage s message kind sourceMessageId sourceTurnId thread source

/-- A turn that a fork started uses the model and the credential of its source turn. -/
structure ForkedTurn (s : State) (id : ConversationTurnId) (lineage : ConversationTurnLineage)
    (turn source : ConversationTurn) (sourceLineage : ConversationTurnLineage) : Prop where
  stored : s.conversationTurns.lookup id = some turn
  sourceStored : s.conversationTurns.lookup source.id = some source
  lineageStored : s.conversationLineages.lookup source.id = some sourceLineage
  modelId : turn.modelId = source.modelId
  credential : lineage.credentialBindingId = sourceLineage.credentialBindingId

/-- The source of the turn that a fork started. -/
def ConversationTurnOrigin.forkSource : ConversationTurnOrigin → Option ConversationTurnId
  | editAndBranch sourceTurnId | regenerate sourceTurnId => some sourceTurnId
  | original | retry _ => none

/-- The records of forks in a store. -/
structure ForkRecords (s : State) : Prop where
  message : ∀ id message, s.messages.lookup id = some message → MessageRecord s id message
  /-- Only copied answers show the outcome of another turn. -/
  outcome : ∀ id turnId, s.conversationInheritedOutcomes.lookup id = some turnId →
    ∃ message, s.messages.lookup id = some message ∧ message.role = .assistant ∧
      message.derivation ≠ .original
  /-- The messages of a frozen context are stored. -/
  context : ∀ id context, s.conversationContexts.lookup id = some context →
    ∀ message ∈ context, s.messages.lookup message.id = some message
  /-- Only stored turns have a lineage. -/
  owned : ∀ id lineage, s.conversationLineages.lookup id = some lineage →
    s.conversationTurns.contains id = true
  forked : ∀ id lineage sourceTurnId, s.conversationLineages.lookup id = some lineage →
    lineage.origin.forkSource = some sourceTurnId → ∃ turn source sourceLineage,
      source.id = sourceTurnId ∧ ForkedTurn s id lineage turn source sourceLineage

lemma ForkRecords.keyed (h : ForkRecords s) : MessagesKeyed s :=
  fun id message hid => (h.message id message hid).keyed

/-- A turn that is not stored has no lineage. -/
theorem ForkRecords.lineage_eq_none (h : ForkRecords s) {id : ConversationTurnId}
    (hid : s.conversationTurns.lookup id = none) : s.conversationLineages.lookup id = none := by
  by_contra hsome
  obtain ⟨lineage, hlin⟩ := Option.ne_none_iff_exists'.1 hsome
  obtain ⟨_, hsto⟩ := contains_iff.1 (h.owned _ _ hlin)
  rw [hid] at hsto
  cases hsto

/-- A message that is not stored shows no outcome. -/
lemma ForkRecords.outcome_eq_none (h : ForkRecords s) (hid : s.messages.lookup id = none) :
    s.conversationInheritedOutcomes.lookup id = none := by
  by_contra hsome
  obtain ⟨turnId, hturn⟩ := Option.ne_none_iff_exists'.1 hsome
  obtain ⟨_, hsto, -⟩ := h.outcome _ _ hturn
  rw [hid] at hsto
  cases hsto

/-- The empty store has the records. -/
lemma ForkRecords.empty : ForkRecords State.empty where
  message id message h := by simp [State.empty] at h
  outcome id turnId h := by simp [State.empty] at h
  context id context h := by simp [State.empty] at h
  owned id lineage h := by simp [State.empty] at h
  forked id lineage sourceTurnId h := by simp [State.empty] at h

/-! ## Later writes -/

/-- A shown outcome stays shown as the store grows. -/
lemma ShowsOutcome.mono {fuel' : ℕ} (h : ShowsOutcome s message turnId fuel)
    (hgrow : ForkGrows s s') (hkey : MessagesKeyed s)
    (hsto : s.messages.lookup message.id = some message) (hfuel : fuel ≤ fuel') :
    ShowsOutcome s' message turnId fuel' := by
  obtain ⟨snapshot, answer, hturn, hread, hdone, hans, hreach⟩ := h
  obtain ⟨hturn', hread'⟩ := hgrow.ended turnId snapshot hturn hread (by rw [hdone]; rfl)
  exact ⟨snapshot, answer, hturn', hread', hdone, hans, provenanceReaches_mono
    hgrow.messages hgrow.outcomes hkey hfuel (fun _ hid => absurd hid (by simp)) hsto hreach⟩

variable {sourceTurnId : ConversationTurnId} {thread : Thread}

/-- A copied message stays a copy as the store grows. -/
lemma CopiedMessage.mono {source : Message}
    {kind : ConversationMessageDerivationKind} {sourceMessageId : MessageId}
    (h : CopiedMessage s message kind sourceMessageId sourceTurnId thread source)
    (hgrow : ForkGrows s s') (hkey : MessagesKeyed s)
    (hsto : s.messages.lookup message.id = some message) :
    ∃ thread', CopiedMessage s' message kind sourceMessageId sourceTurnId thread' source := by
  obtain ⟨thread', hthr, hlin⟩ := hgrow.threads _ _ h.stored
  refine ⟨thread', hthr, ?_, hgrow.messages _ _ h.sourceStored, h.role, h.content, ?_⟩
  · rw [hlin]
    exact h.parent
  · intro hrole
    obtain ⟨turnId, hout, hshows⟩ := h.outcome hrole
    rw [hlin]
    exact ⟨turnId, hgrow.outcomes _ _ hout, hshows.mono hgrow hkey hsto le_rfl⟩

/-- The record of a message stays. -/
lemma MessageRecord.mono (h : MessageRecord s id message) (hgrow : ForkGrows s s')
    (hkey : MessagesKeyed s) (hsto : s.messages.lookup id = some message) :
    MessageRecord s' id message where
  keyed := h.keyed
  owned := by
    obtain ⟨thread, hthr⟩ := contains_iff.1 h.owned
    obtain ⟨thread', hthr', -⟩ := hgrow.threads _ _ hthr
    exact contains_iff.2 ⟨thread', hthr'⟩
  copied kind sourceMessageId sourceTurnId sequence hderivation := by
    obtain ⟨thread, source, hcpd⟩ := h.copied _ _ _ _ hderivation
    obtain ⟨thread', hcpd'⟩ := hcpd.mono hgrow hkey (h.keyed ▸ hsto)
    exact ⟨thread', source, hcpd'⟩

/-- A forked turn stays one. -/
lemma ForkedTurn.mono {id : ConversationTurnId} {lineage sourceLineage : ConversationTurnLineage}
    {turn source : ConversationTurn} (h : ForkedTurn s id lineage turn source sourceLineage)
    (hgrow : ForkGrows s s') (hkey : ∀ id turn, s'.conversationTurns.lookup id = some turn →
      turn.id = id) : ∃ turn' src', src'.id = source.id ∧
        ForkedTurn s' id lineage turn' src' sourceLineage := by
  obtain ⟨turn', hturn, hmodel⟩ := hgrow.turns _ _ h.stored
  obtain ⟨src', hsrc, hsour⟩ := hgrow.turns _ _ h.sourceStored
  have hid := hkey _ _ hsrc
  refine ⟨turn', src', hid, hturn, hid ▸ hsrc, ?_, ?_, h.credential⟩
  · rw [hid]
    exact hgrow.lineages _ _ h.lineageStored
  · rw [hmodel, hsour, h.modelId]

/-- A change that adds only right records. -/
structure ForkStep (s s' : State) : Prop where
  grows : ForkGrows s s'
  message : ∀ id message, s'.messages.lookup id = some message →
    s.messages.lookup id = some message ∨ MessageRecord s' id message
  outcome : ∀ id turnId, s'.conversationInheritedOutcomes.lookup id = some turnId →
    s.conversationInheritedOutcomes.lookup id = some turnId ∨
      ∃ message, s'.messages.lookup id = some message ∧ message.role = .assistant ∧
        message.derivation ≠ .original
  context : ∀ id context, s'.conversationContexts.lookup id = some context →
    s.conversationContexts.lookup id = some context ∨
      ∀ message ∈ context, s'.messages.lookup message.id = some message
  lineage : ∀ id lineage, s'.conversationLineages.lookup id = some lineage →
    s.conversationLineages.lookup id = some lineage ∨
      s'.conversationTurns.contains id = true ∧ ∀ sourceTurnId,
        lineage.origin.forkSource = some sourceTurnId → ∃ turn source sourceLineage,
          source.id = sourceTurnId ∧ ForkedTurn s' id lineage turn source sourceLineage

/-- Such a change keeps the records of forks. -/
theorem ForkRecords.step (h : ForkRecords s) (hs' : Consistent s') (hstep : ForkStep s s') :
    ForkRecords s' where
  message id message hid := by
    rcases hstep.message id message hid with hold | hnew
    · exact (h.message id message hold).mono hstep.grows h.keyed hold
    · exact hnew
  outcome id turnId hid := by
    rcases hstep.outcome id turnId hid with hold | hnew
    · obtain ⟨message, hmsg, hrest⟩ := h.outcome id turnId hold
      exact ⟨message, hstep.grows.messages _ _ hmsg, hrest⟩
    · exact hnew
  context id context hid := by
    rcases hstep.context id context hid with hold | hnew
    · exact fun message hmem => hstep.grows.messages _ _ (h.context id context hold message hmem)
    · exact hnew
  owned id lineage hid := by
    rcases hstep.lineage id lineage hid with hold | hnew
    · obtain ⟨turn, hturn⟩ := contains_iff.1 (h.owned id lineage hold)
      obtain ⟨turn', hturn', -⟩ := hstep.grows.turns _ _ hturn
      exact contains_iff.2 ⟨turn', hturn'⟩
    · exact hnew.1
  forked id lineage sourceTurnId hid horigin := by
    rcases hstep.lineage id lineage hid with hold | hnew
    · obtain ⟨turn, source, sourceLineage, rfl, hforked⟩ := h.forked id lineage _ hold horigin
      obtain ⟨turn', source', hsrc, hforked'⟩ :=
        hforked.mono hstep.grows fun id turn hturn => (hs'.turn id turn hturn).1
      exact ⟨turn', source', sourceLineage, hsrc, hforked'⟩
    · exact hnew.2 sourceTurnId horigin

/-! ## Copying an answer -/

/-- The turns whose answer a message is. -/
def answeredTurns (s : State) (message : Message) : List ConversationTurnId :=
  (s.conversationTurns.values.filter fun turn =>
    turn.assistantMessageId = some message.id).map ConversationTurn.id

/-- What the store finds when it follows a copied answer back. -/
theorem inheritedSourceTurn_eq_ok :
    inheritedSourceTurn s message = .ok turnId ↔
      (answeredTurns s message = [turnId] ∧
          s.conversationInheritedOutcomes.lookup message.id = none ∨
        answeredTurns s message = [] ∧
          s.conversationInheritedOutcomes.lookup message.id = some turnId) ∧
      ∃ turn snapshot answer, s.conversationTurns.lookup turnId = some turn ∧
        conversationSnapshot s turn = .ok snapshot ∧ snapshot.assistantMessage = some answer ∧
        snapshot.turn.state = .completed ∧ answer.content = message.content ∧
        provenanceReaches s answer turnId (maxConversationForkFamilyThreads + 1) [] message
          = true := by
  have hrest : ∀ named, (do
      let srcTurn ← okOr (s.conversationTurns.lookup named)
        (.internal "inherited outcome lost its source turn")
      let snapshot ← conversationSnapshot s srcTurn
      let sourceAssistant ← okOr snapshot.assistantMessage
        (.internal "inherited assistant outcome is inconsistent")
      rejectIf (snapshot.turn.state ≠ .completed ∨ sourceAssistant.content ≠ message.content
        ∨ !provenanceReaches s sourceAssistant named (maxConversationForkFamilyThreads + 1) []
          message) (.internal "inherited assistant outcome is inconsistent")
      return named : Except StoreError ConversationTurnId) = .ok turnId ↔
      named = turnId ∧ ∃ turn snapshot answer, s.conversationTurns.lookup turnId = some turn ∧
        conversationSnapshot s turn = .ok snapshot ∧ snapshot.assistantMessage = some answer ∧
        snapshot.turn.state = .completed ∧ answer.content = message.content ∧
        provenanceReaches s answer turnId (maxConversationForkFamilyThreads + 1) [] message
          = true := by
    intro named
    simp only [bind_eq_ok, okOr_eq_ok, rejectIf_eq_ok, not_or, not_not, Bool.not_eq_true,
      Bool.not_eq_false', return_eq_ok]
    constructor
    · rintro ⟨turn, hturn, snapshot, hsnap, answer, hans, _, ⟨hsta, hcont, hreach⟩, rfl⟩
      exact ⟨rfl, turn, snapshot, answer, hturn, hsnap, hans, hsta, hcont, hreach⟩
    · rintro ⟨rfl, turn, snapshot, answer, hturn, hsnap, hans, hsta, hcont, hreach⟩
      exact ⟨turn, hturn, snapshot, hsnap, answer, hans, (), ⟨hsta, hcont, hreach⟩, rfl⟩
  unfold inheritedSourceTurn
  dsimp only
  rw [← answeredTurns]
  split
  · rename_i named hdir hout
    simp only [ok_bind, hdir, hout]
    rw [hrest named]
    simp
  · rename_i named hdir hout
    simp only [ok_bind, hdir, hout]
    rw [hrest named]
    simp
  · rename_i hoth hoth'
    simp only [error_bind, reduceCtorEq, false_iff]
    rintro (⟨hdir, hout⟩ | ⟨hdir, hout⟩)
    · exact absurd hout (hoth _ hdir)
    · exact absurd hout (hoth' _ hdir)

/-- The turn that the store finds for an answer is the one it shows, and each step back leads to a
parent thread. -/
lemma inheritedSourceTurn_shows (hrecs : ForkRecords s)
    (hsto : s.messages.lookup message.id = some message)
    (hthr : s.threads.lookup message.threadId = some thread)
    (h : inheritedSourceTurn s message = .ok turnId) :
    ShowsOutcome s message turnId (thread.lineage.forkDepth + 1) := by
  obtain ⟨hfnd, turn, snapshot, answer, hturn, hsnap, hans, hdone, -, hreach⟩ :=
    inheritedSourceTurn_eq_ok.1 h
  obtain ⟨rfl, hread, -⟩ := conversationSnapshotWith_eq_ok.1 hsnap
  have hfst := hreach
  simp only [provenanceReaches, Bool.and_eq_true, Bool.or_eq_true, decide_eq_true_eq] at hfst
  obtain ⟨⟨⟨⟨hrole, hact⟩, hcont⟩, -⟩, hend⟩ := hfst
  cases hder : message.derivation with
  | original =>
    -- an original message cannot lead further back
    rw [hder] at hend
    simp only [Bool.false_eq_true, and_false, or_false] at hend
    refine ⟨snapshot, answer, hturn, hread, hdone, hans, ?_⟩
    simp [provenanceReaches, hrole, hact, hcont, hend]
  | fork kind sourceMessageId sourceTurnId seq =>
    obtain ⟨thread', source, hcpd⟩ :=
      (hrecs.message _ _ hsto).copied _ _ _ _ hder
    obtain rfl : thread = thread' := Option.mem_unique hthr hcpd.stored
    obtain ⟨turnId', hout, hshows⟩ := hcpd.outcome hrole
    rw [hout] at hfnd
    rcases hfnd with ⟨-, hnone⟩ | ⟨-, hsome⟩
    · cases hnone
    · rwa [← Option.some.inj hsome]

/-- A copy shows what its source shows. -/
lemma ShowsOutcome.copy {source : Message}
    {kind : ConversationMessageDerivationKind} {seq : Option ℕ}
    (h : ShowsOutcome s source turnId fuel) (hgrow : ForkGrows s s') (hkey : MessagesKeyed s)
    (hsrc : s.messages.lookup source.id = some source)
    (hnew : s.messages.lookup message.id = none) (hrole : message.role = .assistant)
    (hact : message.state = .active) (hcont : message.content = source.content)
    (hder : message.derivation = .fork kind source.id sourceTurnId seq)
    (hkind : kind = .contextCopy ∨ kind = .sourceAssistantCopy ∧ sourceTurnId = turnId)
    (hout : s'.conversationInheritedOutcomes.lookup message.id = some turnId) :
    ShowsOutcome s' message turnId (fuel + 1) := by
  obtain ⟨snapshot, answer, hturn, hread, hdone, hans, hreach⟩ := h
  obtain ⟨hturn', hread'⟩ := hgrow.ended turnId snapshot hturn hread (by rw [hdone]; rfl)
  refine ⟨snapshot, answer, hturn', hread', hdone, hans, ?_⟩
  have hansw : source.content = answer.content := by
    cases fuel with
    | zero => cases hreach
    | succ fuel =>
      simp only [provenanceReaches, Bool.and_eq_true, decide_eq_true_eq] at hreach
      exact hreach.1.1.2
  have hrest : provenanceReaches s' answer turnId fuel [message.id] source = true := by
    refine provenanceReaches_mono hgrow.messages hgrow.outcomes hkey le_rfl ?_ hsrc hreach
    intro id hid
    rw [mem_singleton.1 hid]
    exact .inr hnew
  have hnext := hgrow.messages _ _ hsrc
  rcases hkind with rfl | ⟨rfl, rfl⟩
  all_goals simp [provenanceReaches, hrole, hact, hcont, hansw, hout, hder, hnext, hrest]

/-! ## Every write -/

/-- Updates forget neither threads nor messages. -/
theorem Updates.extends_ (h : AnyUpdates s s') :
    s.threads.Extends s'.threads ∧ s.messages.Extends s'.messages := by
  induction h with
  | refl => exact ⟨.refl _, .refl _⟩
  | tail _ hupd ih =>
    obtain ⟨_, -, hupd⟩ := hupd
    exact ⟨fun id thread hid => hupd.grows.threads _ _ (ih.1 id thread hid),
      fun id message hid => hupd.grows.messages _ _ (ih.2 id message hid)⟩

/-- A write that forgets neither outcomes nor lineages grows the store. -/
theorem Write.forkGrows (h : Write ends s s') (hs : Consistent s)
    (houtc : s.conversationInheritedOutcomes.Extends s'.conversationInheritedOutcomes)
    (hlin : s.conversationLineages.Extends s'.conversationLineages) : ForkGrows s s' := by
  have hupd : AnyUpdates s s' := h.updates hs trivial fun _ _ => trivial
  refine ⟨fun id thread hid => ⟨thread, hupd.extends_.1 _ _ hid, rfl⟩, hupd.extends_.2,
    houtc, hlin, ?_, fun id snapshot hturn hread hend => hupd.ended hturn hread hend⟩
  intro id turn hturn
  rcases h.turn_cases id with hsame | ⟨hnone, -⟩ | ⟨old, new, hold, hnew, -, hmov, -⟩
  · exact ⟨turn, hsame.trans hturn, rfl⟩
  · rw [hnone] at hturn
    cases hturn
  · obtain rfl := Option.mem_unique hold hturn
    exact ⟨new, hnew, hmov.modelId⟩

/-- The tables that a write leaves alone hold no new records. -/
theorem ForkStep.of_same (hgrow : ForkGrows s s')
    (hmsg : ∀ id message, s'.messages.lookup id = some message →
      s.messages.lookup id = some message ∨ MessageRecord s' id message)
    (houtc : s'.conversationInheritedOutcomes = s.conversationInheritedOutcomes)
    (hctxs : s'.conversationContexts = s.conversationContexts)
    (hlin : s'.conversationLineages = s.conversationLineages) : ForkStep s s' where
  grows := hgrow
  message := hmsg
  outcome _ _ hid := .inl (houtc ▸ hid)
  context _ _ hid := .inl (hctxs ▸ hid)
  lineage _ _ hid := .inl (hlin ▸ hid)

lemma MessageRecord.of_original (hid : message.id = id)
    (hthr : s.threads.contains message.threadId = true)
    (horig : message.derivation = .original) : MessageRecord s id message where
  keyed := hid
  owned := hthr
  copied kind sourceMessageId sourceTurnId sequence hderivation := by
    rw [horig] at hderivation
    cases hderivation

/-- The messages of a context that is being frozen are stored, or the prompt. -/
lemma captureContext_stored (hrecs : ForkRecords s) {prompt : Message}
    {ctx : List Message} (h : captureContext s input = .ok (prompt, ctx)) :
    ∀ message ∈ ctx, s.messages.lookup message.id = some message ∨ message = prompt := by
  unfold captureContext at h
  split at h
  · simp only [captureConversationContext, bind_eq_ok] at h
    obtain ⟨seq, -, _, -, _, -, rfl, rfl⟩ := h
    intro message hmem
    rcases mem_append.1 hmem with hmem | hmem
    · have helig := (perm_insertionSort _ _).mem_iff.1 hmem
      exact .inl (mem_eligibleMessages hrecs.keyed helig).1
    · exact .inr (mem_singleton.1 hmem)
  · simp only [captureRetryContext, bind_eq_ok, okOr_eq_ok] at h
    obtain ⟨_, -, _, -, _, -, _, -, seq, -, source, hsrc, _, -, _, -, rfl, rfl⟩ := h
    intro message hmem
    rcases mem_append.1 hmem with hmem | hmem
    · exact .inl (hrecs.context _ _ hsrc message (mem_of_mem_dropLast hmem))
    · exact .inr (mem_singleton.1 hmem)

/-- An accepted reservation brings an original prompt of its thread, and starts no fork. -/
theorem acceptsReservationInput_parts (h : acceptsReservationInput input = true) :
    input.turn.threadId = input.userMessage.threadId ∧
      input.userMessage.derivation = .original ∧ input.lineage.origin.forkSource = none := by
  simp only [acceptsReservationInput, isCanonicalReservationInput, Bool.and_eq_true,
    decide_eq_true_eq] at h
  obtain ⟨⟨⟨hcan, -⟩, hsrc⟩, -⟩ := h
  obtain ⟨⟨⟨⟨⟨⟨⟨-, hthr⟩, -⟩, -⟩, -⟩, hmsg⟩, -⟩, -⟩ := hcan
  refine ⟨hthr, (isCanonicalMessage_eq_true hmsg).2.2, ?_⟩
  unfold reservationSourceMatchesLineage at hsrc
  split at hsrc <;> simp_all [ConversationTurnOrigin.forkSource]

/-- A reservation adds a prompt, its context and its lineage. -/
theorem ReservationChecked.forkStep {prep : PreparedReservation}
    (h : ReservationChecked s input prep) (hacc : acceptsReservationInput input = true)
    (hrecs : ForkRecords s) (hgrow : ForkGrows s (s.writeReservation input prep)) :
    ForkStep s (s.writeReservation input prep) := by
  obtain ⟨seq, hseqd⟩ := h.sequenced
  obtain ⟨thread, _, hthr, -⟩ := h.owned
  obtain ⟨htid, horig, hfork⟩ := acceptsReservationInput_parts hacc
  have hpr : (s.writeReservation input prep).messages.lookup prep.userMessage.id
      = some prep.userMessage := lookup_insert_self _ _ _
  refine ⟨hgrow, ?_, fun _ _ hid => .inl hid, ?_, ?_⟩
  · intro id message hid
    rcases lookup_insert_cases hid with hold | ⟨rfl, rfl⟩
    · exact .inl hold
    · refine .inr (.of_original rfl ?_ ?_)
      · rw [hseqd]
        exact contains_iff.2 ⟨thread, htid ▸ hthr⟩
      · rw [hseqd]
        exact horig
  · intro id ctx hid
    rcases lookup_insert_cases hid with hold | ⟨-, rfl⟩
    · exact .inl hold
    · refine .inr fun message hmem => ?_
      rcases captureContext_stored hrecs h.captured message hmem with hsto | rfl
      · exact hgrow.messages _ _ hsto
      · exact hpr
  · intro id lineage hid
    rcases lookup_insert_cases hid with hold | ⟨rfl, rfl⟩
    · exact .inl hold
    · refine .inr ⟨contains_iff.2 ⟨_, lookup_insert_self _ _ _⟩, ?_⟩
      intro sourceTurnId hsrc
      rw [hfork] at hsrc
      cases hsrc

/-- A checked fork writes the lineage and the context of the turn it starts, if any. -/
theorem ForkChecked.startedTables (h : ForkChecked s plan prep source parent kind srcMsg)
    (hcop : ForkCopies s plan prep source parent kind srcCtx) :
    match plan.startedTurn with
    | none => (s.writeFork plan prep).conversationLineages = s.conversationLineages ∧
        (s.writeFork plan prep).conversationContexts = s.conversationContexts
    | some turnPlan => (s.writeFork plan prep).conversationLineages
          = s.conversationLineages.insert turnPlan.turn.id turnPlan.lineage ∧
        (s.writeFork plan prep).conversationContexts
          = s.conversationContexts.insert turnPlan.turn.id plan.messages := by
  cases hplan : plan.startedTurn with
  | none => simp [writeFork, writeForkThread, hplan]
  | some turnPlan =>
    obtain ⟨ctx, event, _, hctx, hev, -⟩ := h.turn turnPlan hplan
    have hmsgs : ctx = plan.messages := by
      have hcont' := hctx.symm.trans hcop.messages.context_eq
      split at hcont'
      · cases hcont'
      · exact Option.some.inj hcont'
    simp [writeFork, writeForkThread, insertTurn, appendEvents, hplan, hctx, hev, hmsgs]

/-- Where a message of a plan is derived from. -/
theorem ForkMessages.origin {inherited : List (MessageId × ConversationTurnId)}
    {ctx : Option (List Message)}
    (h : ForkMessages s plan source kind srcCtx inherited ctx) {message : Message}
    (hmem : message ∈ plan.messages) : ∃ i origin, plan.messages[i]? = some message ∧
      (forkOrigins kind source srcCtx)[i]? = some origin ∧
      DerivedFrom plan source (i + 1) message origin.1 origin.2 := by
  obtain ⟨i, hi⟩ := List.getElem?_of_mem hmem
  have hlt : i < (forkOrigins kind source srcCtx).length := by
    rw [← h.length_eq]
    exact (List.getElem?_eq_some_iff.1 hi).1
  have hori := List.getElem?_eq_getElem hlt
  exact ⟨i, _, hi, hori, h.derived _ _ _ hi hori⟩

section Copies

variable (h : ForkChecked s plan prep source parent kind srcMsg) (hs : Consistent s)
  (hrecs : ForkRecords s) (hcop : ForkCopies s plan prep source parent kind srcCtx)

include h hs hrecs hcop

/-- The messages that a fork derives its messages from are stored messages of the parent. -/
theorem ForkChecked.origin_stored {origin : ConversationMessageDerivationKind × Message}
    (hori : origin ∈ forkOrigins kind source srcCtx) :
    s.messages.lookup origin.2.id = some origin.2 ∧ origin.2.threadId = parent.id := by
  obtain ⟨-, hread⟩ := loadSnapshot_read h.loaded
  have hpar : parent.id = source.turn.threadId := (hs.thread _ _ h.parentStored).id
  rw [hpar]
  rcases mem_forkOrigins hori with ⟨-, hmem, -⟩ | ⟨-, -, hans⟩ | ⟨-, -, hpr⟩
  · exact ⟨hrecs.context _ _ hcop.frozen _ hmem, ((contextIsOrdered_parts hcop.ordered).1 _ hmem).1⟩
  · have hsto := hread.answer hans
    exact ⟨hsto.stored, hsto.threadId⟩
  · rw [hpr]
    exact ⟨hread.prompt.stored, hread.prompt.threadId⟩

/-- A copied answer of a plan shows the outcome that is written for it. -/
lemma ForkChecked.shows_copy
    (hgrow : ForkGrows s (s.writeFork plan prep)) {message : Message}
    (hmem : message ∈ plan.messages) (hrole : message.role = .assistant) :
    ∃ turnId, (s.writeFork plan prep).conversationInheritedOutcomes.lookup message.id
        = some turnId ∧
      ShowsOutcome (s.writeFork plan prep) message turnId (parent.lineage.forkDepth + 1 + 1) := by
  have hids : message.id ∈ prep.inheritedOutcomes.map Prod.fst := by
    rw [hcop.messages.outcomeIds]
    exact mem_map.2 ⟨message, mem_filter.2 ⟨hmem, decide_eq_true hrole⟩, rfl⟩
  obtain ⟨⟨id, turnId⟩, hent, hid⟩ := mem_map.1 hids
  have hnd : (prep.inheritedOutcomes.map Prod.fst).Nodup := by
    rw [hcop.messages.outcomeIds]
    exact h.messages.2.sublist (Sublist.map _ filter_sublist)
  have hout : (s.writeFork plan prep).conversationInheritedOutcomes.lookup message.id
      = some turnId := by
    rw [writeFork_outcomes, ← hid]
    exact lookup_foldl_insert_of_mem _ hent hnd
  obtain ⟨i, message', origin, hi, hori, hmsg, hshown⟩ := hcop.messages.outcomes _ hent
  obtain rfl : message = message' :=
    inj_on_of_nodup_map h.messages.2 hmem (mem_of_getElem? hi) (hid.symm.trans hmsg.symm)
  have hder := hcop.messages.derived i _ _ hi hori
  obtain ⟨hsto, hthr⟩ := h.origin_stored hs hrecs hcop (mem_of_getElem? hori)
  have hpar : s.threads.lookup origin.2.threadId = some parent := by
    rw [hthr, (hs.thread _ _ h.parentStored).id]
    exact h.parentStored
  have hnew := h.messages.1 message hmem
  refine ⟨turnId, hout, ?_⟩
  rcases hshown with ⟨hkind, hsrc⟩ | ⟨hkind, hans, rfl⟩
  · exact (inheritedSourceTurn_shows hrecs hsto hpar hsrc).copy hgrow hrecs.keyed
      hsto hnew hrole hder.active (hder.content.2 (by simp [hkind])) hder.derivation
      (.inl hkind) hout
  · obtain ⟨hturn, hread⟩ := loadSnapshot_read h.loaded
    rw [← (hs.turn _ _ hturn).1] at hturn
    -- the answer shows itself
    have hown := hread.answer hans
    have hshows : ∀ fuel, ShowsOutcome s origin.2 source.turn.id (fuel + 1) := fun fuel =>
      ⟨source, origin.2, hturn, hread, hown.completed, hans, by
        simp [provenanceReaches, hown.role, hown.active]⟩
    exact (hshows _).copy hgrow hrecs.keyed hsto hnew hrole hder.active
      (hder.content.2 (by simp [hkind])) hder.derivation (.inr ⟨hkind, rfl⟩) hout

/-- A message of a plan is a right record. -/
lemma ForkChecked.messageRecord
    (hgrow : ForkGrows s (s.writeFork plan prep)) {message : Message}
    (hmem : message ∈ plan.messages) :
    MessageRecord (s.writeFork plan prep) message.id message := by
  obtain ⟨i, origin, hi, hori, hderived⟩ := hcop.messages.origin hmem
  obtain ⟨hsto, hthr⟩ := h.origin_stored hs hrecs hcop (mem_of_getElem? hori)
  have hch : (s.writeFork plan prep).threads.lookup message.threadId
      = some plan.childThread := by
    rw [writeFork_threads, hderived.threadId]
    exact lookup_insert_self _ _ _
  refine ⟨rfl, contains_iff.2 ⟨_, hch⟩, ?_⟩
  intro derivationKind sourceMessageId sourceTurnId seq hder
  rw [hderived.derivation] at hder
  obtain ⟨rfl, rfl, rfl, -⟩ := hder
  refine ⟨plan.childThread, origin.2, hch, ⟨_, _, hthr ▸ h.origin⟩,
    hgrow.messages _ _ hsto, hderived.role, hderived.content, fun hrole => ?_⟩
  rw [h.depth]
  exact h.shows_copy hs hrecs hcop hgrow hmem hrole

omit hrecs in
/-- The turn that a fork starts is a right record. -/
theorem ForkChecked.forkedTurn (hgrow : ForkGrows s (s.writeFork plan prep))
    {turnPlan : ConversationForkTurnPlan} (hplan : plan.startedTurn = some turnPlan) :
    turnPlan.lineage.origin.forkSource = some source.turn.id ∧
      ForkedTurn (s.writeFork plan prep) turnPlan.turn.id turnPlan.lineage turnPlan.turn
        source.turn source.lineage := by
  have hstd := hcop.started turnPlan hplan
  obtain ⟨hturn, hread⟩ := loadSnapshot_read h.loaded
  rw [← (hs.turn _ _ hturn).1] at hturn
  have hend := hgrow.ended _ source hturn hread (forkSourceEligible_isTerminal h.eligible)
  refine ⟨?_, ?_, hend.1, hgrow.lineages _ _ hread.lineage, hstd.modelId,
    hstd.credential.trans hcop.binding.symm⟩
  · have hori := hstd.origin
    cases kind <;> simp [forkTurnOrigin] at hori <;>
      rw [← hori] <;> rfl
  · rw [h.conversationTurns, hplan]
    exact lookup_insert_self _ _ _

/-- A fork forgets neither outcomes nor lineages. -/
theorem ForkChecked.forkGrows : ForkGrows s (s.writeFork plan prep) := by
  have hwr : Write Set.univ s (s.writeFork plan prep) := .fork _ _ _ _ _ _ _ h
  refine hwr.forkGrows hs ?_ ?_
  · rw [writeFork_outcomes]
    refine .foldl_insert fun id hid => ?_
    rw [hcop.messages.outcomeIds] at hid
    obtain ⟨message, hmem, rfl⟩ := mem_map.1 hid
    exact hrecs.outcome_eq_none (h.messages.1 message (mem_of_mem_filter hmem))
  · have htab := h.startedTables hcop
    cases hplan : plan.startedTurn with
    | none =>
      rw [hplan] at htab
      rw [htab.1]
    | some turnPlan =>
      rw [hplan] at htab
      obtain ⟨_, _, _, -, -, hturn⟩ := h.turn turnPlan hplan
      rw [htab.1]
      exact .insert _ (hrecs.lineage_eq_none hturn.newTurn)

end Copies

/-- A fork adds only right records. -/
theorem ForkChecked.forkStep
    (h : ForkChecked s plan prep source parent kind srcMsg) (hs : Consistent s)
    (hrec : ForkRecords s) : ForkStep s (s.writeFork plan prep) := by
  obtain ⟨srcCtx, hcop⟩ := h.copies
  have hgrow := h.forkGrows hs hrec hcop
  have hstor : ∀ message ∈ plan.messages,
      (s.writeFork plan prep).messages.lookup message.id = some message := by
    intro message hmem
    rw [writeFork_messages]
    exact lookup_insertAll_of_mem _ _ hmem h.messages.2
  have htabl := h.startedTables hcop
  refine ⟨hgrow, ?_, ?_, ?_, ?_⟩
  · intro id message hid
    rw [writeFork_messages] at hid
    rcases lookup_insertAll_cases _ _ hid with hold | ⟨hmem, rfl⟩
    · exact .inl hold
    · exact .inr (h.messageRecord hs hrec hcop hgrow hmem)
  · intro id turnId hid
    rw [writeFork_outcomes] at hid
    rcases lookup_foldl_insert_cases _ hid with hold | hent
    · exact .inl hold
    · obtain ⟨i, message, origin, hi, horig, rfl, hshown⟩ := hcop.messages.outcomes _ hent
      have hmem := mem_of_getElem? hi
      have hids : message.id ∈ prep.inheritedOutcomes.map Prod.fst :=
        mem_map.2 ⟨_, hent, rfl⟩
      rw [hcop.messages.outcomeIds] at hids
      obtain ⟨msg', hmem', heq⟩ := mem_map.1 hids
      obtain ⟨hmem', hrole⟩ := mem_filter.1 hmem'
      obtain rfl := inj_on_of_nodup_map h.messages.2 hmem' hmem heq
      refine .inr ⟨msg', hstor _ hmem, of_decide_eq_true hrole, ?_⟩
      rw [(hcop.messages.derived i _ _ hi horig).derivation]
      simp
  · intro id ctx hid
    cases hplan : plan.startedTurn with
    | none =>
      rw [hplan] at htabl
      exact .inl (htabl.2 ▸ hid)
    | some turnPlan =>
      rw [hplan] at htabl
      rw [htabl.2] at hid
      rcases lookup_insert_cases hid with hold | ⟨-, rfl⟩
      · exact .inl hold
      · exact .inr hstor
  · intro id lineage hid
    cases hplan : plan.startedTurn with
    | none =>
      rw [hplan] at htabl
      exact .inl (htabl.1 ▸ hid)
    | some turnPlan =>
      rw [hplan] at htabl
      rw [htabl.1] at hid
      obtain ⟨hsrc, hfork⟩ := h.forkedTurn hs hcop hgrow hplan
      rcases lookup_insert_cases hid with hold | ⟨rfl, rfl⟩
      · exact .inl hold
      · refine .inr ⟨contains_iff.2 ⟨_, hfork.stored⟩, ?_⟩
        intro sourceTurnId hsour
        exact ⟨_, _, _, Option.mem_unique hsrc hsour, hfork⟩

/-- The answer that the end of a turn adds belongs to a stored thread. -/
theorem TerminalChecked.answer_original {commit : TerminalTurnCommit}
    {cur : ConversationTurnSnapshot} {assistant : Option Message}
    {turnEvents : List ConversationTurnEvent}
    (h : TerminalChecked s commit cur assistant turnEvents) {answer : Message}
    (hans : assistant = some answer) :
    s.threads.contains answer.threadId = true ∧ answer.derivation = .original := by
  obtain ⟨-, hread⟩ := loadSnapshot_read h.loaded
  obtain ⟨hthr, horig⟩ := h.answer_eq hans
  obtain ⟨thread, hsto, -⟩ := hread.thread
  refine ⟨contains_iff.2 ⟨thread, ?_⟩, horig⟩
  rw [hthr, h.moved.threadId]
  exact hsto

/-- Every write adds only right records. -/
theorem Write.forkStep (h : Write ends s s') (hs : Consistent s) (hrecs : ForkRecords s) :
    ForkStep s s' := by
  have hwr := h
  cases h with
  | journal _ hj =>
    have hgrow := hwr.forkGrows hs (by rw [← hj]; rfl) (by rw [← hj]; rfl)
    rw [← hj] at hgrow ⊢
    exact .of_same hgrow (fun _ _ hid => .inl hid) rfl rfl rfl
  | project project hnew | thread thread hproj hnew hrest hori =>
    exact .of_same (hwr.forkGrows hs (.refl _) (.refl _)) (fun _ _ hid => .inl hid) rfl rfl rfl
  | message message hnew hthr horig hseq =>
    refine .of_same (hwr.forkGrows hs (.refl _) (.refl _)) (fun id msg' hid => ?_) rfl rfl rfl
    rcases lookup_insert_cases hid with hold | ⟨rfl, rfl⟩
    · exact .inl hold
    · exact .inr (.of_original rfl hthr horig)
  | reserve input prep hacc hkey hchk =>
    exact hchk.forkStep hacc hrecs (hwr.forkGrows hs (.refl _)
      (.insert _ (hrecs.lineage_eq_none hchk.newTurn)))
  | fork plan prep source parent kind srcMsg hchk =>
    exact hchk.forkStep hs hrecs
  | start commit cur turnEvents hchk | text append evs turn log log' hchk =>
    exact .of_same (hwr.forkGrows hs (.refl _) (.refl _)) (fun _ _ hid => .inl hid) rfl rfl rfl
  | terminal commit cur assistant turnEvents hchk hends =>
    have hgrow := hwr.forkGrows hs (.refl _) (.refl _)
    refine .of_same hgrow (fun id message hid => ?_) rfl rfl rfl
    cases hasst : assistant with
    | none =>
      rw [hasst] at hid
      exact .inl hid
    | some answer =>
      rw [hasst] at hid
      rcases lookup_insert_cases hid with hold | ⟨rfl, rfl⟩
      · exact .inl hold
      · obtain ⟨hthr, horig⟩ := hchk.answer_original hasst
        exact .inr (.of_original rfl hthr horig)

/-- Every write keeps the records. -/
lemma Writes.forkRecords (h : Writes ends s s') (hs : Consistent s) (hrecs : ForkRecords s) :
    ForkRecords s' := by
  induction h with
  | refl => exact hrecs
  | tail hbef hwr ih =>
    have hcons := (Writes.updates hbef hs).consistent hs
    have hnext := (Writes.updates (.single hwr) hcons).consistent hcons
    exact ih.step hnext (hwr.forkStep hcons ih)

/-- Every reachable store has the records. -/
lemma run_forkRecords (ops : List StoreOperation) :
    ForkRecords (State.empty.run ops) :=
  (run_writes ops).forkRecords .empty .empty

end Lineage

end GrokDesktop
