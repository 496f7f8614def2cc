import GrokDesktop.Memory.Contexts

/-!
# What a fork copies

The messages of an accepted plan are exactly the derived messages of its source: a copy of the
frozen context, with the answer of the source turn for a branch and with an edited prompt for an
edit. `ForkCopies` says so position by position, and names the turn whose outcome each copied answer
shows.
-/

namespace GrokDesktop

open Except List

/-- The messages that the messages of a fork are derived from, in order. -/
def forkOrigins (kind : ConversationForkKind) (source : ConversationTurnSnapshot)
    (sourceContext : List Message) : List (ConversationMessageDerivationKind × Message) :=
  match kind with
  | .branch => sourceContext.map (.contextCopy, ·) ++
      source.assistantMessage.toList.map (.sourceAssistantCopy, ·)
  | .editAndBranch => sourceContext.dropLast.map (.contextCopy, ·) ++
      [(.editedUser, source.userMessage)]
  | .regenerate => sourceContext.map (.contextCopy, ·)

/-- The message at a position of a plan is derived from another one in the given way. -/
structure DerivedFrom (plan : ConversationForkPlan) (source : ConversationTurnSnapshot)
    (position : ℕ) (message : Message) (kind : ConversationMessageDerivationKind)
    (sourceMessage : Message) : Prop where
  threadId : message.threadId = plan.childThread.id
  sequence : message.sequence = position
  role : message.role = sourceMessage.role
  active : message.state = .active
  derivation : message.derivation = .fork kind sourceMessage.id source.turn.id
    (if kind = .sourceAssistantCopy then none else some position)
  content : message.content = sourceMessage.content ↔ kind ≠ .editedUser

section Copies

variable [UrlLibrary] {s : State} {plan : ConversationForkPlan}
  {source : ConversationTurnSnapshot}

variable {ids : List MessageId} {inherited : List (MessageId × ConversationTurnId)}
  {sourceMessage : Message} {sourceContext : List Message} {kind : ConversationForkKind}
  {context : Option (List Message)}

/-- What the checks of the context copies of a plan establish. -/
lemma validateContextCopies_derived {pairs : List (Message × Message)} {position : ℕ}
    {ids' : List MessageId}
    (h : validateContextCopies s plan source position ids pairs = .ok (ids', inherited)) :
    (∀ i pair, pairs[i]? = some pair →
      DerivedFrom plan source (position + i) pair.1 .contextCopy pair.2) ∧
    inherited.map Prod.fst
      = (pairs.filter fun pair => pair.1.role = .assistant).map (·.1.id) ∧
    ∀ entry ∈ inherited, ∃ pair ∈ pairs, pair.1.id = entry.1 ∧ pair.2.role = .assistant ∧
      inheritedSourceTurn s pair.2 = .ok entry.2 := by
  induction pairs generalizing position ids inherited with
  | nil =>
    simp only [validateContextCopies, Except.ok.injEq, Prod.mk.injEq] at h
    simp [← h.2]
  | cons pair rest ih =>
    obtain ⟨msg, sourceMessage⟩ := pair
    simp only [validateContextCopies, bind_eq_ok, validateNewForkMessage, rejectIf_eq_ok, not_or,
      not_not, mapError_eq_ok, return_eq_ok] at h
    obtain ⟨expected, hexp, _, ⟨_, ⟨hmsg, -, -⟩, rfl⟩, first, hfst,
      ⟨_, restInherited⟩, hrest, heq⟩ := h
    obtain ⟨rfl, rfl⟩ := Prod.mk.inj heq
    obtain ⟨hder, hids, hentr⟩ := ih hrest
    have hexp := (Message.newDerived_eq_ok hexp).1
    rw [← hmsg] at hexp
    have hrole : msg.role = sourceMessage.role := by rw [hexp]
    refine ⟨?_, ?_, ?_⟩
    · rintro (_ | i) pair hpair
      · obtain rfl : (msg, sourceMessage) = pair := by simpa using hpair
        exact ⟨by rw [hexp], by rw [hexp]; rfl, hrole, by rw [hexp],
          by rw [hexp]; rfl, by rw [hexp]; simp⟩
      · have hnext := hder i pair (by simpa using hpair)
        rwa [Nat.add_right_comm] at hnext
    · unfold inheritedOutcome at hfst
      split at hfst
      · rename_i hass
        obtain ⟨turnId, -, rfl⟩ := map_eq_ok.1 hfst
        simp [hrole, hass, hids]
      · rename_i hass
        obtain rfl := Except.ok.inj hfst
        simp [hrole, hass, hids]
    · intro entry hent
      rcases mem_append.1 hent with hent | hent
      · unfold inheritedOutcome at hfst
        split at hfst
        · rename_i hass
          obtain ⟨turnId, hturn, rfl⟩ := map_eq_ok.1 hfst
          obtain rfl := mem_singleton.1 hent
          exact ⟨_, mem_cons_self, rfl, hass, hturn⟩
        · obtain rfl := Except.ok.inj hfst
          cases hent
      · obtain ⟨pair, hpair, hrest⟩ := hentr entry hent
        exact ⟨pair, mem_cons_of_mem _ hpair, hrest⟩

omit [UrlLibrary] in
/-- What the checks of the last message of a plan establish. -/
lemma validateLastMessage_derived {role : MessageRole} {content : String}
    {contextSequence : Option ℕ} {kind : ConversationMessageDerivationKind} {msg : Message}
    (h : validateLastMessage s plan ids role content sourceMessage.id source.turn.id
      contextSequence kind = .ok msg)
    (hseq : contextSequence
      = if kind = .sourceAssistantCopy then none else some plan.messages.length)
    (hrole : role = sourceMessage.role)
    (hcont : content = sourceMessage.content ↔ kind ≠ .editedUser) :
    plan.messages.getLast? = some msg ∧
      DerivedFrom plan source plan.messages.length msg kind sourceMessage := by
  simp only [validateLastMessage, bind_eq_ok, okOr_eq_ok, validateNewForkMessage, rejectIf_eq_ok,
    not_or, not_not, mapError_eq_ok, return_eq_ok] at h
  obtain ⟨_, hlast, expected, hexp, _, ⟨_, ⟨hmsg, -, -⟩, -⟩, rfl⟩ := h
  have hexp := (Message.newDerived_eq_ok hexp).1
  rw [← hmsg] at hexp
  refine ⟨hlast, by rw [hexp], by rw [hexp], ?_, by rw [hexp],
    by rw [hexp, hseq], ?_⟩
  · rw [hexp]
    exact hrole
  · rw [hexp]
    exact hcont

/-- The messages of a plan are derived one by one from the origins, and the copied answers among
them, and no other message, show the outcome of a turn. -/
structure ForkMessages (s : State) (plan : ConversationForkPlan) (source : ConversationTurnSnapshot)
    (kind : ConversationForkKind) (sourceContext : List Message)
    (inherited : List (MessageId × ConversationTurnId)) (context : Option (List Message)) :
    Prop where
  length_eq : plan.messages.length = (forkOrigins kind source sourceContext).length
  derived : ∀ i message origin, plan.messages[i]? = some message →
    (forkOrigins kind source sourceContext)[i]? = some origin →
      DerivedFrom plan source (i + 1) message origin.1 origin.2
  outcomeIds : inherited.map Prod.fst
    = (plan.messages.filter fun message => message.role = .assistant).map Message.id
  outcomes : ∀ entry ∈ inherited, ∃ (i : ℕ) (message : Message)
    (origin : ConversationMessageDerivationKind × Message), plan.messages[i]? = some message ∧
      (forkOrigins kind source sourceContext)[i]? = some origin ∧ message.id = entry.1 ∧
      (origin.1 = .contextCopy ∧ inheritedSourceTurn s origin.2 = .ok entry.2 ∨
        origin.1 = .sourceAssistantCopy ∧ source.assistantMessage = some origin.2 ∧
          entry.2 = source.turn.id)
  /-- The turn that a fork starts is sent with the messages of the plan. -/
  context_eq : context = if kind = .branch then none else some plan.messages

/-- The turn that a fork starts answers the last message of the plan with the model and the
credential of the source turn. -/
structure StartedFrom (plan : ConversationForkPlan) (source : ConversationTurnSnapshot)
    (kind : ConversationForkKind) (credentialBindingId : String)
    (turnPlan : ConversationForkTurnPlan) : Prop where
  origin : forkTurnOrigin kind source.turn.id = some turnPlan.lineage.origin
  credential : turnPlan.lineage.credentialBindingId = some credentialBindingId
  modelId : turnPlan.turn.modelId = source.turn.modelId
  prompt : ∃ message, plan.messages.getLast? = some message ∧
    turnPlan.turn.userMessageId = message.id

/-- What an accepted plan copies. -/
structure ForkCopies (s : State) (plan : ConversationForkPlan) (prepared : PreparedConversationFork)
    (source : ConversationTurnSnapshot) (parent : Thread) (kind : ConversationForkKind)
    (sourceContext : List Message) : Prop where
  /-- The source turn has a frozen context that ends with its prompt. -/
  frozen : s.conversationContexts.lookup source.turn.id = some sourceContext
  ordered : contextIsOrdered source.turn.threadId 0 [] sourceContext = true
  prompt : sourceContext.getLast? = some source.userMessage
  /-- The family has room for the child. -/
  children : (s.threads.values.filter (·.isChildOf parent.id)).length
    < maxConversationForkDirectChildren
  family : (s.familyThreads parent.lineage.rootThreadId).length < maxConversationForkFamilyThreads
  messages : ForkMessages s plan source kind sourceContext prepared.inheritedOutcomes
    prepared.context
  budget : validateProjectedForkMetadataBudget s plan prepared.inheritedOutcomes = .ok ()
  /-- The child keeps the credential and the model of the source turn. -/
  binding : source.lineage.credentialBindingId = some prepared.credentialBindingId
  modelId : prepared.modelId = source.turn.modelId
  started : ∀ turnPlan, plan.startedTurn = some turnPlan →
    StartedFrom plan source kind prepared.credentialBindingId turnPlan

/-- The copies of the first messages of a context, as positions of a plan. -/
lemma contextCopies_derived {count : ℕ}
    (h : validateContextCopies s plan source 1 []
      ((plan.messages.take count).zip sourceContext) = .ok (ids, inherited)) :
    (∀ i msg sourceMessage, i < count → plan.messages[i]? = some msg →
      sourceContext[i]? = some sourceMessage →
        DerivedFrom plan source (i + 1) msg .contextCopy sourceMessage) ∧
    (count ≤ sourceContext.length → inherited.map Prod.fst =
      ((plan.messages.take count).filter fun msg => msg.role = .assistant).map Message.id) ∧
    ∀ entry ∈ inherited, ∃ (i : ℕ) (msg sourceMessage : Message), i < count ∧
      plan.messages[i]? = some msg ∧ sourceContext[i]? = some sourceMessage ∧
      msg.id = entry.1 ∧ inheritedSourceTurn s sourceMessage = .ok entry.2 := by
  obtain ⟨hder, hids, hents⟩ := validateContextCopies_derived h
  have hzip : ∀ i msg sourceMessage,
      ((plan.messages.take count).zip sourceContext)[i]? = some (msg, sourceMessage) ↔
        i < count ∧ plan.messages[i]? = some msg ∧ sourceContext[i]? = some sourceMessage := by
    intro i msg sourceMessage
    rw [List.getElem?_zip_eq_some, List.getElem?_take]
    split <;> simp_all
  refine ⟨?_, ?_, ?_⟩
  · intro i msg sourceMessage hi hmsg hsrc
    rw [Nat.add_comm]
    exact hder i _ ((hzip i msg sourceMessage).2 ⟨hi, hmsg, hsrc⟩)
  · intro hcnt
    have hfst : ((plan.messages.take count).zip sourceContext).map Prod.fst
        = plan.messages.take count :=
      map_fst_zip (by rw [length_take]; omega)
    rw [hids]
    nth_rewrite 2 [← hfst]
    rw [filter_map, map_map]
    rfl
  · intro entry hent
    obtain ⟨⟨msg, sourceMessage⟩, hpair, hid, -, hturn⟩ := hents entry hent
    obtain ⟨i, hi⟩ := List.getElem?_of_mem hpair
    obtain ⟨hcnt, hmsg, hsrc⟩ := (hzip i msg sourceMessage).1 hi
    exact ⟨i, msg, sourceMessage, hcnt, hmsg, hsrc, hid, hturn⟩

/-- The messages of a plan are its context copies alone. -/
theorem ForkMessages.of_copies
    (h : validateContextCopies s plan source 1 []
      ((plan.messages.take sourceContext.length).zip sourceContext) = .ok (ids, inherited))
    (hlen : plan.messages.length = sourceContext.length) :
    ForkMessages s plan source .regenerate sourceContext inherited (some plan.messages) := by
  obtain ⟨hder, hids, hents⟩ := contextCopies_derived h
  refine ⟨by simp [forkOrigins, hlen], ?_, ?_, ?_, rfl⟩
  · intro i msg origin hmsg hori
    simp only [forkOrigins, List.getElem?_map, Option.map_eq_some_iff] at hori
    obtain ⟨sourceMessage, hsrc, rfl⟩ := hori
    exact hder i _ _ (List.getElem?_eq_some_iff.1 hsrc).1 hmsg hsrc
  · rw [hids le_rfl, ← hlen, List.take_length]
  · intro entry hent
    obtain ⟨i, msg, sourceMessage, -, hmsg, hsrc, hid, hturn⟩ := hents entry hent
    exact ⟨i, msg, (.contextCopy, sourceMessage), hmsg, by simp [forkOrigins, hsrc], hid,
      .inl ⟨rfl, hturn⟩⟩

/-- The messages of a plan are its context copies and a last message that is derived from a message
of the source turn. -/
lemma ForkMessages.of_last {copied : List Message}
    {last : List (MessageId × ConversationTurnId)} {message : Message}
    {derivation : ConversationMessageDerivationKind}
    (h : validateContextCopies s plan source 1 []
      ((plan.messages.take copied.length).zip sourceContext) = .ok (ids, inherited))
    (hcopied : copied = sourceContext.take copied.length)
    (horigins : forkOrigins kind source sourceContext
      = copied.map (.contextCopy, ·) ++ [(derivation, sourceMessage)])
    (hleng : plan.messages.length = copied.length + 1)
    (hmsg : plan.messages.getLast? = some message)
    (hder : DerivedFrom plan source plan.messages.length message derivation sourceMessage)
    (hlast : last = if message.role = .assistant then [(message.id, source.turn.id)] else [])
    (hansw : message.role = .assistant →
      derivation = .sourceAssistantCopy ∧ source.assistantMessage = some sourceMessage)
    (hctx : context = if kind = .branch then none else some plan.messages) :
    ForkMessages s plan source kind sourceContext (inherited ++ last) context := by
  obtain ⟨hcop, hids, hentr⟩ := contextCopies_derived h
  have hcount : copied.length ≤ sourceContext.length := by
    rw [hcopied, length_take]
    exact min_le_right _ _
  have hindex : plan.messages[copied.length]? = some message := by
    rw [getLast?_eq_getElem?, hleng] at hmsg
    exact hmsg
  have hsplit : plan.messages = plan.messages.take copied.length ++ [message] := by
    rw [← dropLast_append_getLast? message hmsg]
    simp [hleng]
  have hfirst : ∀ {i : ℕ}, i < copied.length → copied[i]? = sourceContext[i]? := by
    intro i hi
    rw [hcopied, List.getElem?_take, if_pos hi]
  refine ⟨by simp [horigins, hleng], ?_, ?_, ?_, hctx⟩
  · intro i message' origin hi horig
    rw [horigins, List.getElem?_append] at horig
    split at horig
    · rename_i hlt
      rw [List.length_map] at hlt
      simp only [List.getElem?_map, Option.map_eq_some_iff] at horig
      obtain ⟨src, hsrc, rfl⟩ := horig
      exact hcop i _ _ hlt hi (hfirst hlt ▸ hsrc)
    · rename_i hge
      rw [List.length_map] at hge
      have hi' := (List.getElem?_eq_some_iff.1 hi).1
      obtain rfl : i = copied.length := by omega
      obtain rfl := Option.mem_unique hi hindex
      simp only [List.length_map, Nat.sub_self, List.getElem?_cons_zero, Option.some.injEq] at horig
      subst horig
      rwa [← hleng]
  · rw [map_append, hids hcount, hlast]
    nth_rewrite 2 [hsplit]
    by_cases hrole : message.role = .assistant <;> simp [hrole]
  · intro entry hentry
    rcases mem_append.1 hentry with hentry | hentry
    · obtain ⟨i, message, src, hi, hmsg, hsour, hid, hturn⟩ := hentr entry hentry
      refine ⟨i, message, (.contextCopy, src), hmsg, ?_, hid, .inl ⟨rfl, hturn⟩⟩
      rw [horigins, List.getElem?_append_left (by simpa using hi), List.getElem?_map, hfirst hi,
        hsour]
      rfl
    · rw [hlast] at hentry
      split at hentry
      · rename_i hrole
        obtain rfl := mem_singleton.1 hentry
        obtain ⟨hkind, hass⟩ := hansw hrole
        exact ⟨copied.length, message, (derivation, sourceMessage), hindex, by simp [horigins], rfl,
          .inr ⟨hkind, hass, rfl⟩⟩
      · cases hentry

lemma ForkMessages.of_validate
    (h : validateForkMessages s plan source sourceContext kind = .ok (inherited, context))
    (hmsg : forkSourceMessage kind source = some sourceMessage)
    (hrole : kind.sourceMessageRole = sourceMessage.role) :
    ForkMessages s plan source kind sourceContext inherited context := by
  simp only [validateForkMessages, bind_eq_ok, rejectIf_eq_ok, not_or] at h
  obtain ⟨_, hne, _, ⟨hlen, -⟩, ⟨ids, inh⟩, hcop, h⟩ := h
  cases kind with
  | branch =>
    simp only [bind_eq_ok, okOr_eq_ok] at h
    obtain ⟨answer, hans, msg, hlast, rfl, rfl⟩ := h
    obtain rfl : answer = sourceMessage := Option.mem_unique hans hmsg
    obtain ⟨hmem, hder⟩ := validateLastMessage_derived hlast rfl hrole (by simp)
    have hasst : msg.role = .assistant := hder.role.trans hrole.symm
    exact .of_last hcop (by simp) (by simp [forkOrigins, hans]) (by simpa using hlen) hmem
      hder (by simp [hasst]) (fun _ => ⟨rfl, hans⟩) rfl
  | editAndBranch =>
    simp only [bind_eq_ok, pair_eq_ok] at h
    obtain ⟨edited, hedit, _, hcont, msg, hlast, _, -, rfl, rfl⟩ := h
    obtain rfl : source.userMessage = sourceMessage := Option.some.inj hmsg
    have hcnt : plan.messages.length = sourceContext.length := by
      have hpos : sourceContext ≠ [] := by simpa using hne
      have := length_pos_iff.2 hpos
      simp only [if_true] at hlen
      simp only [reduceCtorEq, if_false] at hlen
      omega
    rw [← hcnt] at hlast
    obtain ⟨hmem, hder⟩ := validateLastMessage_derived hlast rfl hrole
      (by simpa using hcont)
    have huser : msg.role ≠ .assistant := by
      rw [hder.role, ← hrole]
      decide
    rw [← append_nil inh]
    have hcpd : sourceContext.dropLast = sourceContext.take sourceContext.dropLast.length := by
      simp [dropLast_eq_take]
    exact .of_last (by simpa using hcop) hcpd rfl (by simpa using hlen) hmem hder
      (by simp [huser]) (fun hasst => absurd hasst huser) rfl
  | regenerate =>
    simp only [bind_eq_ok] at h
    obtain ⟨_, -, rfl, rfl⟩ := h
    exact .of_copies (by simpa using hcop) (by simpa using hlen)

lemma StartedFrom.of_validate {credentialBindingId : String}
    {created : Option ConversationTurnEvent}
    (h : validateForkTurnPlan s plan source credentialBindingId context kind = .ok created)
    (hctx : context = if kind = .branch then none else some plan.messages)
    {turnPlan : ConversationForkTurnPlan} (hplan : plan.startedTurn = some turnPlan) :
    StartedFrom plan source kind credentialBindingId turnPlan := by
  unfold validateForkTurnPlan at h
  split at h
  · simp [hplan] at h
  · rename_i origin hori
    simp only [hplan, bind_eq_ok, okOr_eq_ok, Option.some.injEq, exists_eq_left', rejectIf_eq_ok,
      not_or, not_not] at h
    obtain ⟨msgs, hmsgs, prompt, hlast, _, hturn, -⟩ := h
    obtain ⟨hturnOrigin, hcred, -, -, -, -, -, -, hpr, hmod, -⟩ := hturn
    have hmess' : msgs = plan.messages := by
      rw [hctx] at hmsgs
      split at hmsgs
      · cases hmsgs
      · exact (Option.some.inj hmsgs).symm
    rw [hmess'] at hlast
    exact ⟨hturnOrigin ▸ hori, hcred, hmod, prompt, hlast, hpr⟩

lemma ForkChecked.copies {prep : PreparedConversationFork} {parent : Thread}
    (h : ForkChecked s plan prep source parent kind sourceMessage) :
    ∃ sourceContext, ForkCopies s plan prep source parent kind sourceContext := by
  obtain ⟨context, hch, hcred, hfam, hmsgs, hturn, hbudg, hmod⟩ := h.parts
  simp only [validateForkChild, bind_eq_ok, rejectIf_eq_ok, okOr_eq_ok, validateForkSourceContext,
    return_eq_ok, Prod.mk.injEq, Bool.not_eq_true, Bool.not_eq_false', not_not] at hch
  obtain ⟨_, -, _, -, _, -, _, -, _, -, _, -, _, -, _, -, _, -, _, -, _, -, _, -, ctx', hfroz, _,
    ⟨_, -, _, hord, hpr⟩, _, -, _, -, _, -, rfl, -, rfl, -⟩ := hch
  simp only [validateForkFamily, bind_eq_ok, rejectIf_eq_ok, not_or, not_le] at hfam
  obtain ⟨_, -, _, -, hchil, hcnt⟩ := hfam
  have hcop := ForkMessages.of_validate hmsgs h.message h.role
  exact ⟨ctx', hfroz, hord, hpr, hchil, hcnt, hcop, hbudg, hcred, hmod,
    fun turnPlan hplan => .of_validate hturn hcop.context_eq hplan⟩

end Copies

end GrokDesktop
