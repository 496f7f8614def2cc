import GrokDesktop.Memory.Prompts

/-!
# The child of a fork

What a fork command has made can be read again for as long as the store lives: the child thread, the
copied messages, which are numbered without gaps, and the turn that the fork started. `ForkChild`
says that these records are there. A fork makes them and every later operation keeps them.
-/

namespace GrokDesktop

open Except Table List

section Children

variable {s s' : State} {kind : ConversationForkKind} {plan : ConversationForkPlan}
  {src : ConversationTurnSnapshot} {record : ConversationForkCommandRecord}

/-- The records that a fork command with this outcome has made. -/
structure ForkChild (s : State) (record : ConversationForkCommandRecord)
    (kind : ConversationForkKind) : Prop where
  thread : ∃ thread, s.threads.lookup record.childThreadId = some thread ∧
    conversationForkKind thread = .ok kind
  /-- The copied messages are numbered from one to their count. -/
  copies : ∃ count, 0 < count ∧
    (∀ id message, s.messages.lookup id = some message →
      message.threadId = record.childThreadId → message.derivation ≠ .original →
        message.restore.isOk = true ∧ 0 < message.sequence ∧ message.sequence ≤ count) ∧
    ∀ sequence, 0 < sequence → sequence ≤ count → ∃ id message,
      s.messages.lookup id = some message ∧ message.threadId = record.childThreadId ∧
        message.derivation ≠ .original ∧ message.sequence = sequence
  /-- A branch starts no turn, and another fork starts one. -/
  branch : record.startedTurnId = none ↔ kind = .branch
  turn : ∀ turnId, record.startedTurnId = some turnId → ∃ turn,
    s.conversationTurns.lookup turnId = some turn ∧ turn.threadId = record.childThreadId ∧
      turn.requestFingerprint = record.fingerprint

/-- Messages with the sequences from a number on, without gaps, are numbered. -/
lemma copiesAreNumbered_of_sequences {msgs : List Message} {first : ℕ}
    (hrsd : ∀ msg ∈ msgs, msg.restore.isOk = true)
    (hseq : msgs.map Message.sequence = range' first msgs.length) :
    copiesAreNumbered first msgs = true := by
  induction msgs generalizing first with
  | nil => rfl
  | cons msg rest ih =>
    simp only [map_cons, length_cons, range'_succ, cons.injEq] at hseq
    have hrest := ih (fun msg hmsg => hrsd msg (mem_cons_of_mem _ hmsg))
      hseq.2
    simp [copiesAreNumbered, hrsd msg mem_cons_self, hseq.1, hrest]

/-- The copied messages of a child, sorted, are numbered from one without gaps. -/
theorem ForkChild.numbered (h : ForkChild s record kind) (hkey : MessagesKeyed s)
    (hseqd : Sequenced s.messages) :
    let msgs := sortBySequence ((s.threadMessages record.childThreadId).filter
      fun msg => !msg.derivation.isOriginal)
    msgs ≠ [] ∧ copiesAreNumbered 1 msgs = true := by
  obtain ⟨count, hpos, hval, heach⟩ := h.copies
  intro msgs
  have hperm : msgs.Perm ((s.threadMessages record.childThreadId).filter
      fun msg => !msg.derivation.isOriginal) := perm_insertionSort _ _
  have hmem : ∀ msg, msg ∈ msgs ↔ ∃ id, s.messages.lookup id = some msg ∧
      msg.threadId = record.childThreadId ∧ msg.derivation ≠ .original := by
    intro msg
    rw [hperm.mem_iff]
    simp only [State.threadMessages, mem_filter, mem_values, decide_eq_true_eq,
      Bool.not_eq_true', ne_eq, ← ConversationMessageDerivation.isOriginal_iff,
      Bool.not_eq_true]
    tauto
  have hsort : (msgs.map Message.sequence).Pairwise (· < ·) :=
    pairwise_map.2 (hseqd.sorted hkey filter_sublist)
  have hrange : msgs.map Message.sequence = range' 1 count := by
    refine hsort.eq_of_mem_iff pairwise_lt_range' fun seq => ?_
    rw [mem_map, mem_range'_1]
    constructor
    · rintro ⟨msg, hmsg, rfl⟩
      obtain ⟨id, hid, hthr, hder⟩ := (hmem msg).1 hmsg
      have := (hval id msg hid hthr hder).2
      omega
    · rintro ⟨hlower, hupper⟩
      obtain ⟨id, msg, hid, hthr, hder, hseq⟩ :=
        heach seq (by omega) (by omega)
      exact ⟨msg, (hmem msg).2 ⟨id, hid, hthr, hder⟩, hseq⟩
  have hcnt : msgs.length = count := by
    simpa using congrArg length hrange
  refine ⟨length_pos_iff.1 (by omega), copiesAreNumbered_of_sequences ?_ (hcnt ▸ hrange)⟩
  intro msg hmsg
  obtain ⟨id, hid, hthr, hder⟩ := (hmem msg).1 hmsg
  exact (hval id msg hid hthr hder).1

/-- The frozen context of the turn that a fork started can be read. -/
theorem ForkChild.context (h : ForkChild s record kind) (hs : PromptRecords s) :
    ∃ context, forkCommandContext s record = .ok context := by
  unfold forkCommandContext linkedRecord
  cases hturnId : record.startedTurnId with
  | none => exact ⟨none, rfl⟩
  | some turnId =>
    obtain ⟨turn, hturn, -⟩ := h.turn turnId hturnId
    obtain ⟨context, hctx, -⟩ := hs.context _ _ hturn
    exact ⟨some context, by simp only [hctx]⟩

/-! ## Later operations -/

/-- What an operation keeps of the children of earlier forks. -/
structure KeepsChildren (s s' : State) : Prop where
  threads : s.threads.Extends s'.threads
  messages : s.messages.Extends s'.messages
  /-- Copied messages are added to new threads only. -/
  copies : ∀ id message, s'.messages.lookup id = some message → message.derivation ≠ .original →
    s.messages.lookup id = some message ∨ s.threads.lookup message.threadId = none
  turns : ∀ id turn, s.conversationTurns.lookup id = some turn → ∃ turn',
    s'.conversationTurns.lookup id = some turn' ∧ turn'.threadId = turn.threadId ∧
      turn'.requestFingerprint = turn.requestFingerprint

/-- Such an operation keeps the children. -/
theorem ForkChild.keep (h : ForkChild s record kind) (hkeeps : KeepsChildren s s') :
    ForkChild s' record kind := by
  obtain ⟨thread, hthr, hkind⟩ := h.thread
  obtain ⟨count, hpos, hval, heach⟩ := h.copies
  refine ⟨⟨thread, hkeeps.threads _ _ hthr, hkind⟩, ⟨count, hpos, ?_, ?_⟩, h.branch, ?_⟩
  · intro id msg hid hch hder
    rcases hkeeps.copies id msg hid hder with hold | hnew
    · exact hval id msg hold hch hder
    · rw [hch, hthr] at hnew
      cases hnew
  · intro seq hlower hupper
    obtain ⟨id, msg, hid, hrest⟩ := heach seq hlower hupper
    exact ⟨id, msg, hkeeps.messages _ _ hid, hrest⟩
  · intro turnId hturnId
    obtain ⟨turn, hturn, hch, hfp⟩ := h.turn turnId hturnId
    obtain ⟨turn', hturn', hthr', hfing'⟩ := hkeeps.turns _ _ hturn
    exact ⟨turn', hturn', hthr'.trans hch, hfing'.trans hfp⟩

variable [UrlLibrary]

/-- A stored turn keeps its thread and its request. -/
lemma Writes.turn_kept {ends : Set ConversationTurn} (h : Writes ends s s')
    {id : ConversationTurnId} {turn : ConversationTurn}
    (hturn : s.conversationTurns.lookup id = some turn) : ∃ turn',
      s'.conversationTurns.lookup id = some turn' ∧ turn'.threadId = turn.threadId ∧
        turn'.requestFingerprint = turn.requestFingerprint := by
  induction h with
  | refl => exact ⟨turn, hturn, rfl, rfl⟩
  | tail _ hwr ih =>
    obtain ⟨turn', hturn', hthr, hfp⟩ := ih
    rcases hwr.turn_cases id with hsame | ⟨hnone, -⟩ | ⟨old, new, hold, hnew, -, hmov, -⟩
    · exact ⟨turn', hsame.trans hturn', hthr, hfp⟩
    · rw [hturn'] at hnone
      cases hnone
    · obtain rfl := Option.mem_unique hturn' hold
      exact ⟨new, hnew, hmov.threadId.trans hthr, hmov.requestFingerprint.trans hfp⟩

/-- Every operation keeps the children of earlier forks. -/
theorem StoreOperation.keepsChildren (hs : Recorded s) (op : StoreOperation) :
    KeepsChildren s (op.apply s) where
  threads := (op.writes.updates hs.consistent).extends_.1
  messages := (op.writes.prompt_old hs).1
  copies id msg hid hderived := by
    rcases StoreOperation.origins s op with ⟨input, prep, hresv⟩ |
      ⟨plan, prep, src, parent, kind, srcMsg, hfks⟩ | hnoth
    · rw [hresv.apply_eq] at hid
      rcases lookup_insert_cases hid with hold | ⟨-, rfl⟩
      · exact .inl hold
      · obtain ⟨seq, hseqd⟩ := hresv.checked.sequenced
        rw [hseqd] at hderived
        exact absurd (acceptsReservationInput_parts hresv.accepts).2.1 hderived
    · rw [hfks.apply_eq, State.writeFork_messages] at hid
      rcases lookup_insertAll_cases _ _ hid with hold | ⟨hmem, -⟩
      · exact .inl hold
      · obtain ⟨srcCtx, hcop⟩ := hfks.checked.copies
        obtain ⟨i, hi⟩ := List.getElem?_of_mem hmem
        rw [(hcop.messages.sequence hi).1]
        exact .inr hfks.checked.newThread
    · rcases hnoth.messages id msg hid with hold | horig
      · exact .inl hold
      · exact absurd horig hderived
  turns _ _ hturn := op.writes.turn_kept hturn

/-! ## A new child -/

/-- A branch starts no turn, another fork starts one, and its turn carries the request of the
plan. -/
lemma validateForkTurnPlan_started {binding : String} {ctx : Option (List Message)}
    {created : Option ConversationTurnEvent}
    (h : validateForkTurnPlan s plan src binding ctx kind = .ok created) :
    (plan.startedTurn = none ↔ kind = .branch) ∧ ∀ turnPlan, plan.startedTurn = some turnPlan →
      turnPlan.turn.requestFingerprint = plan.command.fingerprint := by
  unfold validateForkTurnPlan at h
  split at h
  · rename_i hori
    have hkind : kind = .branch := by
      cases kind with
      | branch => rfl
      | editAndBranch => cases hori
      | regenerate => cases hori
    split at h
    · rename_i hnone
      have hstd : plan.startedTurn = none := by simpa using hnone.1
      exact ⟨iff_of_true hstd hkind, fun turnPlan hplan => by simp [hstd] at hplan⟩
    · cases h
  · rename_i origin hori
    have hkind : kind ≠ .branch := by
      rintro rfl
      cases hori
    simp only [bind_eq_ok, okOr_eq_ok, rejectIf_eq_ok, not_or, not_not] at h
    obtain ⟨started, hstd, _, -, _, -, _, ⟨-, -, -, -, -, hfp, -⟩, -⟩ := h
    refine ⟨iff_of_false (by simp [hstd]) hkind, fun turnPlan hplan => ?_⟩
    obtain rfl := Option.mem_unique hstd hplan
    exact hfp

/-- A checked fork makes the records of its child. -/
theorem ForkChecked.child {prep : PreparedConversationFork} {parent : Thread}
    {srcMsg : Message} (h : ForkChecked s plan prep src parent kind srcMsg)
    (hs : ForkRecords s) : ForkChild (s.writeFork plan prep) (forkCommandRecord plan) kind := by
  obtain ⟨_, -, -, -, hmsgs, hturn, -⟩ := h.parts
  obtain ⟨-, hne, hrsd, -⟩ := validateForkMessages_eq_ok hmsgs
  obtain ⟨hbran, hfp⟩ := validateForkTurnPlan_started hturn
  obtain ⟨srcCtx, hcop⟩ := h.copies
  refine ⟨⟨plan.childThread, ?_, ?_⟩, ⟨plan.messages.length, length_pos_iff.2 hne, ?_, ?_⟩, ?_, ?_⟩
  · rw [State.writeFork_threads]
    exact lookup_insert_self _ _ _
  · simp [conversationForkKind, h.origin]
  · intro id msg hid hch hder
    rw [State.writeFork_messages] at hid
    rcases lookup_insertAll_cases _ _ hid with hold | ⟨hmem, -⟩
    · -- no message belongs to a thread that is not stored
      obtain ⟨_, hsto⟩ := contains_iff.1 (hs.message _ _ hold).owned
      rw [hch, forkCommandRecord, h.newThread] at hsto
      cases hsto
    · obtain ⟨i, hi⟩ := List.getElem?_of_mem hmem
      have hlt := (List.getElem?_eq_some_iff.1 hi).1
      have hseq := (hcop.messages.sequence hi).2
      exact ⟨hrsd msg hmem, by omega, by omega⟩
  · intro seq hlower hupper
    have hlt : seq - 1 < plan.messages.length := by omega
    have hi := List.getElem?_eq_getElem hlt
    have hmem := getElem_mem hlt
    obtain ⟨hthr, hseq⟩ := hcop.messages.sequence hi
    refine ⟨plan.messages[seq - 1].id, plan.messages[seq - 1], ?_, hthr, ?_, by omega⟩
    · rw [State.writeFork_messages]
      exact lookup_insertAll_of_mem _ _ hmem h.messages.2
    · have hlt' : seq - 1 < (forkOrigins kind src srcCtx).length := by
        rw [← hcop.messages.length_eq]
        exact hlt
      have hder := hcop.messages.derived _ _ _ hi (List.getElem?_eq_getElem hlt')
      rw [hder.derivation]
      simp
  · simp [forkCommandRecord, hbran]
  · intro turnId hturnId
    obtain ⟨turnPlan, hplan, rfl⟩ := Option.map_eq_some_iff.1 hturnId
    obtain ⟨_, _, _, -, -, hchk⟩ := h.turn turnPlan hplan
    refine ⟨turnPlan.turn, ?_, hchk.threadId, hfp turnPlan hplan⟩
    rw [h.conversationTurns, hplan]
    exact lookup_insert_self _ _ _

/-! ## Reading a child again -/

/-- The child of a fork command can be read when its delivery can. -/
theorem ForkChild.snapshot (h : ForkChild s record kind) (hs : Recorded s)
    {deliveryRecord : ConversationForkDeliveryRecord} {delivery : ConversationForkDelivery}
    (hsto : s.conversationForkDeliveries.lookup record.childThreadId = some deliveryRecord)
    (hsc : deliveryRecord.scope = conversationForkScope kind)
    (hfp : deliveryRecord.requestFingerprint = record.fingerprint)
    (hdel : conversationForkDelivery s record.childThreadId = .ok delivery) :
    ∃ snap, conversationForkSnapshot s record = .ok snap ∧
      snap.childThread.id = record.childThreadId := by
  obtain ⟨thread, hthr, hkind⟩ := h.thread
  obtain ⟨hid, hrsd, -⟩ := hs.consistent.thread _ _ hthr
  have hlin : validatePersistedThreadLineage s thread = .ok () :=
    hs.consistent.validateLineageWithin (by rw [hid]; exact hthr)
      ((Thread.forkDepth_le_of_restore hrsd).trans (by decide))
  obtain ⟨hne, hnumb⟩ := h.numbered hs.forks.keyed hs.prompts.sequenced
  obtain ⟨startedTurn, hstd, hnone, hturn⟩ : ∃ startedTurn,
      startedTurnSnapshot s record.startedTurnId = .ok startedTurn ∧
      (kind = .branch ↔ startedTurn = none) ∧ ∀ turn, startedTurn = some turn →
        turn.turn.threadId = record.childThreadId ∧
        turn.turn.requestFingerprint = record.fingerprint := by
    cases hturnId : record.startedTurnId with
    | none => exact ⟨none, rfl, by simp [← h.branch, hturnId], by simp⟩
    | some turnId =>
      obtain ⟨turn, hturn, hrest⟩ := h.turn turnId hturnId
      obtain ⟨-, snap, rfl, hread⟩ := hs.consistent.turn _ _ hturn
      refine ⟨some snap, ?_, by simp [← h.branch, hturnId], ?_⟩
      · simp [startedTurnSnapshot, hturn, hs.consistent.conversationSnapshot hread]
      · intro turn' heq
        obtain rfl := Option.some.inj heq
        exact hrest
  have hmatch : ¬ (decide (kind = .branch) ≠ startedTurn.isNone ∨ startedTurn.any fun turn =>
      turn.turn.threadId ≠ thread.id || turn.turn.requestFingerprint ≠ record.fingerprint) := by
    cases startedTurn with
    | none => simpa using hnone
    | some turn =>
      obtain ⟨hch, hreq⟩ := hturn turn rfl
      simpa [hid, hch, hreq] using hnone
  rw [← hid] at hne hnumb hsto hdel
  refine ⟨⟨thread, sortBySequence ((s.threadMessages thread.id).filter
    fun msg => !msg.derivation.isOriginal), startedTurn, delivery⟩, ?_, hid⟩
  simp only [conversationForkSnapshot, bind_eq_ok, rejectIf_eq_ok, okOr_eq_ok, mapError_eq_ok,
    exists_const]
  refine ⟨thread, hthr, by simp [hrsd], (), hlin, kind, hkind, deliveryRecord, hsto,
    by simp [hsc], ?_, startedTurn, hstd, hmatch, by simp [hfp], delivery,
    hdel, rfl⟩
  simp [hne, hnumb]

end Children

end GrokDesktop
