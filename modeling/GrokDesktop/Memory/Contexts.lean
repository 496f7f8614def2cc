import GrokDesktop.Memory.Operations

/-!
# Frozen contexts

A reservation freezes the messages that its provider request will send. A frozen context belongs to
a stored turn and never changes; the context of a new turn is the current one of its thread, and the
context of a retried turn has as many messages and bytes as the one of its source.
-/

namespace GrokDesktop

open Except Table

section Contexts

variable {s s' : State} {input : TurnReservationInput} {turn : ConversationTurn}
  {userMsg : Message}

/-! ## The size of a context -/

lemma contentBytes_append (ctx more : List Message) :
    contentBytes (ctx ++ more) = contentBytes ctx + contentBytes more := by
  simp [contentBytes]

variable {res : Message × List Message}

/-- The context of a new prompt is the current one of its thread, and the prompt. -/
theorem captureConversationContext_size
    (h : captureConversationContext s turn userMsg = .ok res) :
    res.2.length = (eligibleMessages s turn.threadId).length + 1 ∧
      contentBytes res.2 = contentBytes (eligibleMessages s turn.threadId)
        + userMsg.content.utf8ByteSize := by
  simp only [captureConversationContext, bind_eq_ok, return_eq_ok] at h
  obtain ⟨sequence, -, _, -, _, -, rfl⟩ := h
  have hperm := List.perm_insertionSort (·.sequence ≤ ·.sequence) (eligibleMessages s turn.threadId)
  have hbytes : contentBytes (sortBySequence (eligibleMessages s turn.threadId)) =
      contentBytes (eligibleMessages s turn.threadId) := (hperm.map _).sum_eq
  rw [contentBytes_append, hbytes]
  simp [contentBytes, sortBySequence]

/-- The context of a retried prompt is as large as the context of the source turn. -/
theorem captureRetryContext_size {lineage : ConversationTurnLineage}
    {srcTurnId : ConversationTurnId} {expectedSourceRevision : ℕ}
    (h : captureRetryContext s turn lineage srcTurnId expectedSourceRevision userMsg
      = .ok res) :
    ∃ context, s.conversationContexts.lookup srcTurnId = some context ∧
      res.2.length = context.length ∧ contentBytes res.2 = contentBytes context := by
  simp only [captureRetryContext, bind_eq_ok, okOr_eq_ok, return_eq_ok, rejectIf_eq_ok, not_or,
    not_not] at h
  obtain ⟨source, -, _, -, sourceUser, -, _, hsrc, sequence, -, context, hctx, _, hlast, _, -,
    rfl⟩ := h
  obtain ⟨-, -, -, -, -, -, -, -, -, -, -, hcont⟩ := hsrc
  refine ⟨context, hctx, ?_⟩
  obtain ⟨before, rfl⟩ := List.getLast?_eq_some_iff.1 hlast
  simp [contentBytes, hcont]

/-- A frozen context has the prompt. -/
theorem captureContext_ne_nil {ctx : List Message}
    (h : captureContext s input = .ok (userMsg, ctx)) :
    ctx ≠ [] := by
  unfold captureContext at h
  split at h
  · intro hnil
    have hlen := (captureConversationContext_size h).1
    simp [hnil] at hlen
  · simp only [captureRetryContext, bind_eq_ok] at h
    obtain ⟨_, -, _, -, _, -, _, -, _, -, _, -, _, -, _, -, -, rfl⟩ := h
    simp

/-! ## Contexts never change -/

/-- Only stored turns have a frozen context. -/
def ContextsOwned (s : State) : Prop :=
  ∀ id, s.conversationTurns.lookup id = none → s.conversationContexts.lookup id = none

/-- The contexts of stored turns are kept, and still belong to stored turns. -/
structure ContextsKept (s s' : State) : Prop where
  extends_ : s.conversationContexts.Extends s'.conversationContexts
  owned : ContextsOwned s'

/-- A change that forgets no turn keeps the contexts it leaves alone. -/
theorem ContextsOwned.kept (h : ContextsOwned s)
    (hctxs : s'.conversationContexts = s.conversationContexts)
    (hts : ∀ id, s'.conversationTurns.lookup id = none → s.conversationTurns.lookup id = none) :
    ContextsKept s s' where
  extends_ := hctxs ▸ .refl _
  owned id hid := by
    rw [hctxs]
    exact h id (hts id hid)

/-- A new turn brings its context. -/
theorem ContextsOwned.insert (h : ContextsOwned s) (ctx : List Message)
    (hnew : s.conversationTurns.lookup turn.id = none)
    (hctxs : s'.conversationContexts = s.conversationContexts.insert turn.id ctx)
    (hts : s'.conversationTurns = s.conversationTurns.insert turn.id turn) :
    ContextsKept s s' where
  extends_ := hctxs ▸ .insert _ (h _ hnew)
  owned id hid := by
    by_cases hturn : id = turn.id
    · subst hturn
      rw [hts, lookup_insert_self] at hid
      cases hid
    · rw [hts, lookup_insert_of_ne _ _ hturn] at hid
      rw [hctxs, lookup_insert_of_ne _ _ hturn]
      exact h id hid

/-- Replacing the record of a turn forgets no turn. -/
lemma lookup_insert_eq_none {κ α : Type} [DecidableEq κ] {t : Table κ α} {key id : κ} {v : α}
    (h : (t.insert key v).lookup id = none) : t.lookup id = none := by
  by_cases hid : id = key
  · subst hid
    rw [lookup_insert_self] at h
    cases h
  · rwa [lookup_insert_of_ne _ _ hid] at h

variable [UrlLibrary]

variable {ends : Set ConversationTurn}

lemma Write.contexts (h : Write ends s s') (hs : ContextsOwned s) :
    ContextsKept s s' := by
  cases h with
  | journal _ hj => exact hs.kept (by rw [← hj]; rfl) (by rw [← hj]; exact fun _ h => h)
  | project project hnew
  | thread thread hproject hnew hrestore horigin
  | message message hnew hthread horiginal hsequence
  | text append evs turn log log' hchk => exact hs.kept rfl fun _ h => h
  | reserve input prep hacc hkey hchk => exact hs.insert _ hchk.newTurn rfl rfl
  | start commit cur turnEvents hchk => exact hs.kept rfl fun _ => lookup_insert_eq_none
  | terminal commit cur assistant turnEvents hchk hends =>
    exact hs.kept rfl fun _ => lookup_insert_eq_none
  | fork plan prep src parent kind srcMsg hchk =>
    cases hplan : plan.startedTurn with
    | none =>
      refine hs.kept ?_ ?_
      · simp [State.writeFork, State.writeForkThread, hplan]
      · rw [hchk.conversationTurns, hplan]
        exact fun _ h => h
    | some turnPlan =>
      obtain ⟨ctx, event, _, hctx, hev, hturn⟩ := hchk.turn turnPlan hplan
      refine hs.insert ctx hturn.newTurn ?_ ?_
      · simp [State.writeFork, State.writeForkThread, State.insertTurn, State.appendEvents, hplan,
          hctx, hev]
      · rw [hchk.conversationTurns, hplan]

lemma Writes.contexts (h : Writes ends s s') (hs : ContextsOwned s) : ContextsKept s s' := by
  induction h with
  | refl => exact ⟨.refl _, hs⟩
  | tail _ hwr ih =>
    have hnext := hwr.contexts ih.owned
    exact ⟨fun id ctx hid => hnext.extends_ id ctx (ih.extends_ id ctx hid), hnext.owned⟩

/-- The contexts of every reachable store belong to stored turns. -/
theorem run_contextsOwned (ops : List StoreOperation) :
    ContextsOwned (State.empty.run ops) :=
  ((run_writes ops).contexts fun _ _ => rfl).owned

/-! ## The context of a reservation -/

/-- A fresh reservation passed its checks; it has the turn, the lineage and the context that they
froze. -/
theorem reserveTurn_created {resv : ConversationTurnReservation}
    (h : reserveTurn s input = (.ok resv, s')) (hcre : resv.created = true) :
    ∃ prep, prepareReservation s input = .ok prep ∧
      resv.context = prep.context ∧ resv.snapshot.turn = input.turn ∧
      resv.snapshot.lineage = input.lineage ∧ input.turn.state = .reserved := by
  unfold reserveTurn at h
  split at h
  · cases h
  · rename_i hacc
    split at h
    · obtain ⟨hrepl, -⟩ := Prod.mk.inj h
      simp only [replayReservation, bind_eq_ok, return_eq_ok] at hrepl
      obtain ⟨_, -, _, -, _, -, _, -, _, -, rfl⟩ := hrepl
      cases hcre
    · split at h
      · cases h
      · rename_i prep hprep
        obtain ⟨hread, -⟩ := Prod.mk.inj h
        simp only [bind_eq_ok, okOr_eq_ok, return_eq_ok] at hread
        obtain ⟨turn, hsto, snap, hsnap, rfl⟩ := hread
        obtain ⟨hturn, hrecs, -⟩ := conversationSnapshotWith_eq_ok.1 hsnap
        have hinput : some input.turn = some turn :=
          (lookup_insert_self _ _ _).symm.trans hsto
        have hturn' : snap.turn = input.turn := hturn.trans (Option.some.inj hinput).symm
        have hlin : some input.lineage = some snap.lineage := by
          rw [← hrecs.lineage, hturn']
          exact (lookup_insert_self _ _ _).symm
        refine ⟨prep, hprep, rfl, hturn', (Option.some.inj hlin).symm, ?_⟩
        simp only [Bool.not_eq_true, Bool.not_eq_false', acceptsReservationInput,
          isCanonicalReservationInput, Bool.and_eq_true, decide_eq_true_eq] at hacc
        tauto

variable {prep : PreparedReservation}

/-- The context of a checked reservation is the one its source names. -/
theorem prepareReservation_context (h : prepareReservation s input = .ok prep) :
    ∃ userMsg, captureContext s input = .ok (userMsg, prep.context) := by
  simp only [prepareReservation, bind_eq_ok, return_eq_ok] at h
  obtain ⟨_, -, _, -, _, -, _, -, _, -, _, -, _, -, ⟨userMsg, ctx⟩, hctx, _, -, _, -, rfl⟩ := h
  exact ⟨userMsg, hctx⟩

/-- A reservation that passes its checks is committed and returned. -/
theorem reserveTurn_of_prepared (hs : Consistent s)
    (hacc : acceptsReservationInput input = true)
    (hkey : s.conversationTurnKeys.lookup input.turn.idempotencyKey = none)
    (hprep : prepareReservation s input = .ok prep) :
    ∃ resv, (reserveTurn s input).1 = .ok resv ∧ resv.created = true := by
  have hwrs : Writes Set.univ s (reserveTurn s input).2 := reserveTurn_writes input
  have hs' : Consistent (reserveTurn s input).2 := (hwrs.updates hs).consistent hs
  have hresv : reserveTurn s input = writeThenRead s (.ok (s.writeReservation input prep))
      fun s' => do
        let turn ← okOr (s'.conversationTurns.lookup input.turn.id)
          (.internal "conversation reservation was not stored")
        let snapshot ← conversationSnapshot s' turn
        return { snapshot := snapshot, context := prep.context, created := true } := by
    unfold reserveTurn
    rw [hacc, hkey, hprep]
    rfl
  rw [hresv] at hs' ⊢
  have hturn : (s.writeReservation input prep).conversationTurns.lookup input.turn.id
      = some input.turn := lookup_insert_self _ _ _
  obtain ⟨-, snapshot, hsnap, hread⟩ := hs'.turn _ _ hturn
  have hload : conversationSnapshot (s.writeReservation input prep) input.turn
      = .ok snapshot := hsnap ▸ hs'.conversationSnapshot hread
  refine ⟨⟨snapshot, prep.context, true⟩, ?_, rfl⟩
  simp only [writeThenRead, bind_eq_ok, okOr_eq_ok]
  exact ⟨input.turn, hturn, snapshot, hload, rfl⟩

end Contexts

end GrokDesktop
