import GrokDesktop.Memory.Lineage

/-!
# The operations that make turns and copies

Only the reservation of a turn and the fork of a thread make a turn, and only forks make messages
that are derived from others. An operation is one of these two writes, or it leaves the lineages and
the contexts of turns as they are and adds no message but original ones.
-/

namespace GrokDesktop

open Except

section Origins

variable [UrlLibrary] {s s' : State}

/-! ## Operations that make a turn or a copy -/

/-- The operation is the reservation that is written. -/
structure Reserves (s : State) (operation : StoreOperation) (input : TurnReservationInput)
    (prepared : PreparedReservation) : Prop where
  operation_eq : operation = .reserveTurn input
  accepts : acceptsReservationInput input = true
  checked : ReservationChecked s input prepared
  apply_eq : operation.apply s = s.writeReservation input prepared

/-- The operation is the fork that is written. -/
structure Forks (s : State) (operation : StoreOperation) (plan : ConversationForkPlan)
    (prepared : PreparedConversationFork) (source : ConversationTurnSnapshot) (parent : Thread)
    (kind : ConversationForkKind) (sourceMessage : Message) : Prop where
  operation_eq : operation = .reserveConversationFork plan
  checked : ForkChecked s plan prepared source parent kind sourceMessage
  apply_eq : operation.apply s = s.writeFork plan prepared

/-- A fork command that reports a new child has checked and written the fork of its plan. -/
theorem reserveConversationFork_created {plan : ConversationForkPlan}
    {resv : ConversationForkReservation}
    (h : (reserveConversationFork s plan).1 = .ok resv) (hcre : resv.created = true) :
    ∃ prep src parent kind sourceMessage, Forks s (.reserveConversationFork plan) plan prep
      src parent kind sourceMessage := by
  suffices hwritten : ∃ prep src parent kind sourceMessage,
      ForkChecked s plan prep src parent kind sourceMessage ∧
      (reserveConversationFork s plan).2 = s.writeFork plan prep by
    obtain ⟨prep, src, parent, kind, sourceMessage, hchk, hwr⟩ := hwritten
    exact ⟨prep, src, parent, kind, sourceMessage, rfl, hchk, hwr⟩
  unfold reserveConversationFork at h ⊢
  split at h
  · cases h
  · split at h
    · cases h
    · split at h
      · obtain ⟨_, -, rfl⟩ := map_eq_ok.1 h
        cases hcre
      · split at h
        · cases h
        · cases h
          cases hcre
        · split at h
          · cases h
          · rename_i hsc _ _ _ _ _ _ _ _ hchecks
            obtain ⟨⟨src, parent, kind, sourceMessage, hchk⟩, rfl⟩ :=
              checkedFork_eq_ok hchecks
            refine ⟨_, src, parent, kind, sourceMessage, hchk, ?_⟩
            rw [if_neg hsc]

/-- An operation writes a reservation, or writes a fork, or derives nothing. -/
theorem StoreOperation.origins (s : State) (op : StoreOperation) :
    (∃ input prep, Reserves s op input prep) ∨
    (∃ plan prep src parent kind srcMsg, Forks s op plan prep src parent kind srcMsg) ∨
    NothingDerived s (op.apply s) := by
  cases op with
  | createProject project cmd => exact .inr (.inr (createProject_quiet project cmd).derived)
  | createThread thread cmd => exact .inr (.inr (createThread_quiet thread cmd).derived)
  | createMessage msg cmd => exact .inr (.inr (createMessage_quiet msg cmd).derived)
  | reserveTurn input =>
    rcases reserveTurn_cases (s := s) input with heq | ⟨prep, hacc, -, hchk, heq⟩
    · refine .inr (.inr ?_)
      change NothingDerived s (GrokDesktop.reserveTurn s input).2
      rw [heq]
      exact .refl s
    · exact .inl ⟨input, prep, rfl, hacc, hchk, heq⟩
  | reserveConversationFork plan =>
    rcases reserveConversationFork_cases (s := s) plan with
      hjournals | ⟨prep, src, parent, kind, srcMsg, hchk, hwr⟩
    · exact .inr (.inr (.of_journals hjournals))
    · exact .inr (.inl ⟨plan, prep, src, parent, kind, srcMsg, rfl, hchk, hwr⟩)
  | resolveConversationForkCommand cmd =>
    exact .inr (.inr (.of_journals (resolveConversationForkCommand_journals cmd rfl)))
  | acknowledgeConversationForkDelivery cmd childThreadId expected =>
    exact .inr (.inr (.of_journals (acknowledgeConversationForkDelivery_journals cmd
      childThreadId expected rfl)))
  | commitProviderStart commit => exact .inr (.inr (commitProviderStart_quiet commit).derived)
  | appendTurnText append => exact .inr (.inr (appendTurnText_quiet append).derived)
  | commitTerminal commit => exact .inr (.inr (commitTerminal_quiet commit).derived)
  | commitCancellation commit | commitDispatchExitReconciliation commit =>
    exact .inr (.inr (commitConversationCancellation_quiet commit _).derived)

end Origins

end GrokDesktop
